import Interaction.Width.Ahead

/-! # Columns of a text

`displayWidth` counts the columns of a text on one line, `multilineWidth` those of its widest line.
Lines end at a line feed, which one carriage return may precede. -/

namespace Interaction.Width

/-- Columns of `cs` together with what stands at its front. -/
def measure (cs : List Char) : Int × Ahead :=
  cs.foldr (fun c r => let n := r.2.step c; (r.1 + n.1, n.2)) (0, .nothing)

/-- The lines of a text; a line break at the very end opens no line. -/
def lines : List Char → List (List Char)
  | [] => []
  | '\r' :: '\n' :: cs => [] :: lines cs
  | c :: cs =>
    if c = '\n' then [] :: lines cs
    else match lines cs with
      | [] => [[c]]
      | l :: ls => (c :: l) :: ls

end Interaction.Width

namespace Interaction
open Width

/-- Columns that `s` takes when it is shown on one line. -/
def displayWidth (s : String) : Nat := (measure s.toList).1.toNat

/-- Columns of the widest line of `s`. -/
def multilineWidth (s : String) : Nat :=
  ((lines s.toList).map fun l => (measure l).1.toNat).foldl max 0

end Interaction
