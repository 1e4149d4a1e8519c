/-! # Places in a source text

A place is known by the text in front of it: how many characters, which line, and which column of
it. Lines end at a line feed. -/

namespace Interaction

/-- Lines and columns count from one, the position from zero; all three count characters. -/
structure Place where
  line : Nat
  column : Nat
  position : Nat
deriving DecidableEq, Repr

/-- The place behind the text `consumed`. -/
def Place.after (consumed : List Char) : Place where
  line := consumed.count '\n' + 1
  column := (consumed.reverse.takeWhile (· ≠ '\n')).length + 1
  position := consumed.length

end Interaction
