import Interaction.Number.Decimal

/-! # JSON

Values with the members of an object in a fixed order, and their text: compact, or with every entry
on a line of its own. -/

namespace Interaction

inductive Json where
  | null
  | bool (b : Bool)
  | number (x : Binary64)
  | count (n : Nat)
  | string (s : String)
  | array (items : List Json)
  | object (members : List (String × Json))
deriving Repr

namespace Json

/-- How the parts of a value are set apart. -/
inductive Spacing where
  | compact
  | indented
deriving DecidableEq, Repr

/-- Numbers from `1e-5` to below `1e16` are written by position. -/
def pointRange : PointRange := ⟨-4, 16⟩

/-- The last two digits of a control character's escape. -/
def hexPair (n : Nat) : List Char := [Nat.digitChar (n / 16), Nat.digitChar (n % 16)]

/-- A character inside a string. Quotes, backslashes and control characters are escaped. -/
def escape (c : Char) : List Char :=
  match c with
  | '"' => ['\\', '"']
  | '\\' => ['\\', '\\']
  | '\n' => ['\\', 'n']
  | '\r' => ['\\', 'r']
  | '\t' => ['\\', 't']
  | '\x08' => ['\\', 'b']
  | '\x0c' => ['\\', 'f']
  | c => if c.toNat < 0x20 then ['\\', 'u', '0', '0'] ++ hexPair c.toNat else [c]

/-- A string in quotes. -/
def quote (s : String) : List Char := '"' :: (s.toList.flatMap escape ++ ['"'])

namespace Spacing

/-- A new line at depth `d`. -/
def newline : Spacing → Nat → List Char
  | .compact, _ => []
  | .indented, d => '\n' :: List.replicate (2 * d) ' '

def colon : Spacing → List Char
  | .compact => [':']
  | .indented => [':', ' ']

end Spacing

mutual

/-- The text of a value that starts at depth `d`. -/
def write (sp : Spacing) (d : Nat) : Json → List Char
  | .null => "null".toList
  | .bool b => (if b then "true" else "false").toList
  | .number x => x.text pointRange
  | .count n => Nat.toDigits 10 n
  | .string s => quote s
  | .array [] => ['[', ']']
  | .array (j :: js) =>
    '[' :: (sp.newline (d + 1) ++ write sp (d + 1) j ++ writeItems sp (d + 1) js ++
      sp.newline d ++ [']'])
  | .object [] => ['\x7b', '\x7d']
  | .object ((k, j) :: ms) =>
    '\x7b' :: (sp.newline (d + 1) ++ quote k ++ sp.colon ++ write sp (d + 1) j ++
      writeMembers sp (d + 1) ms ++ sp.newline d ++ ['\x7d'])

/-- The items behind the first. -/
def writeItems (sp : Spacing) (d : Nat) : List Json → List Char
  | [] => []
  | j :: js => ',' :: (sp.newline d ++ write sp d j ++ writeItems sp d js)

/-- The members behind the first. -/
def writeMembers (sp : Spacing) (d : Nat) : List (String × Json) → List Char
  | [] => []
  | (k, j) :: ms =>
    ',' :: (sp.newline d ++ quote k ++ sp.colon ++ write sp d j ++ writeMembers sp d ms)

end

/-- The text of a value. -/
def render (sp : Spacing) (j : Json) : String := String.ofList (j.write sp 0)

/-- The text of a value without any white space between its parts. -/
def compact (j : Json) : String := j.render .compact

/-- The text of a value over many lines, two spaces to a level. -/
def pretty (j : Json) : String := j.render .indented

/-- A value that may be missing: `null` then. -/
def orNull {α : Type} (f : α → Json) : Option α → Json
  | some a => f a
  | none => .null

/-- A member that is left out when there is no value for it. -/
def member? {α : Type} (key : String) (f : α → Json) (a : Option α) : List (String × Json) :=
  (a.map fun a => (key, f a)).toList

end Json
end Interaction
