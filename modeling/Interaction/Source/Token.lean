import Interaction.Source.Trivia
import Interaction.Unicode.Letter
import Interaction.Diagram.Basic

/-! # Words of a source text

Names, texts in quotes, keywords and arrows. Each rule starts at its word: trivia in front of it has
been read before. -/

namespace Interaction.Source
open Rule

/-- A character of a name, behind the first. -/
def isNameChar (c : Char) : Bool := isAlphanumeric c || c == '_'

/-- The word ends here. -/
def wordEnd : Rule Unit
  | [] => .read () []
  | c :: s => if isNameChar c then .refused else .read () (c :: s)

/-- The word `w`, not as the beginning of a longer one. -/
def keyword (w : String) : Rule Unit := do
  mark w
  wordEnd

/-- A letter and all name characters behind it. -/
def name : Rule String
  | [] => .refused
  | c :: s =>
    if isLetter c then .read (String.ofList (c :: s.takeWhile isNameChar)) (s.dropWhile isNameChar)
    else .refused

/-- The characters between two quotes `q`, the first of which has been read. Nothing in them is
special. -/
def textUntil (q : Char) : Rule String := fun s =>
  match s.dropWhile (· != q) with
  | [] => .failed (.unclosedText q) []
  | _ :: r => .read (String.ofList (s.takeWhile (· != q))) r

/-- A text in double or single quotes. -/
def text : Rule String
  | '"' :: s => textUntil '"' s
  | '\'' :: s => textUntil '\'' s
  | _ => .refused

def expectName : Rule String := name.orFail .missingName

def expectText : Rule String := text.orFail .missingText

/-- The character `c` and no other. -/
def expectMark (c : Char) : Rule Unit
  | [] => .failed (.missing c) []
  | d :: s => if d = c then .read () s else .failed (.missing c) (d :: s)

def arrow : Rule Arrow :=
  (do mark "->"; pure .normal) <|>
  (do mark "..>"; pure .repair) <|>
  (do mark "=>"; pure .simultaneous)

/-- An arrow and the name of its target. -/
def transition : Rule Transition := do
  let a ← arrow
  trivia
  let target ← expectName
  pure { target, arrow := a }

/-- `p` behind trivia. -/
def spaced {α : Type} (p : Rule α) : Rule α := do
  trivia
  p

/-- The text behind the label `w`, as in `topic: "…"`. -/
def labelled (w : String) : Rule String := do
  mark w
  spaced expectText

end Interaction.Source
