import Interaction.Source.Rule
import Interaction.Unicode.Blank

/-! # White space and comments

Trivia stands between the words of a source text: runs of space, tab and line breaks, comments from
`//` or `%` to the end of the line, and comments between `/*` and `*/`. A line ends at a line feed,
at a carriage return with a line feed, or with the text; a carriage return alone spoils the line
comment it is in. -/

namespace Interaction.Source
open Rule

def isBreak (c : Char) : Bool := c == '\r' || c == '\n'

/-- One blank or more. -/
def blanks : Rule Unit
  | [] => .refused
  | c :: s => if isBlank c then .read () (s.dropWhile isBlank) else .refused

/-- Up to the end of the line, which stays. -/
def lineRest : Rule Unit := fun s =>
  match s.dropWhile (! isBreak ·) with
  | ['\r'] => .refused
  | '\r' :: c :: r => if c = '\n' then .read () ('\r' :: c :: r) else .refused
  | r => .read () r

def lineComment : Rule Unit := do
  mark "//" <|> mark "%"
  lineRest

/-- The text behind the first `*/`. -/
def behindClose? : List Char → Option (List Char)
  | '*' :: '/' :: r => some r
  | _ :: r => behindClose? r
  | [] => none

/-- A comment that is opened has to be closed; the fault is right behind the opening. -/
def blockComment : Rule Unit := do
  mark "/*"
  fun s => match behindClose? s with
    | some r => .read () r
    | none => .failed .unclosedComment s

/-- One run of blanks or one comment. -/
def triviaUnit : Rule Unit := blanks <|> lineComment <|> blockComment

/-- All trivia there is, perhaps none. -/
def trivia : Rule Unit := do
  let _ ← many triviaUnit

end Interaction.Source
