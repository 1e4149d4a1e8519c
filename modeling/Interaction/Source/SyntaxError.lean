import Interaction.Source.Place
import Interaction.Unicode.Utf8

/-! # Errors of a source text -/

namespace Interaction

/-- What is wrong with a source text. -/
inductive Fault where
  /-- The caller's own words. -/
  | stated (words : String)
  | missing (mark : Char)
  | missingName
  | missingText
  | missingScene
  | unclosedText (quote : Char)
  | unclosedComment
  | nestedTooDeep
  | notAnElement
deriving DecidableEq, Repr

namespace Fault

/-- Nothing that fits, and no name for what would have. -/
def unexpected : Fault := .stated ""

/-- The words that introduce an element. -/
def elementWords : String :=
  "`scene`, `main scene`, `global`, `start`, `end`, `break`, `fork`, `process`, " ++
    "`external` or `contact`"

def message : Fault → String
  | .stated words => if words.isEmpty then "unexpected input" else words
  | .missing mark => "expected `" ++ mark.toString ++ "`"
  | .missingName => "expected identifier"
  | .missingText => "expected string literal"
  | .missingScene => "expected `scene`"
  | .unclosedText quote => "expected `" ++ quote.toString ++ "`, string literal"
  | .unclosedComment => "expected `*/`"
  | .nestedTooDeep => "invalid flow grouping; expected at most 64 nested groupings"
  | .notAnElement => "invalid element; expected " ++ elementWords

end Fault

/-- A fault and the place where it shows. -/
structure SyntaxError where
  fault : Fault
  place : Place
deriving DecidableEq, Repr

namespace SyntaxError

/-- The fault at the byte `offset` of `source`, or at the end if no character starts there. -/
def atByte (source : String) (offset : Nat) (fault : Fault) : SyntaxError :=
  ⟨fault, .after ((bytePrefix? offset source.toList).getD source.toList)⟩

/-- The fault in front of `rest`, which ends `source`. -/
def before (source rest : List Char) (fault : Fault) : SyntaxError :=
  ⟨fault, .after (source.take (source.length - rest.length))⟩

def message (e : SyntaxError) : String := e.fault.message

/-- The message with its place, as a user reads it. -/
def display (e : SyntaxError) : String :=
  e.message ++ " at line " ++ toString e.place.line ++ ", column " ++ toString e.place.column

end SyntaxError
end Interaction
