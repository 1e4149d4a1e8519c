/-! # What a command needs of its surroundings

A command reads files and its input, writes files, and prints. `Host` names these actions, so that
a command means the same in the real world as where everything is a value. -/

namespace Interaction.CommandLine

/-- The actions of a command in the monad `m`. Reading and writing may fail, for a reason in the
system's words. -/
structure Host (m : Type → Type) where
  readFile : String → m (Except String String)
  readInput : m (Except String String)
  writeFile : String → String → m (Except String Unit)
  print : String → m Unit
  complain : String → m Unit

/-- The reason why bytes are no text. -/
def notText : String := "stream did not contain valid UTF-8"

/-- The text that is encoded in `bytes`. -/
def decode (bytes : ByteArray) : Except String String :=
  match String.fromUTF8? bytes with
  | some s => .ok s
  | none => .error notText

/-- Why a file cannot be opened. -/
inductive FileFault where
  | notFound
  | isFolder
  | notFolder
  | nameTooLong
deriving DecidableEq, Repr

def FileFault.reason : FileFault → String
  | .notFound => "No such file or directory (os error 2)"
  | .isFolder => "Is a directory (os error 21)"
  | .notFolder => "Not a directory (os error 20)"
  | .nameTooLong => "File name too long (os error 36)"

end Interaction.CommandLine
