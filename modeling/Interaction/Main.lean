import Interaction.CommandLine.Run

/-! # The program -/

open Interaction.CommandLine

/-- The fault with a system's code, which some calls negate. -/
def faultOfCode? (code : UInt32) : Option FileFault :=
  match (min code (0 - code)).toNat with
  | 2 => some .notFound
  | 20 => some .notFolder
  | 21 => some .isFolder
  | 36 => some .nameTooLong
  | _ => none

/-- The reason of a failure, in the system's words. -/
def failureReason (e : IO.Error) : String :=
  let fault : Option FileFault := match e with
    | .noFileOrDirectory .. => some .notFound
    | .inappropriateType _ code _ | .invalidArgument _ code _ => faultOfCode? code
    | _ => none
  match fault with
  | some fault => fault.reason
  | none => toString e

/-- The result of an action that may fail. -/
def attempt {α : Type} (action : IO α) : IO (Except String α) := do
  match ← action.toBaseIO with
  | .ok a => pure (.ok a)
  | .error e => pure (.error (failureReason e))

/-- A command in the real world. -/
def realHost : Host IO where
  readFile path := do return (← attempt (IO.FS.readBinFile path)).bind decode
  readInput := do return (← attempt (do (← IO.getStdin).readBinToEnd)).bind decode
  writeFile path s := attempt (IO.FS.writeFile path s)
  print := IO.print
  complain := IO.eprint

def main (args : List String) : IO UInt32 := do
  let code ← start realHost args
  if code = 2 then
    IO.eprintln "usage: [FILE] [--layout FILE] [--save-layout FILE] [--pretty] [--check]"
  pure code.toUInt32
