import Interaction.CommandLine.Options
import Interaction.CommandLine.Host
import Interaction.Compile
import Interaction.Arrangement.Json
import Interaction.Graph.Json

/-! # The command

Reads a source text and prints its graph, or only says whether it is one. The exit code is 0 if all
went well, 1 if something failed, and 2 if the arguments were misused. -/

namespace Interaction.CommandLine
variable {m : Type → Type} [Monad m]

/-- Says what went wrong and ends with code 1. -/
def fail (h : Host m) (reason : String) : m Nat := do
  h.complain ("ERROR: " ++ reason ++ "\n")
  pure 1

/-- The text of the file, or the input when there is no file. -/
def readSource (h : Host m) : Option String → m (Except String String)
  | some path => return (← h.readFile path).mapError ("failed to read " ++ path ++ ": " ++ ·)
  | none => return (← h.readInput).mapError ("failed to read stdin: " ++ ·)

/-- The arrangement in a file. A file that cannot be read holds the empty one. -/
def readLayout (h : Host m) (path : String) : m Arrangement := do
  match ← h.readFile path with
  | .ok s => pure (.readOrEmpty s)
  | .error _ => pure .empty

/-- The arrangement to start with, if one is asked for. -/
def readSaved (h : Host m) : Option String → m (Option Arrangement)
  | some path => return some (← readLayout h path)
  | none => pure none

/-- Writes the arrangement of a graph. -/
def saveLayout (h : Host m) (path : String) (g : Graph) : m Nat := do
  match ← h.writeFile path (Arrangement.ofGraph g).text with
  | .ok () => pure 0
  | .error e =>
    fail h ("failed to write " ++ path ++ ": failed to access saved layout: " ++ e)

def check (h : Host m) (source : String) : m Nat := do
  match Diagram.parse source with
  | .ok _ =>
    h.print "ok\n"
    pure 0
  | .error e => fail h e.display

/-- A graph as it is printed. -/
def Options.graphText (o : Options) (g : Graph) : String :=
  g.toJson.render (if o.pretty then .indented else .compact) ++ "\n"

/-- Prints a graph, and then saves its arrangement if that is asked for. -/
def deliver (h : Host m) (o : Options) (g : Graph) : m Nat := do
  h.print (o.graphText g)
  match o.saveLayout with
  | some path => saveLayout h path g
  | none => pure 0

def draw (h : Host m) (o : Options) (source : String) : m Nat := do
  let saved ← readSaved h o.layout
  match compile source saved with
  | .error e => fail h e.display
  | .ok g => deliver h o g

def run (h : Host m) (o : Options) : m Nat := do
  match ← readSource h o.file with
  | .error e => fail h e
  | .ok source => if o.check then check h source else draw h o source

/-- Runs the command with these arguments, and gives its exit code. -/
def start (h : Host m) (args : List String) : m Nat :=
  match Options.ofArgs? args with
  | some o => run h o
  | none => pure 2

end Interaction.CommandLine
