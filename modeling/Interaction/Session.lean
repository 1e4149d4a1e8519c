import Interaction.Compile
import Interaction.Arrangement.Json
import Interaction.Graph.Edit

/-! # Sessions

A user edits a source text and the graph on the screen in turn. The session remembers the graph and
the arrangement that the next source text is drawn under. -/

namespace Interaction

structure Session where
  graph : Graph
  saved : Option Arrangement

namespace Session

def start : Session := ⟨.empty, none⟩

/-- Draws another source text. One that cannot be read changes nothing. -/
def submit (s : Session) (source : String) : Except SyntaxError Graph × Session :=
  match compile source s.saved with
  | .ok g => (.ok g, { s with graph := g })
  | .error e => (.error e, s)

/-- Remembers the arrangement of the graph. -/
def capture (s : Session) : Arrangement × Session :=
  let a := Arrangement.ofGraph s.graph
  (a, { s with saved := some a })

/-- Remembers the arrangement in a text. -/
def load (s : Session) (text : String) : Arrangement × Session :=
  let a := Arrangement.readOrEmpty text
  (a, { s with saved := some a })

def forget (s : Session) : Session := { s with saved := none }

/-- Lays the arrangement in a text over the graph, without remembering it. -/
def apply (s : Session) (text : String) : Session :=
  { s with graph := (Arrangement.readOrEmpty text).apply s.graph }

/-- Makes an edit, and tells whether there was something to change. -/
def edit (s : Session) (e : Edit) : Bool × Session :=
  (s.graph.allows e, { s with graph := s.graph.edit e })

end Session
end Interaction
