import Interaction.Source.Element
import Interaction.Arrangement.Basic

/-! # From source text to graph -/

namespace Interaction

/-- The graph of a diagram under an arrangement: its anchors are kept, whole or half, and its
positions come before the default ones. -/
def Diagram.arranged (d : Diagram) (a : Arrangement) : Graph := a.apply (d.toGraph a.pins)

/-- The graph of a diagram, under an arrangement if there is one. -/
def Diagram.draw (d : Diagram) : Option Arrangement → Graph
  | some a => d.arranged a
  | none => d.toGraph []

/-- The graph that a source text describes, under an arrangement if there is one. -/
def compile (source : String) (saved : Option Arrangement) : Except SyntaxError Graph :=
  (Diagram.parse source).map (·.draw saved)

end Interaction
