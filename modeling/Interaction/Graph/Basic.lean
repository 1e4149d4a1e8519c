import Interaction.Graph.Label
import Interaction.Number.Binary64

/-! # Graphs

What is drawn of a diagram: a node for each element, an edge for each way out of one, and what was
found wrong on the way. -/

namespace Interaction

/-- A coordinate of a node. One that is not finite can be drawn nowhere and is not kept in texts. -/
inductive Coordinate where
  | finite (x : Binary64)
  | infinite (negative : Bool)
  | notANumber
deriving DecidableEq, Repr

instance : Coe Binary64 Coordinate := ⟨.finite⟩

structure Position where
  x : Coordinate
  y : Coordinate
deriving DecidableEq, Repr

structure Node where
  id : String
  kind : NodeKind
  position : Position
  width : Nat
  label : String
  content : List Item
  isMain : Bool
  variant : SceneVariant
  action : Option String
deriving Repr

/-- How an edge is drawn. A mediated edge runs through somebody else. -/
inductive EdgeKind where
  | normal
  | repair
  | mediated
  | simultaneous
deriving DecidableEq, Repr

/-- The head of an edge. -/
inductive Marker where
  | arrowClosed
  | doubleArrowhead
deriving DecidableEq, Repr

namespace EdgeKind

/-- Lengths of dashes and gaps. -/
def dashPattern? : EdgeKind → Option String
  | .repair => some "5, 5"
  | _ => none

def marker? : EdgeKind → Option Marker
  | .normal | .repair => some .arrowClosed
  | .mediated => some .doubleArrowhead
  | .simultaneous => none

/-- The kind of an edge with this arrow. A simultaneous transition is only possible between a scene
and a process. Edges from a contact and to another party are mediated. -/
def resolve? (arrow : Arrow) (source : NodeKind) (target : Option NodeKind) : Option EdgeKind :=
  match arrow with
  | .simultaneous =>
    match source, target with
    | .scene, some .process | .process, some .scene => some .simultaneous
    | _, _ => none
  | .normal | .repair =>
    if source = .contact ∨ target = some .contact ∨ target = some .external then some .mediated
    else if arrow = .repair then some .repair
    else some .normal

end EdgeKind

structure Edge where
  id : String
  source : String
  target : String
  sourceHandle : String
  targetHandle : String
  label : Option EdgeLabel
  kind : EdgeKind
  isPreferred : Bool
deriving DecidableEq, Repr

/-- The line width of an edge: 1.5, and twice that if it is preferred. -/
def strokeWidth (isPreferred : Bool) : Binary64 :=
  ⟨false, 3 <<< 51, if isPreferred then -51 else -52⟩

/-- What is wrong with a diagram, though it can be drawn. -/
inductive Diagnostic where
  | duplicateElement (id : String)
  | danglingTarget (source target : String)
  | invalidSimultaneous (source target : String) (sourceKind : NodeKind)
      (targetKind : Option NodeKind)
deriving DecidableEq, Repr

/-- A kind in the words of a diagnostic. -/
def NodeKind.title : NodeKind → String
  | .scene => "Scene"
  | .global => "Global"
  | .start => "Start"
  | .finish => "End"
  | .breakdown => "Break"
  | .fork => "Fork"
  | .process => "Process"
  | .external => "External"
  | .contact => "Contact"

namespace Diagnostic

/-- A kind that may be unknown. -/
def kindText : Option NodeKind → String
  | some k => "Some(" ++ k.title ++ ")"
  | none => "None"

def message : Diagnostic → String
  | .duplicateElement id => "element `" ++ id ++ "` is declared more than once"
  | .danglingTarget source target =>
    "transition from `" ++ source ++ "` targets unknown element `" ++ target ++ "`"
  | .invalidSimultaneous source target sourceKind targetKind =>
    "simultaneous transition (=>) is only valid between scene and process, got " ++
      kindText (some sourceKind) ++ " => " ++ kindText targetKind ++
      " (" ++ source ++ " => " ++ target ++ ")"

end Diagnostic

@[ext]
structure Graph where
  nodes : List Node
  edges : List Edge
  diagnostics : List Diagnostic
deriving Repr

namespace Graph

def empty : Graph := ⟨[], [], []⟩

/-- The first node called `id`. -/
def node? (g : Graph) (id : String) : Option Node := g.nodes.find? (·.id = id)

/-- The first edge called `id`. -/
def edge? (g : Graph) (id : String) : Option Edge := g.edges.find? (·.id = id)

end Graph
end Interaction
