import Interaction.Graph.OfDiagram

/-! # Arrangements

An arrangement is what a user made of a graph: where the nodes are and at which anchors the edges
are connected. It outlives the graph, and is laid over the next one by id. Of several entries with
one id the last counts. -/

namespace Interaction

structure PlacedNode where
  id : String
  position : Position
deriving DecidableEq, Repr

/-- An edge with the anchors that are known of it. -/
structure AnchoredEdge where
  id : String
  sourceHandle : Option String
  targetHandle : Option String
deriving DecidableEq, Repr

structure Arrangement where
  nodes : List PlacedNode
  edges : List AnchoredEdge
deriving DecidableEq, Repr

/-- Both anchors of an edge. -/
structure Handles where
  source : String
  target : String
deriving DecidableEq, Repr

/-- The entries without those that a later one replaces. -/
def latest {α : Type} : List (String × α) → List (String × α)
  | [] => []
  | (key, a) :: es => if es.any (·.1 = key) then latest es else (key, a) :: latest es

namespace AnchoredEdge

/-- The entry as a pin, unless it tells nothing. -/
def pin? (e : AnchoredEdge) : Option (String × Pin) :=
  if e.sourceHandle.isSome || e.targetHandle.isSome then
    some (e.id, ⟨e.sourceHandle, e.targetHandle⟩)
  else none

/-- The entry as two anchors, if it has both. -/
def handles? (e : AnchoredEdge) : Option (String × Handles) :=
  match e.sourceHandle, e.targetHandle with
  | some s, some t => some (e.id, ⟨s, t⟩)
  | _, _ => none

end AnchoredEdge

/-- Two anchors as a pin of both ends. -/
def Handles.pin (h : Handles) : Pin := ⟨some h.source, some h.target⟩

/-- The pins that complete entries make. -/
def Pins.ofHandles (hs : List (String × Handles)) : Pins := hs.map fun (id, h) => (id, h.pin)

namespace Arrangement

def empty : Arrangement := ⟨[], []⟩

/-- The arrangement of a graph: every position and every anchor. -/
def ofGraph (g : Graph) : Arrangement where
  nodes := g.nodes.map fun n => ⟨n.id, n.position⟩
  edges := g.edges.map fun e => ⟨e.id, some e.sourceHandle, some e.targetHandle⟩

/-- The pins of all entries that tell something. -/
def pins (a : Arrangement) : Pins := a.edges.filterMap AnchoredEdge.pin?

/-- The edges with both anchors known, each once. -/
def handles (a : Arrangement) : List (String × Handles) :=
  latest (a.edges.filterMap AnchoredEdge.handles?)

def position? (a : Arrangement) (id : String) : Option Position :=
  (a.nodes.reverse.find? (·.id = id)).map (·.position)

def edge? (a : Arrangement) (id : String) : Option AnchoredEdge :=
  a.edges.reverse.find? (·.id = id)

def placeNode (a : Arrangement) (n : Node) : Node :=
  { n with position := (a.position? n.id).getD n.position }

/-- The edge at its anchors of the arrangement. An anchor that is not known stays. -/
def anchorEdge (a : Arrangement) (e : Edge) : Edge :=
  match a.edge? e.id with
  | some s =>
    { e with
      sourceHandle := s.sourceHandle.getD e.sourceHandle
      targetHandle := s.targetHandle.getD e.targetHandle }
  | none => e

/-- The arrangement laid over a graph. -/
def apply (a : Arrangement) (g : Graph) : Graph :=
  { g with nodes := g.nodes.map a.placeNode, edges := g.edges.map a.anchorEdge }

end Arrangement
end Interaction
