import Interaction.Graph.Plan
import Interaction.Graph.Anchor
import Interaction.Graph.Placement

/-! # From a diagram to its graph

Every element becomes a node and every planned edge an edge. Edges whose id has a pin keep their
anchors; the other edges get theirs around them. -/

namespace Interaction
namespace Element

/-- The first topic among some items. -/
def topic? (is : List Item) : Option String :=
  is.findSome? fun
    | .topic t => some t
    | _ => none

/-- The text shown in an element's node: a scene's topic, a contact's name, or the id. -/
def label : Element → String
  | .scene s => (topic? s.content).getD s.id
  | .global g => (topic? g.content).getD g.id
  | .contact c => c.name
  | e => e.id

/-- The items shown in an element's node. -/
def shown : Element → List Item
  | .scene s => s.content
  | .global g => g.content
  | _ => []

/-- The node of an element at a place of the row. -/
def node (e : Element) (slot : Slot) : Node where
  id := e.id
  kind := e.kind
  position := ⟨.finite (.ofNat slot.x), .finite (.ofNat slot.y)⟩
  width := slot.width
  label := e.label
  content := e.shown
  isMain := match e with
    | .scene s => s.isMain
    | _ => false
  variant := match e with
    | .scene s => s.variant
    | _ => .normal
  action := match e with
    | .process p => p.action
    | _ => none

/-- The nodes of some elements, placed one after the other. -/
def nodes : Cursor → List Element → List Node
  | _, [] => []
  | c, e :: es =>
    let (slot, c) := c.place e.kind e.label e.shown
    e.node slot :: nodes c es

@[simp] theorem length_nodes (c : Cursor) (es : List Element) :
    (nodes c es).length = es.length := by
  induction es generalizing c with
  | nil => rfl
  | cons e es ih => simp [nodes, ih]

end Element

/-- The anchors that an edge has to keep, each end by itself. -/
structure Pin where
  source : Option String
  target : Option String
deriving DecidableEq, Repr

/-- Pins by edge id. The last one of an id counts. -/
abbrev Pins := List (String × Pin)

def Pins.find (pins : Pins) (id : String) : Pin :=
  ((pins.reverse.find? (·.1 = id)).map (·.2)).getD ⟨none, none⟩

namespace Plan

/-- The end at which an edge leaves. -/
def sourceEnd (p : Plan) (pin : Pin) : EdgeEnd :=
  ⟨p.source, pin.source, .outbound p.departure.element.kind p.index p.total⟩

/-- The end at which an edge arrives. -/
def targetEnd (p : Plan) (pin : Pin) : EdgeEnd :=
  ⟨p.target, pin.target, .inbound p.targetKind⟩

def edge (p : Plan) (sourceHandle targetHandle : String) : Edge where
  id := p.id
  source := p.source
  target := p.target
  sourceHandle := sourceHandle
  targetHandle := targetHandle
  label := p.departure.item.label? p.departure.element.role
  kind := p.kind
  isPreferred := p.departure.transition.isPreferred

end Plan

/-- The anchors of all nodes, on the way out and on the way in. -/
structure Berths where
  sources : Allocator
  targets : Allocator

namespace Berths

def new : Berths := ⟨.sources, .targets⟩

/-- Takes the anchors that an edge has to keep. -/
def reserve (pins : Pins) (b : Berths) (p : Plan) : Berths :=
  let pin := pins.find p.id
  ⟨b.sources.reserveEnd (p.sourceEnd pin), b.targets.reserveEnd (p.targetEnd pin)⟩

/-- The edge of a plan, connected at both ends. -/
def connect (pins : Pins) (b : Berths) (p : Plan) : Edge × Berths :=
  let pin := pins.find p.id
  let (source, sources) := b.sources.settleEnd (p.sourceEnd pin)
  let (target, targets) := b.targets.settleEnd (p.targetEnd pin)
  (p.edge source target, ⟨sources, targets⟩)

/-- The edges of some plans, one after the other. -/
def connectAll (pins : Pins) : Berths → List Plan → List Edge
  | _, [] => []
  | b, p :: ps =>
    let (e, b) := b.connect pins p
    e :: connectAll pins b ps

/-- The edges of all plans. Anchors that are kept are all taken before any is given. -/
def edges (pins : Pins) (ps : List Plan) : List Edge :=
  (ps.foldl (reserve pins) .new).connectAll pins ps

end Berths

namespace Diagram

def edges (d : Diagram) (pins : Pins) : List Edge := Berths.edges pins d.plans

/-- The graph of a diagram, with the anchors of `pins`. -/
def toGraph (d : Diagram) (pins : Pins) : Graph :=
  let s := d.draft
  ⟨Element.nodes .start d.elements, Berths.edges pins s.plans.toList, s.diagnostics.toList⟩

variable (d : Diagram) (pins : Pins)

@[simp] theorem nodes_toGraph : (d.toGraph pins).nodes = Element.nodes .start d.elements := rfl

@[simp] theorem edges_toGraph : (d.toGraph pins).edges = d.edges pins := rfl

@[simp] theorem diagnostics_toGraph : (d.toGraph pins).diagnostics = d.diagnostics := rfl

end Diagram
end Interaction
