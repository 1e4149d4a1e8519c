import Mathlib.Data.List.Basic
import Interaction.Compile

/-!
# Edges and their plans

The edges of a graph are those of the plans, in order; pins and allocators decide on the anchors
and on nothing else (`map_edges`). Likewise a node is its element, up to its place (`map_nodes`).
-/

namespace Interaction

/-- The edge without its anchors. -/
def Edge.loose (e : Edge) : Edge := { e with sourceHandle := "", targetHandle := "" }

/-- The edge of a plan, without anchors. -/
def Plan.loose (p : Plan) : Edge := p.edge "" ""

@[simp] theorem Edge.id_loose (e : Edge) : e.loose.id = e.id := rfl

@[simp] theorem Plan.id_loose (p : Plan) : p.loose.id = p.id := rfl

@[simp] theorem Plan.loose_edge (p : Plan) (s t : String) : (p.edge s t).loose = p.loose := rfl

theorem Berths.map_loose_connectAll (pins : Pins) (b : Berths) (ps : List Plan) :
    (connectAll pins b ps).map Edge.loose = ps.map Plan.loose := by
  induction ps generalizing b with
  | nil => rfl
  | cons p ps ih =>
    simp only [connectAll, connect, List.map_cons, Plan.loose_edge, ih]

namespace Diagram
variable (d : Diagram) (pins : Pins)

theorem map_loose_edges : (d.edges pins).map Edge.loose = d.plans.map Plan.loose :=
  Berths.map_loose_connectAll pins _ d.plans

/-- What does not look at anchors sees the plans. -/
theorem map_edges {α : Type} {f : Edge → α} (h : ∀ e, f e.loose = f e) :
    (d.edges pins).map f = d.plans.map fun p => f p.loose := by
  have hf : f ∘ Edge.loose = f := funext h
  rw [← hf, ← List.map_map, map_loose_edges, List.map_map, hf]
  rfl

theorem map_id_edges : (d.edges pins).map Edge.id = d.plans.map Plan.id :=
  d.map_edges pins fun _ => rfl

end Diagram

/-- The node without its place. -/
def Node.loose (n : Node) : Node := { n with position := ⟨.notANumber, .notANumber⟩ }

@[simp] theorem Node.id_loose (n : Node) : n.loose.id = n.id := rfl

/-- What does not look at the place of a node sees its element. -/
theorem Element.map_nodes {α : Type} {f : Node → α} {g : Element → α}
    (h : ∀ e slot, f (node e slot) = g e) (c : Cursor) (es : List Element) :
    (nodes c es).map f = es.map g := by
  induction es generalizing c with
  | nil => rfl
  | cons e es ih => simp only [nodes, List.map_cons, h, ih]

theorem Element.map_id_nodes (c : Cursor) (es : List Element) :
    (nodes c es).map Node.id = es.map Element.id :=
  map_nodes (fun _ _ => rfl) c es

/-- The node of an element, wherever it stands. -/
def Element.looseNode (e : Element) : Node :=
  (e.node ⟨0, 0, e.kind.width e.label e.shown⟩).loose

theorem Element.map_loose_nodes (c : Cursor) (es : List Element) :
    (nodes c es).map Node.loose = es.map looseNode := by
  induction es generalizing c with
  | nil => rfl
  | cons e es ih =>
    rw [nodes, List.map_cons, List.map_cons, ih]
    rfl

end Interaction
