import Interaction.Proofs.Restore
import Interaction.Proofs.Pins
import Interaction.Arrangement.Json

/-!
# Laying an arrangement over a graph

The anchors of an arrangement reach an edge twice: as pins before the edge is drawn, and once more
when the arrangement is laid over the graph. Pins leave out entries without anchors, the overlay
does not; still both are the last entry of the id wherever that tells something (`find_pins`). So
the overlay finds every edge where it would put it (`anchorEdge_of_mem`), and only places change.

Entries of ids that the graph does not have are never asked for (`arranged_only`), neither for pins
nor for the overlay; so an arrangement that has nothing else might as well not be there.
-/

namespace Interaction

namespace Edge
variable (e : Edge) (s t : Option String)

@[simp] theorem connect_none : e.connect none none = e := rfl

@[simp] theorem connect_connect : (e.connect s t).connect s t = e.connect s t := by
  cases s <;> cases t <;> rfl

end Edge

namespace Arrangement

/-! ### The entries of one id -/

section
variable {a : Arrangement} {id : String}

theorem edge?_eq (a : Arrangement) (id : String) :
    a.edge? id = (a.edges.filter (·.id = id)).getLast? :=
  List.getLast?_filter.symm

theorem position?_eq (a : Arrangement) (id : String) :
    a.position? id = (a.nodes.filter (·.id = id)).getLast?.map (·.position) := by
  rw [List.getLast?_filter]
  rfl

theorem filter_pins (a : Arrangement) (id : String) :
    a.pins.filter (·.1 = id) = (a.edges.filter (·.id = id)).filterMap AnchoredEdge.pin? := by
  rw [pins, List.filter_filterMap, List.filterMap_filter]
  congr 1
  funext e
  unfold AnchoredEdge.pin?
  by_cases hid : e.id = id
  · split <;> simp [hid]
  · split <;> simp [hid]

theorem filter_key_of_not_mem {α : Type} (k : α → String) {as : List α} (h : id ∉ as.map k) :
    as.filter (k · = id) = [] := by
  rw [List.filter_eq_nil_iff]
  intro a ha hid
  exact h (List.mem_map.2 ⟨a, ha, by simpa using hid⟩)

theorem edge?_of_not_mem (h : id ∉ a.edges.map AnchoredEdge.id) : a.edge? id = none := by
  rw [edge?_eq, filter_key_of_not_mem AnchoredEdge.id h]
  rfl

theorem position?_of_not_mem (h : id ∉ a.nodes.map PlacedNode.id) : a.position? id = none := by
  rw [position?_eq, filter_key_of_not_mem PlacedNode.id h]
  rfl

theorem find_pins {s : AnchoredEdge} (h : a.edge? id = some s) :
    a.pins.find id = ⟨s.sourceHandle, s.targetHandle⟩ ∨
      s.sourceHandle = none ∧ s.targetHandle = none := by
  rw [edge?_eq, List.getLast?_eq_some_iff] at h
  obtain ⟨before, hentries⟩ := h
  -- An entry that tells nothing makes no pin, and only then does an earlier one count.
  by_cases htold : s.sourceHandle.isSome || s.targetHandle.isSome
  · have hpin : s.pin? = some (s.id, ⟨s.sourceHandle, s.targetHandle⟩) := if_pos htold
    refine .inl ?_
    rw [Pins.find_eq, Pins.last?, filter_pins, hentries, List.filterMap_append,
      List.filterMap_cons_some hpin, List.filterMap_nil, List.getLast?_concat]
    rfl
  · refine .inr ?_
    simpa using htold

end

/-! ### The overlay -/

section
variable {a : Arrangement} {e : Edge} {n : Node}

theorem anchorEdge_of_some {s : AnchoredEdge} (h : a.edge? e.id = some s) :
    a.anchorEdge e = e.connect s.sourceHandle s.targetHandle := by
  rw [anchorEdge, h]
  rfl

theorem anchorEdge_of_none (h : a.edge? e.id = none) : a.anchorEdge e = e := by
  rw [anchorEdge, h]

theorem placeNode_of_none (h : a.position? n.id = none) : a.placeNode n = n := by
  rw [placeNode, h]
  rfl

theorem anchorEdge_anchorEdge (a : Arrangement) (e : Edge) :
    a.anchorEdge (a.anchorEdge e) = a.anchorEdge e := by
  cases h : a.edge? e.id with
  | none => rw [anchorEdge_of_none h, anchorEdge_of_none h]
  | some s =>
    have hagain : a.edge? (e.connect s.sourceHandle s.targetHandle).id = some s := h
    rw [anchorEdge_of_some h, anchorEdge_of_some hagain, Edge.connect_connect]

theorem placeNode_placeNode (a : Arrangement) (n : Node) :
    a.placeNode (a.placeNode n) = a.placeNode n := by
  unfold placeNode
  cases a.position? n.id <;> rfl

theorem apply_apply (a : Arrangement) (g : Graph) : a.apply (a.apply g) = a.apply g := by
  refine Graph.ext ?_ ?_ rfl
  · show (g.nodes.map a.placeNode).map a.placeNode = g.nodes.map a.placeNode
    rw [List.map_map]
    exact List.map_congr_left fun n _ => a.placeNode_placeNode n
  · show (g.edges.map a.anchorEdge).map a.anchorEdge = g.edges.map a.anchorEdge
    rw [List.map_map]
    exact List.map_congr_left fun e _ => a.anchorEdge_anchorEdge e

end

/-- One graph is the other up to the positions of nodes and the anchors of edges that have an entry
in `a`. -/
structure Rearranges (a : Arrangement) (g g' : Graph) : Prop where
  nodes : List.Forall₂ (fun n n' => n'.loose = n.loose ∧
    (n.id ∉ a.nodes.map PlacedNode.id → n' = n)) g.nodes g'.nodes
  edges : List.Forall₂ (fun e e' => e'.loose = e.loose ∧
    (e.id ∉ a.edges.map AnchoredEdge.id → e' = e)) g.edges g'.edges
  diagnostics : g'.diagnostics = g.diagnostics

theorem rearranges_apply (a : Arrangement) (g : Graph) : a.Rearranges g (a.apply g) := by
  refine ⟨?_, ?_, rfl⟩
  · refine List.forall₂_map_right_iff.2 (List.forall₂_same.2 fun n _ => ⟨rfl, fun hid => ?_⟩)
    exact placeNode_of_none (position?_of_not_mem hid)
  · refine List.forall₂_map_right_iff.2 (List.forall₂_same.2 fun e _ => ⟨?_, fun hid => ?_⟩)
    · exact Graph.Shows.loose_anchorEdge a e
    · exact anchorEdge_of_none (edge?_of_not_mem hid)

theorem anchorEdge_of_mem {a : Arrangement} {d : Diagram} {e : Edge} (he : e ∈ d.edges a.pins) :
    a.anchorEdge e = e := by
  cases h : a.edge? e.id with
  | none => exact anchorEdge_of_none h
  | some s =>
    rw [anchorEdge_of_some h]
    rcases find_pins h with hpin | ⟨hsource, htarget⟩
    · have hkept := Diagram.connect_find he
      rwa [hpin] at hkept
    · rw [hsource, htarget, Edge.connect_none]

theorem edges_apply_toGraph (a : Arrangement) (d : Diagram) :
    (a.apply (d.toGraph a.pins)).edges = (d.toGraph a.pins).edges := by
  have hsame : ∀ e ∈ d.edges a.pins, a.anchorEdge e = id e := fun e he => anchorEdge_of_mem he
  exact (List.map_congr_left hsame).trans (List.map_id _)

/-- Laid over the graph that was drawn with its pins, an arrangement changes no edge. Over any graph
it changes nothing but positions and anchors that it has an entry for, and nothing more when it is
laid over once more. -/
theorem apply_toGraph_pins (a : Arrangement) :
    (∀ d : Diagram, (a.apply (d.toGraph a.pins)).edges = (d.toGraph a.pins).edges) ∧
    (∀ source, (compile source (some a)).map Graph.edges =
      (Diagram.parse source).map fun d => (d.toGraph a.pins).edges) ∧
    ∀ g : Graph, a.apply (a.apply g) = a.apply g ∧ a.Rearranges g (a.apply g) := by
  refine ⟨a.edges_apply_toGraph, fun source => ?_, fun g => ⟨a.apply_apply g, a.rearranges_apply g⟩⟩
  unfold compile
  cases Diagram.parse source with
  | error e => rfl
  | ok d => exact congrArg Except.ok (a.edges_apply_toGraph d)

/-! ### Entries of nothing -/

/-- The entries whose ids are in the graph. -/
def only (a : Arrangement) (g : Graph) : Arrangement where
  nodes := a.nodes.filter (·.id ∈ g.nodes.map Node.id)
  edges := a.edges.filter (·.id ∈ g.edges.map Edge.id)

theorem filter_filter_mem {α : Type} (k : α → String) (as : List α) {live : List String}
    {id : String} (h : id ∈ live) :
    (as.filter (k · ∈ live)).filter (k · = id) = as.filter (k · = id) := by
  rw [List.filter_filter]
  refine List.filter_congr fun a _ => ?_
  by_cases hk : k a = id
  · simp [hk, h]
  · simp [hk]

section
variable {a : Arrangement} {g : Graph} {id : String}

theorem position?_only (h : id ∈ g.nodes.map Node.id) :
    (a.only g).position? id = a.position? id := by
  rw [position?_eq, position?_eq, only, filter_filter_mem PlacedNode.id a.nodes h]

theorem edge?_only (h : id ∈ g.edges.map Edge.id) : (a.only g).edge? id = a.edge? id := by
  rw [edge?_eq, edge?_eq, only, filter_filter_mem AnchoredEdge.id a.edges h]

theorem find_pins_only (h : id ∈ g.edges.map Edge.id) :
    (a.only g).pins.find id = a.pins.find id := by
  refine Pins.find_congr ?_
  rw [filter_pins, filter_pins, only, filter_filter_mem AnchoredEdge.id a.edges h]

end
end Arrangement

namespace Diagram
variable {d : Diagram}

/-- The nodes of a diagram, some of which have been placed. -/
def nodesUnder (d : Diagram) (ns : List PlacedNode) : List Node :=
  (Element.nodes .start d.elements).map (⟨ns, []⟩ : Arrangement).placeNode

/-- The edges of a diagram, some of which have been anchored. -/
def edgesUnder (d : Diagram) (es : List AnchoredEdge) : List Edge :=
  (d.edges (⟨[], es⟩ : Arrangement).pins).map (⟨[], es⟩ : Arrangement).anchorEdge

theorem arranged_eq (d : Diagram) (a : Arrangement) :
    d.arranged a = ⟨d.nodesUnder a.nodes, d.edgesUnder a.edges, d.diagnostics⟩ := rfl

theorem arranged_empty (d : Diagram) : d.arranged .empty = d.toGraph [] :=
  Graph.ext (List.map_id _) (List.map_id _) rfl

theorem arranged_only {g : Graph} (h : g.Shows d) (a : Arrangement) :
    d.arranged (a.only g) = d.arranged a := by
  have hplans : d.plans.map Plan.id = g.edges.map Edge.id := h.map_id_edges.symm
  have hpins : d.toGraph (a.only g).pins = d.toGraph a.pins :=
    toGraph_congr fun id hid => Arrangement.find_pins_only (hplans ▸ hid)
  rw [arranged, arranged, hpins]
  refine Graph.ext (List.map_congr_left fun n hn => ?_) (List.map_congr_left fun e he => ?_) rfl
  · have hid : n.id ∈ g.nodes.map Node.id := by
      rw [h.map_id_nodes, ← Element.map_id_nodes .start]
      exact List.mem_map_of_mem hn
    rw [Arrangement.placeNode, Arrangement.placeNode, Arrangement.position?_only hid]
  · have hid : e.id ∈ g.edges.map Edge.id := by
      rw [← hplans, ← d.map_id_edges a.pins]
      exact List.mem_map_of_mem he
    rw [Arrangement.anchorEdge, Arrangement.anchorEdge, Arrangement.edge?_only hid]

end Diagram

/-- Entries for what a text does not describe are as good as none. Its nodes are a matter of the
entries for nodes, its edges of those for edges, and what cannot be read arranges nothing. -/
theorem compile_only {source : String} {g : Graph} (h : compile source none = .ok g) :
    (∃ (nodes : List PlacedNode → List Node) (edges : List AnchoredEdge → List Edge),
      ∀ a : Arrangement,
        compile source (some a) = .ok ⟨nodes a.nodes, edges a.edges, g.diagnostics⟩) ∧
    (∀ a : Arrangement, compile source (some (a.only g)) = compile source (some a)) ∧
    ∀ text flaw, Arrangement.read text = .error flaw →
      compile source (some (.readOrEmpty text)) = .ok g := by
  obtain ⟨d, hparse, rfl⟩ := compile_eq_ok.1 h
  have hdraw : ∀ a, compile source (some a) = .ok (d.arranged a) := fun a =>
    compile_eq_ok.2 ⟨d, hparse, rfl⟩
  refine ⟨⟨d.nodesUnder, d.edgesUnder, fun a => ?_⟩, fun a => ?_, fun text flaw hread => ?_⟩
  · rw [hdraw, Diagram.arranged_eq]
    rfl
  · rw [hdraw, hdraw, Diagram.arranged_only (Graph.Shows.draw d none)]
  · rw [Arrangement.readOrEmpty, hread, hdraw, Diagram.arranged_empty]
    rfl

/-- An entry for the second of the two edges, and entries for an edge and a scene that are gone. -/
def leftovers : Arrangement where
  nodes := [⟨"C", ⟨.finite (.ofNat 7), .notANumber⟩⟩]
  edges := [⟨"e_A_B_two_0", none, some "t-3"⟩, ⟨"e_A_B_three_0", some "b-3", some "t-2"⟩]

theorem compile_only_leftovers : ∃ g, compile twoEdges none = .ok g ∧
    leftovers.only g = ⟨[], [⟨"e_A_B_two_0", none, some "t-3"⟩]⟩ ∧
    compile twoEdges (some (leftovers.only g)) = compile twoEdges (some leftovers) ∧
    Arrangement.read "\x7bnodes" = .error .malformed ∧
    compile twoEdges (some (.readOrEmpty "\x7bnodes")) = .ok g := by
  have hlive : (compile twoEdges none).toOption.map leftovers.only =
      some ⟨[], [⟨"e_A_B_two_0", none, some "t-3"⟩]⟩ := by
    decide +kernel
  have hread : Arrangement.read "\x7bnodes" = .error .malformed := by decide +kernel
  cases hg : compile twoEdges none with
  | error e => rw [hg] at hlive; cases hlive
  | ok g =>
    rw [hg] at hlive
    obtain ⟨-, honly, hflaw⟩ := compile_only hg
    exact ⟨g, rfl, Option.some.inj hlive, honly leftovers, hread, hflaw _ _ hread⟩

end Interaction
