import Interaction.Graph.Edit
import Interaction.Proofs.EdgeIds

/-!
# An arrangement brings its graph back

Whatever a user does to a graph on the screen, it stays the graph of its diagram up to places and
anchors (`Graph.Shows`). Of such a graph the arrangement knows everything that the diagram does not,
so drawing the diagram under it gives the graph again (`Shows.arranged_ofGraph`): all edges, since
no two have one id (`Shows.edges_apply`), and all nodes if no two elements do (`Shows.nodes_apply`).
-/

namespace Interaction

/-- If `f` sees the same in two lists, and `h` makes an entry of one from what looks like it, then
`h` makes the one list from the other. -/
theorem map_eq_of_map_eq {α β : Type} {f : α → β} {h : α → α} {as bs : List α}
    (hmap : bs.map f = as.map f) (hmake : ∀ a ∈ as, ∀ b, f b = f a → h b = a) : bs.map h = as := by
  induction as generalizing bs with
  | nil => simpa using hmap
  | cons a as ih =>
    cases bs with
    | nil => simp at hmap
    | cons b bs =>
      obtain ⟨hb, hbs⟩ := List.cons.inj hmap
      rw [List.map_cons, hmake a (by simp) b hb, ih hbs fun a ha => hmake a (by simp [ha])]

/-! ### What a user may change -/

/-- A change to the node or to the edge at a place of its list. -/
inductive Touch where
  | move (index : Nat) (position : Position)
  | connect (index : Nat) (source target : Option String)
deriving DecidableEq, Repr

namespace Graph

def touch (g : Graph) : Touch → Graph
  | .move n position => { g with nodes := g.nodes.modify n ({ · with position }) }
  | .connect n source target => { g with edges := g.edges.modify n (·.connect source target) }

def touchAll (g : Graph) (ts : List Touch) : Graph := ts.foldl touch g

theorem updateFirst_eq_modify {α : Type} (p : α → Bool) (f : α → α) (as : List α) :
    updateFirst p f as = as.modify (as.findIdx p) f := by
  induction as with
  | nil => rfl
  | cons a as ih =>
    rw [updateFirst, List.findIdx_cons]
    cases p a <;> simp [ih]

/-- What is done to the first node or edge of an id is such a change. -/
theorem exists_touch_eq_edit (g : Graph) (e : Edit) : ∃ t, g.touch t = g.edit e := by
  cases e with
  | move id position =>
    exact ⟨.move (g.nodes.findIdx (·.id = id)) position, by
      rw [edit, updateFirst_eq_modify]; rfl⟩
  | connect id source target =>
    exact ⟨.connect (g.edges.findIdx (·.id = id)) source target, by
      rw [edit, updateFirst_eq_modify]; rfl⟩

/-- The graph is that of `d`, up to places and anchors. -/
structure Shows (g : Graph) (d : Diagram) : Prop where
  nodes : g.nodes.map Node.loose = (Element.nodes .start d.elements).map Node.loose
  edges : g.edges.map Edge.loose = d.plans.map Plan.loose
  diagnostics : g.diagnostics = d.diagnostics

theorem map_modify_of_forall {α β : Type} {f : α → α} {v : α → β} (h : ∀ a, v (f a) = v a)
    (as : List α) (n : Nat) : (as.modify n f).map v = as.map v := by
  induction as generalizing n with
  | nil => cases n <;> rfl
  | cons a as ih => cases n <;> simp [h, ih]

namespace Shows
variable {g : Graph} {d : Diagram}

theorem toGraph (d : Diagram) (pins : Pins) : (d.toGraph pins).Shows d :=
  ⟨rfl, d.map_loose_edges pins, rfl⟩

theorem touch (h : g.Shows d) (t : Touch) : (g.touch t).Shows d := by
  cases t with
  | move n position =>
    refine ⟨Eq.trans ?_ h.nodes, h.edges, h.diagnostics⟩
    refine map_modify_of_forall ?_ g.nodes n
    intro m
    rfl
  | connect n source target =>
    refine ⟨h.nodes, Eq.trans ?_ h.edges, h.diagnostics⟩
    refine map_modify_of_forall ?_ g.edges n
    intro e
    rfl

theorem touchAll (h : g.Shows d) (ts : List Touch) : (g.touchAll ts).Shows d := by
  induction ts generalizing g with
  | nil => exact h
  | cons t ts ih => exact ih (h.touch t)

theorem edit (h : g.Shows d) (e : Edit) : (g.edit e).Shows d := by
  obtain ⟨t, ht⟩ := g.exists_touch_eq_edit e
  rw [← ht]
  exact h.touch t

theorem loose_anchorEdge (a : Arrangement) (e : Edge) : (a.anchorEdge e).loose = e.loose := by
  unfold Arrangement.anchorEdge
  split <;> rfl

theorem apply (h : g.Shows d) (a : Arrangement) : (a.apply g).Shows d := by
  refine ⟨?_, ?_, h.diagnostics⟩
  · rw [← h.nodes, Arrangement.apply, List.map_map]
    exact List.map_congr_left fun _ _ => rfl
  · rw [← h.edges, Arrangement.apply, List.map_map]
    exact List.map_congr_left fun e _ => loose_anchorEdge a e

theorem draw (d : Diagram) (saved : Option Arrangement) : (d.draw saved).Shows d := by
  cases saved with
  | none => exact toGraph d []
  | some a => exact (toGraph d a.pins).apply a

theorem map_id_edges (h : g.Shows d) : g.edges.map Edge.id = d.plans.map Plan.id := by
  have hids := congrArg (List.map Edge.id) h.edges
  simpa only [List.map_map, Function.comp_def, Edge.id_loose, Plan.id_loose] using hids

theorem nodup_map_id (h : g.Shows d) : (g.edges.map Edge.id).Nodup := by
  rw [h.map_id_edges]
  exact d.numbered_draft.nodup

theorem map_id_nodes (h : g.Shows d) : g.nodes.map Node.id = d.elements.map Element.id := by
  have hids := congrArg (List.map Node.id) h.nodes
  simp only [List.map_map, Function.comp_def, Node.id_loose] at hids
  exact hids.trans (Element.map_id_nodes .start d.elements)

end Shows

/-! ### What the arrangement of a graph knows -/

section
variable {g : Graph}

theorem edge?_ofGraph (hnodup : (g.edges.map Edge.id).Nodup) {e : Edge} (he : e ∈ g.edges) :
    (Arrangement.ofGraph g).edge? e.id = some ⟨e.id, some e.sourceHandle, some e.targetHandle⟩ := by
  refine find?_of_nodup_map (k := AnchoredEdge.id) ?_
    (a := ⟨e.id, some e.sourceHandle, some e.targetHandle⟩) ?_
  · rw [List.map_reverse, List.nodup_reverse, Arrangement.ofGraph, List.map_map]
    exact hnodup
  · rw [List.mem_reverse]
    exact List.mem_map_of_mem he

theorem position?_ofGraph (hnodup : (g.nodes.map Node.id).Nodup) {n : Node} (hn : n ∈ g.nodes) :
    (Arrangement.ofGraph g).position? n.id = some n.position := by
  have hentry : (Arrangement.ofGraph g).nodes.reverse.find? (·.id = n.id) =
      some ⟨n.id, n.position⟩ := by
    refine find?_of_nodup_map (k := PlacedNode.id) ?_ (a := ⟨n.id, n.position⟩) ?_
    · rw [List.map_reverse, List.nodup_reverse, Arrangement.ofGraph, List.map_map]
      exact hnodup
    · rw [List.mem_reverse]
      exact List.mem_map_of_mem hn
  rw [Arrangement.position?, hentry]
  rfl

/-- The arrangement makes an edge of its graph from any edge that differs in the anchors only. -/
theorem anchorEdge_ofGraph (hnodup : (g.edges.map Edge.id).Nodup) {e : Edge} (he : e ∈ g.edges)
    {e' : Edge} (hloose : e'.loose = e.loose) : (Arrangement.ofGraph g).anchorEdge e' = e := by
  have hid : e'.id = e.id := by rw [← Edge.id_loose, hloose, Edge.id_loose]
  rw [Arrangement.anchorEdge, hid, edge?_ofGraph hnodup he]
  cases e
  cases e'
  simp_all [Edge.loose]

theorem placeNode_ofGraph (hnodup : (g.nodes.map Node.id).Nodup) {n : Node} (hn : n ∈ g.nodes)
    {n' : Node} (hloose : n'.loose = n.loose) : (Arrangement.ofGraph g).placeNode n' = n := by
  have hid : n'.id = n.id := by rw [← Node.id_loose, hloose, Node.id_loose]
  rw [Arrangement.placeNode, hid, position?_ofGraph hnodup hn]
  cases n
  cases n'
  simp_all [Node.loose]

end

namespace Shows
variable {g g' : Graph} {d : Diagram}

/-- The edges of a graph come back on every graph of its diagram. -/
theorem edges_apply (h : g.Shows d) (h' : g'.Shows d) :
    ((Arrangement.ofGraph g).apply g').edges = g.edges :=
  map_eq_of_map_eq (h'.edges.trans h.edges.symm) fun _ he _ hloose =>
    anchorEdge_ofGraph h.nodup_map_id he hloose

theorem nodes_apply (h : g.Shows d) (h' : g'.Shows d) (hnodup : (d.elements.map Element.id).Nodup) :
    ((Arrangement.ofGraph g).apply g').nodes = g.nodes :=
  map_eq_of_map_eq (h'.nodes.trans h.nodes.symm) fun _ hn _ hloose =>
    placeNode_ofGraph (h.map_id_nodes ▸ hnodup) hn hloose

end Shows

/-- The graph is `g` again, but if elements of the diagram have the same id, their nodes may lie
elsewhere. -/
structure Restores (back g : Graph) (d : Diagram) : Prop where
  edges : back.edges = g.edges
  diagnostics : back.diagnostics = g.diagnostics
  eq : (d.elements.map Element.id).Nodup → back = g

theorem Shows.arranged_ofGraph {g : Graph} {d : Diagram} (h : g.Shows d) :
    (d.arranged (.ofGraph g)).Restores g d := by
  have hfresh := Shows.toGraph d (Arrangement.ofGraph g).pins
  have hedges := h.edges_apply hfresh
  have hdiagnostics : (d.arranged (.ofGraph g)).diagnostics = g.diagnostics := h.diagnostics.symm
  exact ⟨hedges, hdiagnostics,
    fun hnodup => Graph.ext (h.nodes_apply hfresh hnodup) hedges hdiagnostics⟩

end Graph

theorem compile_eq_ok {source : String} {saved : Option Arrangement} {g : Graph} :
    compile source saved = .ok g ↔ ∃ d, Diagram.parse source = .ok d ∧ d.draw saved = g := by
  unfold compile
  cases Diagram.parse source <;> simp [Except.map]

/-- A user draws a text, under an arrangement or none, and makes changes of any kind. Drawing the
text again under the arrangement of what is on the screen brings it all back; only nodes of one and
the same id may come to lie elsewhere. -/
theorem compile_ofGraph {source : String} {saved : Option Arrangement} {g : Graph}
    (h : compile source saved = .ok g) (ts : List Touch) :
    ∃ g', compile source (some (.ofGraph (g.touchAll ts))) = .ok g' ∧
      g'.edges = (g.touchAll ts).edges ∧ g'.diagnostics = (g.touchAll ts).diagnostics ∧
      ((∀ d, Diagram.parse source = .ok d → (d.elements.map Element.id).Nodup) →
        g' = g.touchAll ts) := by
  obtain ⟨d, hparse, rfl⟩ := compile_eq_ok.1 h
  have hshows := (Graph.Shows.draw d saved).touchAll ts
  set screen := (d.draw saved).touchAll ts
  have hback := hshows.arranged_ofGraph
  exact ⟨d.arranged (.ofGraph screen), compile_eq_ok.2 ⟨d, hparse, rfl⟩, hback.edges,
    hback.diagnostics, fun hnodup => hback.eq (hnodup d hparse)⟩

/-- Two scenes with two edges between them. -/
def twoEdges : String :=
  "scene A \x7b u: \"one\" -> B\n u: \"two\" -> B \x7d\nscene B \x7b\x7d"

/-- The anchors of both edges and the place of the second scene change. -/
theorem compile_ofGraph_twoEdges : ∃ g, compile twoEdges none = .ok g ∧
    compile twoEdges (some (.ofGraph (g.touchAll [.connect 1 (some "b-3") none,
        .connect 0 none (some "r-1"), .move 1 ⟨.infinite true, .notANumber⟩]))) =
      .ok (g.touchAll [.connect 1 (some "b-3") none,
        .connect 0 none (some "r-1"), .move 1 ⟨.infinite true, .notANumber⟩]) := by
  have hcompiles : (compile twoEdges none).isOk := by decide +kernel
  have hids : (Diagram.parse twoEdges).toOption.map (·.elements.map Element.id) =
      some ["A", "B"] := by
    decide +kernel
  cases hg : compile twoEdges none with
  | error e => rw [hg] at hcompiles; cases hcompiles
  | ok g =>
    obtain ⟨g', hg', -, -, hback⟩ := compile_ofGraph hg [.connect 1 (some "b-3") none,
      .connect 0 none (some "r-1"), .move 1 ⟨.infinite true, .notANumber⟩]
    refine ⟨g, rfl, ?_⟩
    rw [hg', hback]
    intro d hd
    rw [hd] at hids
    have hnames : d.elements.map Element.id = ["A", "B"] := Option.some.inj hids
    rw [hnames]
    decide

end Interaction
