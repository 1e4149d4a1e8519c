import Mathlib.Data.List.Nodup
import Interaction.Proofs.Departures

/-!
# The order of the declarations

If no two elements have one id, the kind of an id does not depend on the order of the elements
(`kindOf?_perm`), and so neither does what becomes of a way out. In another order of the elements
the graph has the same nodes, edges and diagnostics in another order, and the edges of each element
stay in theirs (`toGraph_perm`); only places, numbers and anchors are dealt out anew.
-/

namespace Interaction

/-- If all keys differ, at most one entry has a given key, in whatever order. -/
theorem filter_key_perm {α : Type} {k : α → String} {as bs : List α} (hnodup : (as.map k).Nodup)
    (h : bs.Perm as) (x : String) : bs.filter (k · = x) = as.filter (k · = x) := by
  have hperm : (bs.filter (k · = x)).Perm (as.filter (k · = x)) := h.filter _
  have hkeys : ((as.filter (k · = x)).map k).Nodup := hnodup.sublist (List.filter_sublist.map k)
  have hmem : ∀ a ∈ as.filter (k · = x), k a = x := fun a ha => by
    simpa using (List.mem_filter.1 ha).2
  match hfilter : as.filter (k · = x) with
  | [] => exact (hfilter ▸ hperm).eq_nil
  | [a] => exact List.perm_singleton.1 (hfilter ▸ hperm)
  | a :: b :: rest =>
    rw [hfilter] at hkeys hmem
    have hab : k a = k b := (hmem a (by simp)).trans (hmem b (by simp)).symm
    exact absurd hab (by simp_all)

theorem redeclared_eq_nil {es : List Element} (h : (es.map Element.id).Nodup) :
    redeclared es = [] := by
  induction es using List.reverseRecOn with
  | nil => rfl
  | append_singleton es e ih =>
    rw [List.map_append, List.map_singleton, ← List.concat_eq_append, List.nodup_concat] at h
    have hnew : es.any (·.id = e.id) = false := by
      rw [List.any_eq_false]
      intro x hx heq
      exact h.1 (List.mem_map.2 ⟨x, hx, by simpa using heq⟩)
    rw [redeclared_concat, ih h.2, hnew]
    rfl

namespace Diagram

/-- The edges that the ways out of an element become, up to ids and anchors. -/
def routes (d : Diagram) (e : Element) : List Route :=
  e.departures.filterMap fun p => (d.edgeKind? p).map p.route

theorem map_route_edges_eq_flatMap (d : Diagram) (pins : Pins) :
    (d.edges pins).map Edge.route = d.elements.flatMap d.routes := by
  rw [map_route_edges, departures, List.filterMap_flatMap]
  rfl

theorem source_of_mem_routes {d : Diagram} {e : Element} {x : Route} (h : x ∈ d.routes e) :
    x.source = e.id := by
  obtain ⟨p, hp, hx⟩ := List.mem_filterMap.1 h
  obtain ⟨k, -, rfl⟩ := Option.map_eq_some_iff.1 hx
  exact congrArg Element.id (Element.element_of_mem_departures hp)

theorem filter_source_routes (d : Diagram) (e : Element) (x : String) :
    (d.routes e).filter (·.source = x) = if e.id = x then d.routes e else [] := by
  split
  · rename_i hid
    refine List.filter_eq_self.2 fun y hy => ?_
    simpa using (source_of_mem_routes hy).trans hid
  · rename_i hid
    refine List.filter_eq_nil_iff.2 fun y hy => ?_
    rw [source_of_mem_routes hy]
    simpa using hid

/-- The edges from `x` are the edges of the elements called `x`. -/
theorem filter_source_edges (d : Diagram) (pins : Pins) (x : String) :
    ((d.edges pins).filter (·.source = x)).map Edge.route =
      (d.elements.filter (·.id = x)).flatMap d.routes := by
  have hfilter : ((d.edges pins).filter (·.source = x)).map Edge.route =
      ((d.edges pins).map Edge.route).filter (·.source = x) := by
    rw [List.filter_map]
    rfl
  rw [hfilter, map_route_edges_eq_flatMap, List.filter_flatMap]
  simp only [filter_source_routes]
  induction d.elements with
  | nil => rfl
  | cons e es ih =>
    rw [List.flatMap_cons, ih, List.filter_cons]
    split <;> simp_all

section
variable {d d' : Diagram} (hnodup : (d.elements.map Element.id).Nodup)
  (h : d'.elements.Perm d.elements)
include hnodup h

theorem kindOf?_perm : d'.kindOf? = d.kindOf? := by
  funext id
  rw [kindOf?, kindOf?, ← List.head?_filter, ← List.head?_filter, filter_key_perm hnodup h]

theorem routes_perm : d'.routes = d.routes := by
  funext e
  rw [routes, routes, edgeKind?_congr (kindOf?_perm hnodup h)]

theorem diagnostics_perm : d'.diagnostics.Perm d.diagnostics := by
  have hnodup' : (d'.elements.map Element.id).Nodup := (h.map Element.id).nodup_iff.2 hnodup
  have hdepartures : d'.departures.Perm d.departures := h.flatMap_right _
  rw [diagnostics_eq, diagnostics_eq, redeclared_eq_nil hnodup, redeclared_eq_nil hnodup',
    flaw?_congr (kindOf?_perm hnodup h)]
  exact hdepartures.filterMap _

/-- Nodes up to their places, edges up to ids and anchors, and diagnostics are those of any other
order of the elements, and so are the edges of every element one after the other. -/
theorem toGraph_perm (pins pins' : Pins) :
    ((d'.toGraph pins').nodes.map Node.loose).Perm ((d.toGraph pins).nodes.map Node.loose) ∧
    ((d'.toGraph pins').edges.map Edge.route).Perm ((d.toGraph pins).edges.map Edge.route) ∧
    (d'.toGraph pins').diagnostics.Perm (d.toGraph pins).diagnostics ∧
    ∀ x, ((d'.toGraph pins').edges.filter (·.source = x)).map Edge.route =
      ((d.toGraph pins).edges.filter (·.source = x)).map Edge.route := by
  simp only [nodes_toGraph, edges_toGraph, diagnostics_toGraph]
  refine ⟨?_, ?_, diagnostics_perm hnodup h, fun x => ?_⟩
  · rw [Element.map_loose_nodes, Element.map_loose_nodes]
    exact h.map _
  · rw [map_route_edges_eq_flatMap, map_route_edges_eq_flatMap, routes_perm hnodup h]
    exact h.flatMap_right _
  · rw [filter_source_edges, filter_source_edges, filter_key_perm hnodup h,
      routes_perm hnodup h]

end

/-- A fork that leads to a process. -/
def forward : Element :=
  .fork { id := "F", content := [.utterance (.redirect { target := "P", arrow := .normal })] }

/-- A process that leads back to the fork, out of the diagram, and back to the fork once more, but
not in a way that there is between the two. -/
def backward : Element :=
  .process { id := "P", action := some "a", content := [
    .utterance (.redirect { target := "F", arrow := .repair }),
    .event { trigger := "t", transition := some { target := "Q", arrow := .normal } },
    .utterance (.redirect { target := "F", arrow := .simultaneous })] }

/-- The fork in front and the fork behind: three edges and two diagnostics. -/
theorem toGraph_perm_fork :
    ((⟨[backward, forward]⟩ : Diagram).toGraph []).edges.length = 3 ∧
    (((⟨[backward, forward]⟩ : Diagram).toGraph []).edges.map Edge.route).Perm
      (((⟨[forward, backward]⟩ : Diagram).toGraph []).edges.map Edge.route) ∧
    ((⟨[backward, forward]⟩ : Diagram).toGraph []).diagnostics.length = 2 ∧
    ((⟨[backward, forward]⟩ : Diagram).toGraph []).diagnostics.Perm
      ((⟨[forward, backward]⟩ : Diagram).toGraph []).diagnostics := by
  have hnodup : ((⟨[forward, backward]⟩ : Diagram).elements.map Element.id).Nodup := by decide
  have hperm : [backward, forward].Perm [forward, backward] := .swap forward backward []
  obtain ⟨-, hedges, hdiagnostics, -⟩ := @toGraph_perm _ ⟨[backward, forward]⟩ hnodup hperm [] []
  exact ⟨by decide +kernel, hedges, by decide +kernel, hdiagnostics⟩

end Diagram
end Interaction
