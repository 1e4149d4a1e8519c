import Mathlib.Data.List.Nodup
import Interaction.Proofs.Departures

/-!
# Which of how many edges an edge is

An edge leaves its element at a `Seat`: it knows which of the element's edges it is and how many
there are. Only the ways out that become edges are counted (`Diagram.kept`), each element for
itself. A way out that is taken counts on or leaves the count alone (`Draft.counts_depart`), so the
seats of an element are as many as its kept ways out (`Draft.seats_element`), and those of a diagram
are these one after the other (`Diagram.map_seat_plans`). Where no id is repeated, a seat knows how
many edges leave its node (`Diagram.total_eq`).
-/

namespace Interaction

/-- Where an edge leaves: its element, and which of how many edges of the element it is. -/
structure Seat where
  element : Element
  index : Nat
  total : Nat

def Plan.seat (p : Plan) : Seat := ⟨p.departure.element, p.index, p.total⟩

namespace Element

/-- The seats of `n` edges of one element. -/
def seats (e : Element) (n : Nat) : List Seat := (List.range n).map (⟨e, ·, n⟩)

variable {e : Element} {n : Nat}

theorem of_mem_seats {x : Seat} (h : x ∈ e.seats n) : x.element = e ∧ x.total = n := by
  obtain ⟨i, -, rfl⟩ := List.mem_map.1 h
  exact ⟨rfl, rfl⟩

theorem countP_seats_self : (e.seats n).countP (·.element.id = e.id) = n := by
  simp [seats, Function.comp_def]

theorem countP_seats_of_not_mem {es : List Element} {id : String} (h : id ∉ es.map Element.id)
    (size : Element → Nat) :
    (es.flatMap fun e => e.seats (size e)).countP (·.element.id = id) = 0 := by
  rw [List.countP_eq_zero]
  intro x hx hid
  obtain ⟨e, he, hx⟩ := List.mem_flatMap.1 hx
  rw [(of_mem_seats hx).1, decide_eq_true_eq] at hid
  exact h (List.mem_map.2 ⟨e, he, hid⟩)

theorem countP_seats {es : List Element} (hnodup : (es.map Element.id).Nodup) (he : e ∈ es)
    (size : Element → Nat) :
    (es.flatMap fun e => e.seats (size e)).countP (·.element.id = e.id) = size e := by
  obtain ⟨l, r, rfl⟩ := List.append_of_mem he
  have hother : e.id ∉ (l ++ r).map Element.id := by
    rw [List.map_append, List.map_cons, List.nodup_middle, List.nodup_cons] at hnodup
    rw [List.map_append]
    exact hnodup.1
  have hnone := countP_seats_of_not_mem hother size
  rw [List.flatMap_append, List.countP_append] at hnone
  rw [List.flatMap_append, List.flatMap_cons, List.countP_append, List.countP_append,
    countP_seats_self]
  omega

end Element

/-- The edges planned so far all leave `e`, and are counted from zero. -/
def Draft.Counts (s : Draft) (e : Element) : Prop :=
  s.plans.toList.map (fun p => (p.departure.element, p.index)) =
    (List.range s.plans.size).map (e, ·)

namespace Draft
variable {kindOf? : String → Option NodeKind} {s : Draft} {e : Element}

theorem counts_add (h : s.Counts e) {p : Departure} (hp : p.element = e) (kind : EdgeKind)
    (targetKind : Option NodeKind) : (s.add p kind targetKind).Counts e := by
  unfold Counts at h ⊢
  simp only [add, Array.toList_push, List.map_append, h, Array.size_push, List.range_succ]
  simp [hp]

theorem counts_depart (h : s.Counts e) {p : Departure} (hp : p.element = e) :
    (s.depart kindOf? p).Counts e := by
  unfold depart
  dsimp only
  split
  · exact h
  · split
    · exact counts_add (s := s.report _) h hp _ _
    · exact counts_add h hp _ _

theorem counts_foldl (h : s.Counts e) {ps : List Departure} (hps : ∀ p ∈ ps, p.element = e) :
    (ps.foldl (depart kindOf?) s).Counts e := by
  induction ps generalizing s with
  | nil => exact h
  | cons p ps ih =>
    obtain ⟨hp, hps⟩ := List.forall_mem_cons.1 hps
    exact ih (counts_depart h hp) hps

/-- The ways out of an element that are planned are those that become edges. -/
theorem size_foldl_depart (d : Diagram) (s : Draft) (ps : List Departure) :
    (ps.foldl (depart d.kindOf?) s).plans.size = s.plans.size + (ps.filter d.accepts).length := by
  have hlength := congrArg List.length (outline_foldl_depart d s ps)
  rw [List.length_append, List.length_filterMap_eq_countP] at hlength
  show _ = _ + (ps.filter fun p => (d.edgeKind? p).isSome).length
  simpa [outline, Diagram.outline?, List.countP_eq_length_filter] using hlength

/-- An element takes seats behind those of the elements before it. -/
theorem seats_element (d : Diagram) (s : Draft) (e : Element) :
    (s.element d.kindOf? e).plans.toList.map Plan.seat =
      s.plans.toList.map Plan.seat ++ e.seats (d.kept e).length := by
  have hstart : ({ s with plans := #[] } : Draft).Counts e := rfl
  have hown : (e.departures.foldl (depart d.kindOf?) { s with plans := #[] }).Counts e :=
    counts_foldl hstart fun _ => Element.element_of_mem_departures
  have hsize : (e.departures.foldl (depart d.kindOf?) { s with plans := #[] }).plans.size =
      (d.kept e).length := by
    rw [size_foldl_depart]
    exact Nat.zero_add _
  rw [← foldl_item] at hown hsize
  set own := e.outgoing.foldl (item d.kindOf? e) { s with plans := #[] } with hset
  have hseats := congrArg (List.map fun x => (⟨x.1, x.2, own.plans.size⟩ : Seat)) hown
  rw [List.map_map, List.map_map] at hseats
  rw [element, ← hset, ← hsize]
  simp only [Array.toList_append, Array.toList_map, List.map_append, List.map_map]
  exact congrArg _ hseats

end Draft

namespace Diagram
variable {d : Diagram}

theorem map_seat_plans (d : Diagram) :
    d.plans.map Plan.seat = d.elements.flatMap fun e => e.seats (d.kept e).length := by
  rw [plans, draft, kindOf?_census]
  exact foldl_appends (fun s : Draft => s.plans.toList.map Plan.seat) (Draft.seats_element d)
    ⟨#[], d.census.diagnostics, fun _ => 0⟩ d.elements

/-- Where ids are not repeated, an edge knows how many edges its element has. -/
theorem total_eq (hnodup : (d.elements.map Element.id).Nodup) {p : Plan} (hp : p ∈ d.plans) :
    p.total = d.plans.countP (·.source = p.source) := by
  have hseat : p.seat ∈ d.plans.map Plan.seat := List.mem_map_of_mem hp
  rw [map_seat_plans] at hseat
  obtain ⟨e, he, hp⟩ := List.mem_flatMap.1 hseat
  obtain ⟨helement, htotal⟩ := Element.of_mem_seats hp
  have hcount := Element.countP_seats hnodup he fun e => (d.kept e).length
  rw [← map_seat_plans, List.countP_map] at hcount
  have hsource : p.source = e.id := congrArg Element.id helement
  rw [hsource]
  exact htotal.trans hcount.symm

end Diagram
end Interaction
