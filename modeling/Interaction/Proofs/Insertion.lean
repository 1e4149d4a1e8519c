import Interaction.Proofs.EdgeIds
import Interaction.Proofs.Departures
import Interaction.Proofs.Pins

/-!
# One more element

An edge's number counts the edges of the same base in front of it, and a base can be read off
different names, since names may contain its underscore. So an element that is put into a diagram
can take the numbers of edges behind it. `number` says which ids the ways out get, part by part
(`number_append`), `keeps_insert_iff` that this is the only thing which goes wrong, and
`keeps_insert_of_plain` that nothing does if no name contains an underscore.
-/

namespace Interaction

/-! ### Ids by counting -/

/-- One edge more of the base of `p`. -/
def tally (count : String → Nat) (p : Departure) : String → Nat :=
  fun b => if b = p.base then count p.base + 1 else count b

/-- The ids of some ways out, each numbered from the count of its base. -/
def number (count : String → Nat) : List Departure → List (String × Departure)
  | [] => []
  | p :: ps => (numberedId p.base (count p.base), p) :: number (tally count p) ps

section
variable {count count' : String → Nat} {p : Departure} {ps qs : List Departure}

theorem number_append :
    number count (ps ++ qs) = number count ps ++ number (ps.foldl tally count) qs := by
  induction ps generalizing count with
  | nil => rfl
  | cons p ps ih => rw [List.cons_append, number, ih, number, List.foldl_cons, List.cons_append]

theorem foldl_tally (b : String) :
    ps.foldl tally count b = count b + ps.countP (·.base = b) := by
  induction ps generalizing count with
  | nil => rfl
  | cons p ps ih =>
    rw [List.foldl_cons, ih, List.countP_cons, tally]
    by_cases hb : p.base = b
    · subst hb
      simp only [decide_true, if_true]
      omega
    · simp [hb, Ne.symm hb]

/-- Only the counts of the bases that occur matter. -/
theorem number_congr (h : ∀ p ∈ ps, count p.base = count' p.base) :
    number count ps = number count' ps := by
  induction ps generalizing count count' with
  | nil => rfl
  | cons p ps ih =>
    obtain ⟨hp, hps⟩ := List.forall_mem_cons.1 h
    rw [number, number, hp, ih]
    intro q hq
    rw [tally, tally, hp, hps q hq]

theorem mem_of_number {id : String} (h : (id, p) ∈ number count ps) : p ∈ ps := by
  induction ps generalizing count with
  | nil => cases h
  | cons q ps ih =>
    rcases List.mem_cons.1 h with heq | h
    · cases heq
      exact List.mem_cons_self
    · exact List.mem_cons_of_mem _ (ih h)

/-- The first of a base gets the number that the base has in front. -/
theorem exists_first (h : p ∈ ps) :
    ∃ q, (numberedId p.base (count p.base), q) ∈ number count ps := by
  induction ps generalizing count with
  | nil => cases h
  | cons q ps ih =>
    by_cases hbase : q.base = p.base
    · exact ⟨q, by rw [number, hbase]; exact List.mem_cons_self⟩
    · have hp : p ∈ ps := by
        rcases List.mem_cons.1 h with rfl | h
        · exact absurd rfl hbase
        · exact h
      have hcount : tally count q p.base = count p.base := if_neg (Ne.symm hbase)
      obtain ⟨q', hq'⟩ : ∃ q', (numberedId p.base (tally count q p.base), q') ∈
        number (tally count q) ps := ih hp
      rw [hcount] at hq'
      exact ⟨q', List.mem_cons_of_mem _ hq'⟩

end

/-! ### The draft numbers the ways out -/

def Plan.key (p : Plan) : String × Departure := (p.id, p.departure)

def Draft.keys (s : Draft) : List (String × Departure) := s.plans.toList.map Plan.key

/-- The draft `s'` is `s` with the ways out `ps` planned behind. -/
structure Draft.Extends (s s' : Draft) (ps : List Departure) : Prop where
  keys : s'.keys = s.keys ++ number s.count ps
  count : s'.count = ps.foldl tally s.count

namespace Draft.Extends
variable {s s' s'' : Draft} {ps qs : List Departure}

theorem nil (s : Draft) : s.Extends s [] := ⟨by simp [number], rfl⟩

theorem trans (h : s.Extends s' ps) (h' : s'.Extends s'' qs) : s.Extends s'' (ps ++ qs) := by
  refine ⟨?_, ?_⟩
  · rw [h'.keys, h.keys, h.count, number_append, List.append_assoc]
  · rw [h'.count, h.count, List.foldl_append]

theorem foldl {α : Type} {step : Draft → α → Draft} {f : α → List Departure}
    (h : ∀ s a, Extends s (step s a) (f a)) (s : Draft) (as : List α) :
    s.Extends (as.foldl step s) (as.flatMap f) := by
  induction as generalizing s with
  | nil => exact nil s
  | cons a as ih => exact (h s a).trans (ih (step s a))

end Draft.Extends

namespace Diagram
variable (d : Diagram)

theorem extends_add (s : Draft) (p : Departure) (kind : EdgeKind) (targetKind : Option NodeKind) :
    s.Extends (s.add p kind targetKind) [p] :=
  ⟨by simp [Draft.keys, Draft.add, Plan.key, number], rfl⟩

theorem extends_depart (s : Draft) (p : Departure) :
    s.Extends (s.depart d.kindOf? p) ([p].filter d.accepts) := by
  unfold Draft.depart
  dsimp only
  split
  · rename_i hkind
    have hno : ¬ d.accepts p = true := by
      rw [accepts, edgeKind?, hkind]
      simp
    rw [List.filter_cons_of_neg hno]
    exact ⟨(Draft.Extends.nil s).keys, rfl⟩
  · rename_i kind hkind
    have hyes : d.accepts p = true := Option.isSome_iff_exists.2 ⟨kind, hkind⟩
    rw [List.filter_cons_of_pos hyes]
    split
    · exact ⟨(extends_add (s.report _) p kind _).keys, rfl⟩
    · exact extends_add s p kind _

theorem extends_element (s : Draft) (e : Element) :
    s.Extends (s.element d.kindOf? e) (d.kept e) := by
  have hown := Draft.Extends.foldl d.extends_depart { s with plans := #[] } e.departures
  rw [← Draft.foldl_item, ← List.filter_flatMap, List.flatMap_singleton'] at hown
  refine ⟨?_, hown.count⟩
  have hkeys := hown.keys
  simp only [Draft.keys, Draft.element, Array.toList_append, Array.toList_map, List.map_append,
    List.map_map] at hkeys ⊢
  exact congrArg _ hkeys

/-- The ways out that become edges, in order. -/
def accepted : List Departure := d.departures.filter d.accepts

theorem accepted_eq_flatMap : d.accepted = d.elements.flatMap d.kept := List.filter_flatMap

theorem map_key_plans : d.plans.map Plan.key = number (fun _ => 0) d.accepted := by
  have hrun := Draft.Extends.foldl d.extends_element
    ⟨#[], d.census.diagnostics, fun _ => 0⟩ d.elements
  rw [accepted_eq_flatMap, plans, draft, kindOf?_census]
  exact hrun.keys

/-- Id and ends of every edge. -/
theorem map_ends_edges (pins : Pins) :
    (d.edges pins).map (fun e => (e.id, e.source, e.target)) =
      (number (fun _ => 0) d.accepted).map
        fun (id, p) => (id, p.element.id, p.transition.target) := by
  rw [d.map_edges pins fun _ => rfl, ← map_key_plans, List.map_map]
  rfl

end Diagram

/-! ### Pinned edges -/

theorem Berths.handles_of_mem {pins : Pins} {b : Berths} {ps : List Plan} {e : Edge} {h : Handles}
    (he : e ∈ connectAll pins b ps) (hpin : pins.find e.id = h.pin) :
    e.sourceHandle = h.source ∧ e.targetHandle = h.target := by
  have hkept := connect_find he
  rw [hpin] at hkept
  exact ⟨(congrArg Edge.sourceHandle hkept).symm, (congrArg Edge.targetHandle hkept).symm⟩

/-- The pins that are captured from a graph are the anchors of its edges. -/
theorem find_handles_ofGraph {g : Graph} (hnodup : (g.edges.map Edge.id).Nodup) {e : Edge}
    (he : e ∈ g.edges) : (Pins.ofHandles (Arrangement.ofGraph g).handles).find e.id =
      Handles.pin ⟨e.sourceHandle, e.targetHandle⟩ := by
  have hpins : Pins.ofHandles ((Arrangement.ofGraph g).edges.filterMap AnchoredEdge.handles?) =
      g.edges.map fun e => (e.id, Handles.pin ⟨e.sourceHandle, e.targetHandle⟩) := by
    rw [Arrangement.ofGraph, Pins.ofHandles, List.filterMap_map, List.map_filterMap,
      ← List.filterMap_eq_map]
    rfl
  set pins := g.edges.map fun e => (e.id, Handles.pin ⟨e.sourceHandle, e.targetHandle⟩)
  have hfind : pins.reverse.find? (·.1 = e.id) =
      some (e.id, Handles.pin ⟨e.sourceHandle, e.targetHandle⟩) := by
    refine find?_of_nodup_map (k := Prod.fst)
      (a := (e.id, Handles.pin ⟨e.sourceHandle, e.targetHandle⟩)) ?_ ?_
    · rw [List.map_reverse, List.nodup_reverse, List.map_map]
      exact hnodup
    · rw [List.mem_reverse]
      exact List.mem_map_of_mem he
  rw [Arrangement.handles, Pins.find_ofHandles_of_perm (List.Perm.refl _), hpins, Pins.find, hfind]
  rfl

/-- The graph has the edge, between the same nodes and at the same anchors. -/
def Graph.Keeps (g : Graph) (e : Edge) : Prop :=
  ∃ e' ∈ g.edges, e'.id = e.id ∧ e'.source = e.source ∧ e'.target = e.target ∧
    e'.sourceHandle = e.sourceHandle ∧ e'.targetHandle = e.targetHandle

namespace Diagram

/-- The anchors of the diagram's own graph, to be kept in another. -/
def ownPins (d : Diagram) : Pins := Pins.ofHandles (Arrangement.ofGraph (d.toGraph [])).handles

/-- An edge of one diagram is kept in another if the other has an edge with its id and its ends. -/
theorem keeps_of_mem {d d' : Diagram} {e : Edge} (he : e ∈ (d.toGraph []).edges)
    (hends : (e.id, e.source, e.target) ∈
      (d'.edges d.ownPins).map fun e => (e.id, e.source, e.target)) :
    (d'.toGraph d.ownPins).Keeps e := by
  obtain ⟨e', he', heq⟩ := List.mem_map.1 hends
  simp only [Prod.mk.injEq] at heq
  obtain ⟨hid, hsource, htarget⟩ := heq
  have hpin := find_handles_ofGraph (d.nodup_map_id_edges []) he
  rw [← hid] at hpin
  obtain ⟨hs, ht⟩ := Berths.handles_of_mem he' hpin
  exact ⟨e', he', hid, hsource, htarget, hs, ht⟩

/-! ### Before and behind the new element -/

/-- The ways out of some elements that the diagram accepts. -/
def acceptedOf (d : Diagram) (es : List Element) : List Departure :=
  (es.flatMap Element.departures).filter d.accepts

variable {l r : List Element} {x : Element}

theorem kindOf?_insert {id : String} (h : id ≠ x.id) :
    (⟨l ++ x :: r⟩ : Diagram).kindOf? id = (⟨l ++ r⟩ : Diagram).kindOf? id := by
  simp [kindOf?, List.find?_append, List.find?_cons_of_neg, Ne.symm h]

theorem accepts_insert {p : Departure} (h : p.transition.target ≠ x.id) :
    (⟨l ++ x :: r⟩ : Diagram).accepts p = (⟨l ++ r⟩ : Diagram).accepts p := by
  rw [accepts, accepts, edgeKind?, edgeKind?, kindOf?_insert h]

theorem accepted_append : (⟨l ++ r⟩ : Diagram).accepted =
    acceptedOf ⟨l ++ r⟩ l ++ acceptedOf ⟨l ++ r⟩ r := by
  rw [accepted, departures, List.flatMap_append, List.filter_append]
  rfl

theorem accepted_insert
    (h : ∀ p ∈ (⟨l ++ r⟩ : Diagram).departures, p.transition.target ≠ x.id) :
    (⟨l ++ x :: r⟩ : Diagram).accepted = acceptedOf ⟨l ++ r⟩ l ++
      (acceptedOf ⟨l ++ x :: r⟩ [x] ++ acceptedOf ⟨l ++ r⟩ r) := by
  rw [departures, List.flatMap_append] at h
  obtain ⟨hl, hr⟩ := List.forall_mem_append.1 h
  have hfront : acceptedOf ⟨l ++ x :: r⟩ l = acceptedOf ⟨l ++ r⟩ l :=
    List.filter_congr fun p hp => accepts_insert (hl p hp)
  have hback : acceptedOf ⟨l ++ x :: r⟩ r = acceptedOf ⟨l ++ r⟩ r :=
    List.filter_congr fun p hp => accepts_insert (hr p hp)
  rw [← hfront, ← hback, accepted, departures, ← List.singleton_append]
  simp only [acceptedOf, List.flatMap_append, List.filter_append]

/-- If the new element shares no base with what is behind it, all ids stay. -/
theorem keeps_of_apart
    (htarget : ∀ p ∈ (⟨l ++ r⟩ : Diagram).departures, p.transition.target ≠ x.id)
    (hbase : ∀ p ∈ acceptedOf ⟨l ++ x :: r⟩ [x], ∀ q ∈ acceptedOf ⟨l ++ r⟩ r, p.base ≠ q.base)
    {e : Edge} (he : e ∈ ((⟨l ++ r⟩ : Diagram).toGraph []).edges) :
    ((⟨l ++ x :: r⟩ : Diagram).toGraph (ownPins ⟨l ++ r⟩)).Keeps e := by
  refine keeps_of_mem he ?_
  have hmem := List.mem_map_of_mem (f := fun e : Edge => (e.id, e.source, e.target)) he
  rw [edges_toGraph, map_ends_edges, accepted_append, number_append, List.map_append] at hmem
  -- What is in front of `x` keeps its numbers anyway; behind it the counts are the same.
  have hback : number ((acceptedOf ⟨l ++ x :: r⟩ [x]).foldl tally
        ((acceptedOf ⟨l ++ r⟩ l).foldl tally fun _ => 0)) (acceptedOf ⟨l ++ r⟩ r) =
      number ((acceptedOf ⟨l ++ r⟩ l).foldl tally fun _ => 0) (acceptedOf ⟨l ++ r⟩ r) := by
    refine number_congr fun q hq => ?_
    rw [foldl_tally, List.countP_eq_zero.2, Nat.add_zero]
    intro p hp
    simpa using hbase p hp q hq
  rw [map_ends_edges, accepted_insert htarget, number_append, number_append, hback]
  simp only [List.map_append, List.mem_append] at hmem ⊢
  rcases hmem with hfront | hrest
  · exact .inl hfront
  · exact .inr (.inr hrest)

theorem element_of_mem_acceptedOf {d : Diagram} {es : List Element} {p : Departure}
    (h : p ∈ d.acceptedOf es) : p.element ∈ es := by
  obtain ⟨e, he, hp⟩ := List.mem_flatMap.1 (List.mem_of_mem_filter h)
  rwa [Element.element_of_mem_departures hp]

/-- A way out with its id is an edge. -/
theorem exists_edge {d : Diagram} {id : String} {p : Departure}
    (h : (id, p) ∈ number (fun _ => 0) d.accepted) (pins : Pins) :
    ∃ e ∈ (d.toGraph pins).edges, e.id = id ∧ e.source = p.element.id := by
  have hmem := List.mem_map_of_mem (f := fun (id, p) => (id, p.element.id, p.transition.target)) h
  rw [← d.map_ends_edges pins] at hmem
  obtain ⟨e, he, heq⟩ := List.mem_map.1 hmem
  simp only [Prod.mk.injEq] at heq
  exact ⟨e, he, heq.1, heq.2.1⟩

/-- An edge whose number the new element takes is not kept. -/
theorem apart_of_keeps (hid : x.id ∉ (l ++ r).map Element.id)
    (htarget : ∀ p ∈ (⟨l ++ r⟩ : Diagram).departures, p.transition.target ≠ x.id)
    (hkeeps : ∀ e ∈ ((⟨l ++ r⟩ : Diagram).toGraph []).edges,
      ((⟨l ++ x :: r⟩ : Diagram).toGraph (ownPins ⟨l ++ r⟩)).Keeps e) :
    ∀ p ∈ acceptedOf ⟨l ++ x :: r⟩ [x], ∀ q ∈ acceptedOf ⟨l ++ r⟩ r, p.base ≠ q.base := by
  intro p hp q hq hbase
  -- The first of the base behind the new element, and the first in the new element, get one id.
  set count := (acceptedOf ⟨l ++ r⟩ l).foldl tally fun _ => 0
  obtain ⟨q', hq'⟩ : ∃ q', (numberedId q.base (count q.base), q') ∈ number count _ :=
    exists_first hq
  obtain ⟨p', hp'⟩ : ∃ p', (numberedId p.base (count p.base), p') ∈ number count _ :=
    exists_first hp
  have hold : (numberedId q.base (count q.base), q') ∈
      number (fun _ => 0) (⟨l ++ r⟩ : Diagram).accepted := by
    rw [accepted_append, number_append]
    exact List.mem_append_right _ hq'
  have hnew : (numberedId q.base (count q.base), p') ∈
      number (fun _ => 0) (⟨l ++ x :: r⟩ : Diagram).accepted := by
    rw [accepted_insert htarget, number_append, number_append, ← hbase]
    exact List.mem_append_right _ (List.mem_append_left _ hp')
  obtain ⟨e, he, hid₁, hsource₁⟩ := exists_edge hold []
  obtain ⟨e', he', hid₂, hsource₂⟩ := exists_edge hnew (ownPins ⟨l ++ r⟩)
  obtain ⟨e'', he'', hid₃, hsource₃, -⟩ := hkeeps e he
  have heq : e' = e'' := List.inj_on_of_nodup_map
    (nodup_map_id_edges ⟨l ++ x :: r⟩ (ownPins ⟨l ++ r⟩)) he' he''
    (hid₂.trans (hid₁.symm.trans hid₃.symm))
  have hx : p'.element = x := List.mem_singleton.1 (element_of_mem_acceptedOf (mem_of_number hp'))
  have hq'' := element_of_mem_acceptedOf (mem_of_number hq')
  refine hid (List.mem_map.2 ⟨q'.element, List.mem_append_right l hq'', ?_⟩)
  rw [← hsource₁, ← hsource₃, ← heq, hsource₂, hx]

/-- The edges of a diagram outlast a new element, which nothing in it names, with their ids, their
ends and their anchors, exactly if no edge of the element has the base of an edge behind it. -/
theorem keeps_insert_iff (hid : x.id ∉ (l ++ r).map Element.id)
    (htarget : ∀ p ∈ (⟨l ++ r⟩ : Diagram).departures, p.transition.target ≠ x.id) :
    (∀ e ∈ ((⟨l ++ r⟩ : Diagram).toGraph []).edges,
      ((⟨l ++ x :: r⟩ : Diagram).toGraph (ownPins ⟨l ++ r⟩)).Keeps e) ↔
    ∀ p ∈ acceptedOf ⟨l ++ x :: r⟩ [x], ∀ q ∈ acceptedOf ⟨l ++ r⟩ r, p.base ≠ q.base :=
  ⟨apart_of_keeps hid htarget, fun hbase _ => keeps_of_apart htarget hbase⟩

/-- A scene with one way out. -/
def leading (id target : String) : Element :=
  .scene { id, variant := .normal, isMain := false, content := [],
           exits := [.utterance { speaker := .user, text := "go",
                                  transition := some { target, arrow := .normal } }] }

/-- Behind the scene the new one does no harm, in front of it it does. -/
theorem keeps_insert_leading :
    (∀ e ∈ ((⟨[leading "A" "B_C"]⟩ : Diagram).toGraph []).edges,
      ((⟨[leading "A" "B_C", leading "A_B" "C"]⟩ : Diagram).toGraph
        (ownPins ⟨[leading "A" "B_C"]⟩)).Keeps e) ∧
    ¬ ∀ e ∈ ((⟨[leading "A" "B_C"]⟩ : Diagram).toGraph []).edges,
      ((⟨[leading "A_B" "C", leading "A" "B_C"]⟩ : Diagram).toGraph
        (ownPins ⟨[leading "A" "B_C"]⟩)).Keeps e := by
  have hid : (leading "A_B" "C").id ∉ [leading "A" "B_C"].map Element.id := by decide
  have htarget : ∀ p ∈ (⟨[leading "A" "B_C"]⟩ : Diagram).departures,
      p.transition.target ≠ (leading "A_B" "C").id := by
    decide
  refine ⟨?_, fun hkeeps => ?_⟩
  · exact (keeps_insert_iff (l := [leading "A" "B_C"]) (r := []) hid htarget).2 (by decide)
  · have hapart := (keeps_insert_iff (l := []) (r := [leading "A" "B_C"]) hid htarget).1 hkeeps
    revert hapart
    decide +kernel

/-- A scene that is put in front takes the id of the edge, which gets another one. -/
theorem not_keeps_insert : ∃ d x,
    parse "scene A \x7b u: 'go' -> B_C \x7d" = .ok d ∧
    parse "scene A_B \x7b u: 'go' -> C \x7d" = .ok ⟨[x]⟩ ∧
    (d.elements.map Element.id).Nodup ∧ x.id ∉ d.elements.map Element.id ∧
    (∀ p ∈ d.departures, p.transition.target ≠ x.id) ∧
    ¬ ∀ e ∈ (d.toGraph []).edges,
      ((⟨x :: d.elements⟩ : Diagram).toGraph d.ownPins).Keeps e := by
  have hcheck : ((parse "scene A \x7b u: 'go' -> B_C \x7d").toOption.any fun d =>
      (parse "scene A_B \x7b u: 'go' -> C \x7d").toOption.any fun d' =>
        decide (d'.elements.length = 1 ∧ (d.elements.map Element.id).Nodup ∧
          ∀ x ∈ d'.elements, x.id ∉ d.elements.map Element.id ∧
            (∀ p ∈ d.departures, p.transition.target ≠ x.id) ∧
            ∃ e ∈ (d.toGraph []).edges,
              ∀ e' ∈ ((⟨x :: d.elements⟩ : Diagram).toGraph d.ownPins).edges,
                e'.id = e.id → e'.source ≠ e.source)) = true := by
    decide +kernel
  cases hd : parse "scene A \x7b u: 'go' -> B_C \x7d" with
  | error fault => rw [hd] at hcheck; cases hcheck
  | ok d =>
    cases hd' : parse "scene A_B \x7b u: 'go' -> C \x7d" with
    | error fault => rw [hd, hd'] at hcheck; cases hcheck
    | ok d' =>
      rw [hd, hd'] at hcheck
      obtain ⟨hone, hnodup, hall⟩ := of_decide_eq_true hcheck
      obtain ⟨x, hx⟩ := List.length_eq_one_iff.1 hone
      obtain ⟨hid, htarget, e, he, hother⟩ := hall x (by simp [hx])
      have hd'' : d' = ⟨[x]⟩ := by rw [← hx]
      refine ⟨d, x, rfl, by rw [hd''], hnodup, hid, htarget, fun hkeeps => ?_⟩
      obtain ⟨e', he', hid', hsource, -⟩ := hkeeps e he
      exact hother e' he' hid' hsource

/-! ### Names without an underscore -/

theorem append_cons_inj_of_not_mem_left {α : Type} {a : α} {l l' r r' : List α} (hl : a ∉ l)
    (hl' : a ∉ l') (h : l ++ a :: r = l' ++ a :: r') : l = l' := by
  have hreverse : r.reverse ++ a :: l.reverse = r'.reverse ++ a :: l'.reverse := by
    simpa using congrArg List.reverse h
  have hparts := append_cons_inj_of_not_mem_right (by simpa using hl) (by simpa using hl') hreverse
  exact List.reverse_injective hparts.2

theorem toList_base (p : Departure) : p.base.toList =
    'e' :: '_' :: (p.element.id.toList ++ '_' :: (p.transition.target.toList ++
      '_' :: p.item.words.toList.filter Char.isAlphanum)) := by
  simp [Departure.base]

/-- Such a name can be read off the base. -/
theorem id_of_base {p q : Departure} (hp : '_' ∉ p.element.id.toList)
    (hq : '_' ∉ q.element.id.toList) (h : p.base = q.base) : p.element.id = q.element.id := by
  have hchars := congrArg String.toList h
  rw [toList_base, toList_base] at hchars
  have hbehind := (List.cons.inj (List.cons.inj hchars).2).2
  exact String.toList_inj.1 (append_cons_inj_of_not_mem_left hp hq hbehind)

/-- If no name contains an underscore, all edges are kept. -/
theorem keeps_insert_of_plain (hid : x.id ∉ (l ++ r).map Element.id)
    (htarget : ∀ p ∈ (⟨l ++ r⟩ : Diagram).departures, p.transition.target ≠ x.id)
    (hplain : ∀ e ∈ l ++ x :: r, '_' ∉ e.id.toList) :
    ∀ e ∈ ((⟨l ++ r⟩ : Diagram).toGraph []).edges,
      ((⟨l ++ x :: r⟩ : Diagram).toGraph (ownPins ⟨l ++ r⟩)).Keeps e := by
  refine fun e => keeps_of_apart htarget fun p hp q hq hbase => ?_
  have hp' : p.element = x := List.mem_singleton.1 (element_of_mem_acceptedOf hp)
  have hq' : q.element ∈ r := element_of_mem_acceptedOf hq
  have hsame := id_of_base (hp' ▸ hplain x (by simp)) (hplain q.element (by simp [hq'])) hbase
  exact hid (List.mem_map.2 ⟨q.element, List.mem_append_right l hq', by rw [← hsame, hp']⟩)

end Diagram
end Interaction
