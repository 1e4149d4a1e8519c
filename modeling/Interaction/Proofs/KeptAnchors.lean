import Mathlib.Data.List.Perm.Subperm
import Interaction.Proofs.Allocation
import Interaction.Proofs.Departures
import Interaction.Proofs.Pins

/-!
# Which kept anchors are given away

What an edge keeps is taken before any other edge draws, so while there is room no edge draws it
(`Settled.not_mem_keptAt`). Fixed anchors are not asked for: an edge without a pin gets the one of
its seat, kept or not (`restored_given_iff`). Where no id is repeated, a seat knows how many edges
leave its node, so that only a fork can give an anchor away.
-/

namespace Interaction

/-! ### Room -/

theorem length_le_freeAnchors {order : List String} (h : order.Nodup) (kept : List String) :
    order.length ≤ (freeAnchors order kept).length + kept.length := by
  have htaken : (order.filter (kept.contains ·)).length ≤ kept.length := by
    refine ((h.filter _).subperm fun x hx => ?_).length_le
    simpa using (List.mem_filter.1 hx).2
  have hparts : order.length =
      (order.filter (kept.contains ·)).length + (freeAnchors order kept).length := by
    rw [freeAnchors, ← List.countP_eq_length_filter, ← List.countP_eq_length_filter]
    simpa using List.length_eq_countP_add_countP (l := order) (kept.contains ·)
  omega

/-- An end of a node draws or keeps an anchor, or has a fixed one. -/
theorem countP_draws_add_keptAt (node : String) (es : List EdgeEnd) :
    es.countP (·.draws node) + (keptAt node es).length ≤ es.countP (·.node = node) := by
  induction es with
  | nil => exact Nat.le_refl 0
  | cons e es ih =>
    by_cases hnode : e.node = node
    · cases hpin : e.pin with
      | none =>
        have hkept : keptAt node (e :: es) = keptAt node es := by simp [keptAt, hpin]
        rw [List.countP_cons, List.countP_cons_of_pos (by simpa using hnode), hkept]
        split <;> omega
      | some handle =>
        have hkept : keptAt node (e :: es) = handle :: keptAt node es := by
          simp [keptAt, hpin, hnode]
        have hdraws : e.draws node = false := by simp [EdgeEnd.draws, hpin]
        rw [List.countP_cons_of_neg (by simp [hdraws]),
          List.countP_cons_of_pos (by simpa using hnode), hkept, List.length_cons]
        omega
    · have hkept : keptAt node (e :: es) = keptAt node es := by simp [keptAt, hnode]
      have hdraws : e.draws node = false := by simp [EdgeEnd.draws, hnode]
      rw [List.countP_cons_of_neg (by simp [hdraws]),
        List.countP_cons_of_neg (by simpa using hnode), hkept]
      exact ih

theorem drawnAnchor_not_mem {order kept : List String} {k : Nat}
    (h : k < (freeAnchors order kept).length) : drawnAnchor order kept k ∉ kept := by
  have hmem : drawnAnchor order kept k ∈ freeAnchors order kept := by
    simp [drawnAnchor, List.getElem?_eq_getElem h]
  simpa using (List.mem_filter.1 hmem).2

section
variable {order handles : List String} {es : List EdgeEnd} {e : EdgeEnd} {j : Nat}

theorem Settled.getElem?_of_fixed (h : Settled order es handles) (he : es[j]? = some e)
    (hpin : e.pin = none) {handle : String} (hfixed : e.anchoring = .fixed handle) :
    handles[j]? = some handle := by
  rw [h.anchor, List.getElem?_mapIdx, he]
  simp [EdgeEnd.anchor, hpin, hfixed]

/-- A drawn anchor is kept by no end of its node if the ends are no more than the anchors. -/
theorem Settled.not_mem_keptAt (h : Settled order es handles) (hnodup : order.Nodup)
    (he : es[j]? = some e) (hdraws : e.draws e.node = true)
    (hfew : es.countP (·.node = e.node) ≤ order.length) :
    ∃ handle, handles[j]? = some handle ∧ handle ∉ keptAt e.node es := by
  obtain ⟨hj, hget⟩ := List.getElem?_eq_some_iff.1 he
  have hbefore : (es.take j).countP (·.draws e.node) < es.countP (·.draws e.node) := by
    have hsplit : es = es.take j ++ e :: es.drop (j + 1) := by
      rw [← hget, ← List.drop_eq_getElem_cons, List.take_append_drop]
    conv => rhs; rw [hsplit]
    rw [List.countP_append, List.countP_cons_of_pos hdraws]
    omega
  have hroom := length_le_freeAnchors hnodup (keptAt e.node es)
  have hends := countP_draws_add_keptAt e.node es
  have hfree : (es.take j).countP (·.draws e.node) <
      (freeAnchors order (keptAt e.node es)).length := by
    omega
  refine ⟨_, ?_, drawnAnchor_not_mem hfree⟩
  rw [h.anchor, List.getElem?_mapIdx, he]
  simp only [EdgeEnd.draws, Bool.and_eq_true, Option.isNone_iff_eq_none, decide_eq_true_eq]
    at hdraws
  simp [EdgeEnd.anchor, hdraws.1.2, hdraws.2]

end

/-! ### Kept and fixed anchors -/

namespace Diagram
variable {d : Diagram}

section
variable {pins : Pins} {e f : Edge} {j : Nat} {handle : String}

theorem exists_plan (hf : (d.edges pins)[j]? = some f) :
    ∃ p, d.plans[j]? = some p ∧ f.loose = p.loose := by
  have hloose := congrArg (·[j]?) (d.map_loose_edges pins)
  simp only [List.getElem?_map, hf, Option.map_some] at hloose
  obtain ⟨p, hp, hfp⟩ := Option.map_eq_some_iff.1 hloose.symm
  exact ⟨p, hp, hfp.symm⟩

theorem countP_source_edges (pins : Pins) (id : String) :
    (d.edges pins).countP (·.source = id) = d.plans.countP (·.source = id) := by
  have hloose := congrArg (List.countP (·.source = id)) (d.map_loose_edges pins)
  rw [List.countP_map, List.countP_map] at hloose
  exact hloose

theorem mem_keptAt_sourceEnds (he : e ∈ d.edges pins)
    (hpin : (pins.find e.id).source = some handle) :
    handle ∈ keptAt e.source (d.sourceEnds pins) := by
  obtain ⟨i, hi⟩ := List.mem_iff_getElem?.1 he
  obtain ⟨p, hp, hloose⟩ := exists_plan hi
  have hid : e.id = p.id := congrArg Edge.id hloose
  have hsource : e.source = p.source := congrArg Edge.source hloose
  refine List.mem_filterMap.2 ⟨p.sourceEnd (pins.find p.id), ?_, ?_⟩
  · exact List.mem_map_of_mem (List.mem_of_getElem? hp)
  · refine (if_pos hsource.symm).trans ?_
    exact hid ▸ hpin

theorem one_lt_countP {α : Type} {l : List α} {p : α → Bool} {a b : α} (ha : a ∈ l) (hb : b ∈ l)
    (hne : a ≠ b) (hpa : p a = true) (hpb : p b = true) : 1 < l.countP p := by
  have hboth : [a, b] ⊆ l.filter p := by
    intro x hx
    rcases List.mem_pair.1 hx with rfl | rfl
    · exact List.mem_filter.2 ⟨ha, hpa⟩
    · exact List.mem_filter.2 ⟨hb, hpb⟩
  rw [List.countP_eq_length_filter]
  exact (List.Nodup.subperm (by simpa using hne) hboth).length_le

/-- Only a fork has fixed anchors for more than one edge. -/
theorem fork_of_outbound {kind : NodeKind} {index total : Nat} (htotal : 1 < total)
    (h : Anchoring.outbound kind index total = .fixed handle) :
    kind = .fork ∧ handle = if index % 2 = 0 then "b-2" else "b-3" := by
  have hmany : ¬ total ≤ 1 := Nat.not_le_of_lt htotal
  cases kind with
  | fork => exact ⟨rfl, (Anchoring.fixed.inj h).symm⟩
  | start | process | contact =>
    rw [Anchoring.outbound, if_neg hmany] at h
    cases h
  | _ => cases h

/-- An edge that keeps no anchor gets one that its node keeps exactly if it is its fixed one. -/
theorem sourceHandle_eq_iff {p : Plan} (hf : (d.edges pins)[j]? = some f)
    (hp : d.plans[j]? = some p) (hfree : (pins.find p.id).source = none)
    (hfew : d.plans.countP (·.source = p.source) ≤ 20)
    (hkept : handle ∈ keptAt p.source (d.sourceEnds pins)) :
    f.sourceHandle = handle ↔
      Anchoring.outbound p.departure.element.kind p.index p.total = .fixed handle := by
  have hsettled := settled_settleEnds nodup_sourceOrder (d.sourceEnds pins)
  rw [← map_sourceHandle_edges] at hsettled
  have hend : (d.sourceEnds pins)[j]? = some (p.sourceEnd (pins.find p.id)) := by
    rw [sourceEnds, Berths.sourceEnds, List.getElem?_map, hp]
    rfl
  have hhandle : ((d.edges pins).map Edge.sourceHandle)[j]? = some f.sourceHandle := by
    rw [List.getElem?_map, hf]
    rfl
  cases hanchoring : Anchoring.outbound p.departure.element.kind p.index p.total with
  | fixed own =>
    have hown := hsettled.getElem?_of_fixed hend hfree hanchoring
    rw [Option.some.inj (hhandle.symm.trans hown)]
    simp
  | allocated =>
    have hdraws : (p.sourceEnd (pins.find p.id)).draws p.source = true := by
      simp [EdgeEnd.draws, Plan.sourceEnd, hfree, hanchoring]
    have hroom : (d.sourceEnds pins).countP (·.node = p.source) ≤ sourceOrder.length := by
      rw [sourceEnds, Berths.sourceEnds, List.countP_map, length_sourceOrder]
      exact hfew
    obtain ⟨drawn, hdrawn, hfresh⟩ := hsettled.not_mem_keptAt nodup_sourceOrder hend hdraws hroom
    rw [← Option.some.inj (hhandle.symm.trans hdrawn)] at hfresh
    constructor
    · rintro rfl
      exact absurd hkept hfresh
    · intro hfixed
      cases hfixed

/-- Two edges of a node, of which the first has to keep its anchor there and the second has not. The
second gets the same one exactly if it is its fixed one. -/
theorem restored_given_iff (he : e ∈ (d.toGraph pins).edges)
    (hf : (d.toGraph pins).edges[j]? = some f) (hsource : f.source = e.source)
    (hfew : (d.toGraph pins).edges.countP (·.source = e.source) ≤ 20)
    (hpin : (pins.find e.id).source = some handle) (hfree : (pins.find f.id).source = none) :
    e.sourceHandle = handle ∧ ∃ p, d.plans[j]? = some p ∧ f.loose = p.loose ∧
      (f.sourceHandle = handle ↔
        Anchoring.outbound p.departure.element.kind p.index p.total = .fixed handle) ∧
      ((d.elements.map Element.id).Nodup → f.sourceHandle = handle →
        p.departure.element.kind = .fork ∧ handle = if p.index % 2 = 0 then "b-2" else "b-3") := by
  have hkeeps : e.sourceHandle = handle := by
    have hsame := congrArg Edge.sourceHandle (connect_find he)
    rw [hpin] at hsame
    exact hsame.symm
  obtain ⟨p, hp, hloose⟩ := exists_plan hf
  have hid : f.id = p.id := congrArg Edge.id hloose
  have hplan : p.source = e.source := (congrArg Edge.source hloose).symm.trans hsource
  have hkept := mem_keptAt_sourceEnds he hpin
  rw [edges_toGraph, countP_source_edges] at hfew
  rw [← hplan] at hkept hfew
  rw [hid] at hfree
  have hiff := sourceHandle_eq_iff hf hp hfree hfew hkept
  refine ⟨hkeeps, p, hp, hloose, hiff, fun hnodup hsame => ?_⟩
  refine fork_of_outbound ?_ (hiff.1 hsame)
  rw [total_eq hnodup (List.mem_of_getElem? hp), ← countP_source_edges pins, hplan]
  refine one_lt_countP he (List.mem_of_getElem? hf) ?_ (by simp) (by simp [hsource])
  rintro rfl
  rw [hid, hfree] at hpin
  cases hpin

end

/-- A fork with two ways to one scene. -/
def forked : Diagram where
  elements := [.fork ⟨"F", [wayToB "a", wayToB "b"]⟩, .scene ⟨"B", .normal, false, [], []⟩]

/-- The first way was moved to the anchor that the fork has for the second one. -/
def swapped : Arrangement := ⟨[], [⟨"e_F_B_a_0", some "b-3", none⟩]⟩

theorem edges_forked : ∃ e f, forked.edges swapped.pins = [e, f] ∧ f.source = e.source ∧
    (swapped.pins.find e.id).source = some "b-3" ∧ (swapped.pins.find f.id).source = none ∧
    f.sourceHandle = "b-3" := by
  have hends : (forked.edges swapped.pins).map (fun e => (e.id, e.source, e.sourceHandle)) =
      [("e_F_B_a_0", "F", "b-3"), ("e_F_B_b_0", "F", "b-3")] := by
    decide +kernel
  have hpins : (swapped.pins.find "e_F_B_a_0").source = some "b-3" ∧
      (swapped.pins.find "e_F_B_b_0").source = none := by
    decide +kernel
  obtain ⟨e, es, hsplit, he, hes⟩ := List.map_eq_cons_iff.1 hends
  obtain ⟨f, fs, rfl, hf, hfs⟩ := List.map_eq_cons_iff.1 hes
  obtain rfl := List.map_eq_nil_iff.1 hfs
  simp only [Prod.mk.injEq] at he hf
  refine ⟨e, f, hsplit, hf.2.1.trans he.2.1.symm, ?_, ?_, hf.2.2⟩
  · rw [he.1]
    exact hpins.1
  · rw [hf.1]
    exact hpins.2

/-- Both ways leave the fork at one anchor. -/
theorem restored_given_iff_forked : ∃ e f, (forked.toGraph swapped.pins).edges = [e, f] ∧
    e.sourceHandle = "b-3" ∧ f.sourceHandle = "b-3" ∧
    (swapped.pins.find f.id).source = none := by
  obtain ⟨e, f, hedges, hsource, hpin, hfree, hhandle⟩ := edges_forked
  have hfew : (forked.edges swapped.pins).countP (·.source = e.source) ≤ 20 := by
    refine Nat.le_trans List.countP_le_length ?_
    simp [hedges]
  obtain ⟨hkept, -⟩ := restored_given_iff (j := 1) (f := f) (by simp [hedges]) (by simp [hedges])
    hsource hfew hpin hfree
  exact ⟨e, f, hedges, hkept, hhandle, hfree⟩

/-- What an edge keeps may be the fixed anchor of another edge. -/
theorem not_restored_apart : ¬ ∀ (d : Diagram) (a : Arrangement) (e f : Edge) (handle : String),
    e ∈ (d.toGraph a.pins).edges → f ∈ (d.toGraph a.pins).edges → f.source = e.source →
    (d.toGraph a.pins).edges.countP (·.source = e.source) ≤ 20 →
    (a.pins.find e.id).source = some handle → (a.pins.find f.id).source = none →
    f.sourceHandle ≠ handle := by
  intro hapart
  obtain ⟨e, f, hedges, hsource, hpin, hfree, hhandle⟩ := edges_forked
  refine hapart forked swapped e f "b-3" (by simp [hedges]) (by simp [hedges]) hsource ?_ hpin
    hfree hhandle
  refine Nat.le_trans List.countP_le_length ?_
  simp [hedges]

end Diagram
end Interaction
