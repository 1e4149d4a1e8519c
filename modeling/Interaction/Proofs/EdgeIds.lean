import Mathlib.Data.List.Nodup
import Interaction.Proofs.Edges

/-!
# Edge ids are unique

An id is a base, an underscore and a number. Bases of different edges may be the same text, and a
base may itself end in an underscore and digits; but the number has no underscore, so the last one
of an id parts it (`numberedId_inj`). The draft counts the edges of each base, and `Numbered` says
that its count is above every number given: `Numbered.add` is the step, `numbered_draft` the run.
-/

namespace Interaction

theorem append_cons_inj_of_not_mem_right {α : Type} {a : α} {l l' r r' : List α} (hr : a ∉ r)
    (hr' : a ∉ r') (h : l ++ a :: r = l' ++ a :: r') : l = l' ∧ r = r' := by
  rcases List.append_eq_append_iff.1 h with ⟨m, rfl, hm⟩ | ⟨m, rfl, hm⟩
  · rcases List.cons_eq_append_iff.1 hm with ⟨rfl, heq⟩ | ⟨m, rfl, rfl⟩
    · exact ⟨by simp, (List.cons.inj heq).2.symm⟩
    · exact absurd (by simp) hr
  · rcases List.cons_eq_append_iff.1 hm with ⟨rfl, heq⟩ | ⟨m, rfl, rfl⟩
    · exact ⟨by simp, (List.cons.inj heq).2⟩
    · exact absurd (by simp) hr'

theorem toDigits_inj {n n' : Nat} (h : Nat.toDigits 10 n = Nat.toDigits 10 n') : n = n' := by
  rw [← Nat.ofDigitChars_ten_toDigits (n := n), h, Nat.ofDigitChars_ten_toDigits]

/-- An id tells its base and its number. -/
theorem numberedId_inj {base base' : String} {n n' : Nat}
    (h : numberedId base n = numberedId base' n') : base = base' ∧ n = n' := by
  have hchars : base.toList ++ '_' :: Nat.toDigits 10 n =
      base'.toList ++ '_' :: Nat.toDigits 10 n' := by
    simpa [numberedId] using congrArg String.toList h
  obtain ⟨hbase, hdigits⟩ := append_cons_inj_of_not_mem_right Nat.underscore_not_in_toDigits
    Nat.underscore_not_in_toDigits hchars
  exact ⟨String.toList_inj.1 hbase, toDigits_inj hdigits⟩

theorem find?_of_nodup_map {α : Type} {k : α → String} {as : List α} (h : (as.map k).Nodup) {a : α}
    (ha : a ∈ as) : as.find? (k · = k a) = some a := by
  induction as with
  | nil => cases ha
  | cons b as ih =>
    obtain ⟨hb, has⟩ := List.nodup_cons.1 h
    rcases List.mem_cons.1 ha with rfl | ha
    · simp
    · have hne : k b ≠ k a := fun heq => hb (heq ▸ List.mem_map_of_mem ha)
      rw [List.find?_cons_of_neg (by simpa using hne), ih has ha]

/-- The ids of `ps` are different, and each has a number below the count of its base. -/
structure Numbered (ps : List Plan) (count : String → Nat) : Prop where
  nodup : (ps.map Plan.id).Nodup
  below : ∀ p ∈ ps, ∃ n < count p.departure.base, p.id = numberedId p.departure.base n

namespace Numbered
variable {ps : List Plan} {count : String → Nat}

theorem not_mem (h : Numbered ps count) (base : String) :
    numberedId base (count base) ∉ ps.map Plan.id := by
  intro hmem
  obtain ⟨p, hp, hid⟩ := List.mem_map.1 hmem
  obtain ⟨n, hn, hpn⟩ := h.below p hp
  obtain ⟨hbase, hcount⟩ := numberedId_inj (hpn.symm.trans hid)
  rw [hbase, hcount] at hn
  exact Nat.lt_irrefl _ hn

/-- One more edge of a base. -/
theorem concat (h : Numbered ps count) {p : Plan} {base : String} (hbase : p.departure.base = base)
    (hid : p.id = numberedId base (count base)) :
    Numbered (ps ++ [p]) fun b => if b = base then count base + 1 else count b := by
  refine ⟨?_, fun q hq => ?_⟩
  · rw [List.map_append, List.map_singleton, ← List.concat_eq_append, List.nodup_concat, hid]
    exact ⟨h.not_mem base, h.nodup⟩
  · rcases List.mem_append.1 hq with hq | hq
    · obtain ⟨n, hn, hqn⟩ := h.below q hq
      refine ⟨n, ?_, hqn⟩
      split
      · rename_i heq
        rw [heq] at hn
        exact Nat.lt_succ_of_lt hn
      · exact hn
    · rw [List.mem_singleton] at hq
      subst hq
      exact ⟨count base, by simp [hbase], by rw [hid, hbase]⟩

end Numbered

namespace Draft
variable (kindOf? : String → Option NodeKind) {old : List Plan} {s : Draft}

theorem numbered_add (p : Departure) (kind : EdgeKind) (targetKind : Option NodeKind)
    (h : Numbered (old ++ s.plans.toList) s.count) :
    Numbered (old ++ (s.add p kind targetKind).plans.toList) (s.add p kind targetKind).count := by
  simp only [add, Array.toList_push, ← List.append_assoc]
  exact h.concat rfl rfl

theorem numbered_depart (p : Departure) (h : Numbered (old ++ s.plans.toList) s.count) :
    Numbered (old ++ (s.depart kindOf? p).plans.toList) (s.depart kindOf? p).count := by
  unfold depart
  dsimp only
  split
  · exact h
  · split
    · exact numbered_add p _ _ (s := s.report _) h
    · exact numbered_add p _ _ h

theorem numbered_item (e : Element) (i : Item) (h : Numbered (old ++ s.plans.toList) s.count) :
    Numbered (old ++ (s.item kindOf? e i).plans.toList) (s.item kindOf? e i).count := by
  unfold item
  split
  · exact numbered_depart kindOf? _ h
  · exact h

theorem numbered_foldl_item (e : Element) (is : List Item)
    (h : Numbered (old ++ s.plans.toList) s.count) :
    Numbered (old ++ (is.foldl (item kindOf? e) s).plans.toList)
      (is.foldl (item kindOf? e) s).count := by
  induction is generalizing s with
  | nil => exact h
  | cons i is ih => exact ih (numbered_item kindOf? e i h)

/-- An element's own plans are numbered behind those of the elements before it. -/
theorem numbered_element (e : Element) (h : Numbered s.plans.toList s.count) :
    Numbered (s.element kindOf? e).plans.toList (s.element kindOf? e).count := by
  have hempty :
      Numbered (s.plans.toList ++ ({ s with plans := #[] } : Draft).plans.toList) s.count := by
    simpa using h
  have hown := numbered_foldl_item kindOf? e e.outgoing hempty
  refine ⟨?_, fun p hp => ?_⟩
  · simpa [element, Function.comp_def] using hown.nodup
  · simp only [element, Array.toList_append, Array.toList_map, List.mem_append, List.mem_map] at hp
    rcases hp with hp | ⟨q, hq, rfl⟩
    · exact hown.below p (List.mem_append_left _ hp)
    · exact hown.below q (List.mem_append_right _ hq)

theorem numbered_foldl_element (es : List Element) (h : Numbered s.plans.toList s.count) :
    Numbered (es.foldl (element kindOf?) s).plans.toList (es.foldl (element kindOf?) s).count := by
  induction es generalizing s with
  | nil => exact h
  | cons e es ih => exact ih (numbered_element kindOf? e h)

end Draft

namespace Diagram
variable (d : Diagram)

theorem numbered_draft : Numbered d.plans d.draft.count :=
  Draft.numbered_foldl_element _ d.elements ⟨List.nodup_nil, by simp⟩

theorem nodup_map_id_edges (pins : Pins) : ((d.edges pins).map Edge.id).Nodup := by
  rw [map_id_edges]
  exact d.numbered_draft.nodup

/-- No two edges of a graph have the same id, whatever the ids and words of the diagram are, so each
is found under its own. -/
theorem edge_ids_unique (pins : Pins) :
    ((d.toGraph pins).edges.map Edge.id).Nodup ∧
      (d.toGraph pins).edges.map (fun e => (d.toGraph pins).edge? e.id) =
        (d.toGraph pins).edges.map some := by
  have hnodup := d.nodup_map_id_edges pins
  exact ⟨hnodup, List.map_congr_left fun e he => find?_of_nodup_map hnodup he⟩

end Diagram
end Interaction
