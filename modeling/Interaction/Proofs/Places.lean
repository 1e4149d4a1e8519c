import Mathlib.Data.List.Induction
import Mathlib.Data.List.TakeWhile
import Interaction.Source.SyntaxError

/-!
# Places are consistent

A place is the front part of a text in three numbers. `Place.At` says which numbers, with the front
part cut behind its last line feed, and `At.eq_after` that they are those of `Place.after`. Going on
by any text moves a place behind in the order of lines and columns (`before_after_append`), so this
order is that of positions, and line and column tell the position (`At.position_eq`).
-/

namespace Interaction
namespace Place
variable {cs l m : List Char} {p q : Place}

theorem eq_of_numbers (hline : p.line = q.line) (hcolumn : p.column = q.column)
    (hposition : p.position = q.position) : p = q := by
  cases p
  cases q
  simp_all

/-- The numbers of a place in `cs`: the front part has so many characters and one line feed less
than lines, and `m` is what stands behind the last of those. -/
structure At (cs : List Char) (p : Place) : Prop where
  position_le : p.position ≤ cs.length
  line_eq : p.line = (cs.take p.position).count '\n' + 1
  column_eq : ∃ l m, cs.take p.position = l ++ m ∧ (l = [] ∨ l.getLast? = some '\n') ∧
    '\n' ∉ m ∧ p.column = m.length + 1

/-- One place is in an earlier line than the other, or in the same line further left. -/
def Before (p q : Place) : Prop := p.line < q.line ∨ p.line = q.line ∧ p.column < q.column

theorem column_after (hl : l = [] ∨ l.getLast? = some '\n') (hm : '\n' ∉ m) :
    (after (l ++ m)).column = m.length + 1 := by
  have hmine : ∀ c ∈ m.reverse, decide (c ≠ '\n') = true := by
    intro c hc
    rw [decide_eq_true_eq]
    rintro rfl
    exact hm (List.mem_reverse.1 hc)
  have hnone : l.reverse.takeWhile (· ≠ '\n') = [] := by
    rcases hl with rfl | hl
    · rfl
    · rw [← List.head?_reverse] at hl
      cases hrev : l.reverse with
      | nil => rfl
      | cons c cs =>
        rw [hrev] at hl
        cases hl
        rfl
  simp only [after, List.reverse_append, List.takeWhile_append_of_pos hmine, hnone]
  simp

theorem exists_lines (cs : List Char) :
    ∃ l m, cs = l ++ m ∧ (l = [] ∨ l.getLast? = some '\n') ∧ '\n' ∉ m := by
  induction cs using List.reverseRecOn with
  | nil => exact ⟨[], [], rfl, .inl rfl, by simp⟩
  | append_singleton cs c ih =>
    by_cases hc : c = '\n'
    · subst hc
      exact ⟨cs ++ ['\n'], [], by simp, .inr (by simp), by simp⟩
    · obtain ⟨l, m, rfl, hl, hm⟩ := ih
      exact ⟨l, m ++ [c], by simp, hl, by simp [hm, Ne.symm hc]⟩

theorem at_after (l r : List Char) : (after l).At (l ++ r) := by
  have htake : (l ++ r).take (after l).position = l := List.take_left
  obtain ⟨before, line, rfl, hbefore, hline⟩ := exists_lines l
  refine ⟨by simp [after], by rw [htake]; rfl, before, line, htake, hbefore, hline, ?_⟩
  exact column_after hbefore hline

theorem At.eq_after (h : p.At cs) : p = after (cs.take p.position) := by
  obtain ⟨l, m, hsplit, hl, hm, hcolumn⟩ := h.column_eq
  have hline : p.line = (after (cs.take p.position)).line := h.line_eq
  have hposition : p.position = (after (cs.take p.position)).position := by
    simp [after, h.position_le]
  have hcolumn' : p.column = (after (cs.take p.position)).column := by
    rw [hcolumn, hsplit, column_after hl hm]
  exact eq_of_numbers hline hcolumn' hposition

/-- Further text leads further. -/
theorem before_after_append (l : List Char) (hm : m ≠ []) : (after l).Before (after (l ++ m)) := by
  by_cases hfeed : '\n' ∈ m
  · have hpos : 0 < m.count '\n' := List.count_pos_iff.2 hfeed
    refine .inl ?_
    simp only [after, List.count_append]
    omega
  · obtain ⟨before, line, rfl, hbefore, hline⟩ := exists_lines l
    have hlen : 0 < m.length := List.length_pos_iff.2 hm
    refine .inr ⟨?_, ?_⟩
    · simp [after, List.count_append, List.count_eq_zero.2 hfeed]
    · have hboth : '\n' ∉ line ++ m := by simp [hline, hfeed]
      rw [column_after hbefore hline, List.append_assoc, column_after hbefore hboth,
        List.length_append]
      omega

theorem At.before_of_lt (hp : p.At cs) (hq : q.At cs) (h : p.position < q.position) :
    p.Before q := by
  have hsplit : cs.take q.position =
      cs.take p.position ++ (cs.drop p.position).take (q.position - p.position) := by
    rw [← List.take_add, Nat.add_sub_cancel' (Nat.le_of_lt h)]
  rw [hp.eq_after, hq.eq_after, hsplit]
  refine before_after_append _ ?_
  rw [← List.length_pos_iff, List.length_take, List.length_drop]
  have := hq.position_le
  omega

/-- Line and column tell the position. -/
theorem At.position_eq (hp : p.At cs) (hq : q.At cs) (hline : p.line = q.line)
    (hcolumn : p.column = q.column) : p.position = q.position := by
  rcases Nat.lt_trichotomy p.position q.position with h | h | h
  · rcases hp.before_of_lt hq h with hlt | ⟨-, hlt⟩ <;> omega
  · exact h
  · rcases hq.before_of_lt hp h with hlt | ⟨-, hlt⟩ <;> omega

end Place

/-! ### Byte offsets -/

/-- A character of `source` ends or starts at the byte `offset`. -/
def IsBoundary (source : String) (offset : Nat) : Prop :=
  ∃ before behind : String, source = before ++ behind ∧ before.utf8ByteSize = offset

theorem utf8Length_toList (s : String) : utf8Length s.toList = s.utf8ByteSize := by
  rw [utf8Length_eq, String.ofList_toList]

/-- Of two front parts of a text the one with more bytes has more characters. -/
theorem length_lt_of_utf8Length_lt {cs l l' : List Char} (hl : l <+: cs) (hl' : l' <+: cs)
    (h : utf8Length l < utf8Length l') : l.length < l'.length := by
  by_contra hle
  obtain ⟨m, rfl⟩ := List.prefix_of_prefix_length_le hl' hl (Nat.le_of_not_lt hle)
  rw [utf8Length_append] at h
  omega

theorem bytePrefix?_append (before behind : String) :
    bytePrefix? before.utf8ByteSize (before ++ behind).toList = some before.toList := by
  rw [bytePrefix?_eq_some, String.toList_append, utf8Length_toList]
  exact ⟨List.prefix_append _ _, rfl⟩

theorem bytePrefix?_of_not_boundary {source : String} {offset : Nat}
    (h : ¬ IsBoundary source offset) : bytePrefix? offset source.toList = none := by
  cases hcut : bytePrefix? offset source.toList with
  | none => rfl
  | some l =>
    obtain ⟨⟨r, hr⟩, hbytes⟩ := bytePrefix?_eq_some.1 hcut
    refine absurd ⟨.ofList l, .ofList r, ?_, ?_⟩ h
    · rw [← String.ofList_append, hr, String.ofList_toList]
    · rw [← utf8Length_eq, hbytes]

namespace SyntaxError
variable {source before behind : String} {offset : Nat}

theorem place_atByte (h : source = before ++ behind) (fault : Fault) :
    (atByte source before.utf8ByteSize fault).place = .after before.toList := by
  rw [atByte, h, bytePrefix?_append]
  rfl

theorem place_atByte_of_not_boundary (h : ¬ IsBoundary source offset) (fault : Fault) :
    (atByte source offset fault).place = .after source.toList := by
  rw [atByte, bytePrefix?_of_not_boundary h]
  rfl

theorem at_atByte (source : String) (offset : Nat) (fault : Fault) :
    (atByte source offset fault).place.At source.toList := by
  by_cases h : IsBoundary source offset
  · obtain ⟨before, behind, hsplit, rfl⟩ := h
    rw [place_atByte hsplit, hsplit, String.toList_append]
    exact Place.at_after _ _
  · rw [place_atByte_of_not_boundary h]
    simpa using Place.at_after source.toList []

/-- A later offset is a later place. -/
theorem before_atByte {later : Nat} (h : IsBoundary source offset)
    (hlater : IsBoundary source later) (hlt : offset < later) (fault fault' : Fault) :
    (atByte source offset fault).place.Before (atByte source later fault').place := by
  refine (at_atByte source offset fault).before_of_lt (at_atByte source later fault') ?_
  obtain ⟨l, r, hsplit, rfl⟩ := h
  obtain ⟨l', r', hsplit', rfl⟩ := hlater
  rw [place_atByte hsplit, place_atByte hsplit']
  rw [← utf8Length_toList, ← utf8Length_toList] at hlt
  have hl : l.toList <+: source.toList := ⟨r.toList, by rw [hsplit, String.toList_append]⟩
  have hl' : l'.toList <+: source.toList := ⟨r'.toList, by rw [hsplit', String.toList_append]⟩
  exact length_lt_of_utf8Length_lt hl hl' hlt

theorem eq_atByte (h : source = before ++ behind) {e : SyntaxError}
    (hplace : e.place = .after before.toList) :
    e = atByte source before.utf8ByteSize e.fault := by
  rw [← place_atByte h e.fault] at hplace
  calc e = ⟨e.fault, e.place⟩ := rfl
    _ = ⟨e.fault, (atByte source before.utf8ByteSize e.fault).place⟩ := by rw [hplace]
    _ = atByte source before.utf8ByteSize e.fault := rfl

end SyntaxError
end Interaction
