import Interaction.Source.Element
import Interaction.Proofs.Repetition

/-!
# What the rules for words read

For each word of the language the texts that its rule reads are given exactly, with what the rule
makes of them: fixed words (`keyword_eq_read`), names (`name_eq_read`) and texts in quotes
(`text_eq_read`).
-/

namespace Interaction.Source
open Rule

/-- A text is parted behind the characters that `p` holds for. -/
theorem span_append {p : Char → Bool} {cs r : List Char} (hcs : ∀ c ∈ cs, p c = true)
    (hr : ∀ c ∈ r.head?, p c = false) :
    (cs ++ r).takeWhile p = cs ∧ (cs ++ r).dropWhile p = r := by
  rw [List.takeWhile_append_of_pos hcs, List.dropWhile_append_of_pos hcs]
  cases r with
  | nil => simp
  | cons c r =>
    have hc : p c = false := hr c (by simp)
    simp [hc]

theorem of_mem_takeWhile {p : Char → Bool} {cs : List Char} :
    ∀ c ∈ cs.takeWhile p, p c = true :=
  List.all_eq_true.1 List.all_takeWhile

theorem head?_dropWhile {p : Char → Bool} {cs : List Char} :
    ∀ c ∈ (cs.dropWhile p).head?, p c = false := by
  intro c hc
  have := List.head?_dropWhile_not p cs
  rw [Option.mem_def.1 hc] at this
  exact this

/-- No name goes on into the text `s`. -/
def EndsWord (s : List Char) : Prop := ∀ c ∈ s.head?, isNameChar c = false

/-- A letter, and name characters behind it. -/
def IsName (t : String) : Prop :=
  ∃ c cs, t.toList = c :: cs ∧ isLetter c = true ∧ ∀ d ∈ cs, isNameChar d = true

theorem isName_iff {t : String} : IsName t ↔
    t.toList.head?.any isLetter = true ∧ t.toList.tail.all isNameChar = true := by
  rw [IsName, List.all_eq_true]
  cases t.toList with
  | nil => simp
  | cons c cs =>
    constructor
    · rintro ⟨_, _, ⟨⟩, hc, hcs⟩
      exact ⟨hc, hcs⟩
    · rintro ⟨hc, hcs⟩
      exact ⟨c, cs, rfl, hc, hcs⟩

instance (t : String) : Decidable (IsName t) := decidable_of_iff _ isName_iff.symm

variable {s r : List Char}

@[simp] theorem endsWord_nil : EndsWord [] := by simp [EndsWord]

@[simp] theorem endsWord_cons {c : Char} : EndsWord (c :: s) ↔ isNameChar c = false := by
  simp [EndsWord]

theorem wordEnd_eq_read {u : Unit} : wordEnd s = .read u r ↔ r = s ∧ EndsWord s := by
  cases s with
  | nil => simp only [wordEnd, Outcome.read.injEq, true_and, endsWord_nil, and_true, eq_comm]
  | cons c s =>
    rw [wordEnd, endsWord_cons]
    split
    · simp_all
    · rename_i hc
      rw [Bool.not_eq_true] at hc
      simp only [hc, Outcome.read.injEq, true_and, and_true]
      exact eq_comm

theorem wordEnd_eq_refused : wordEnd s = .refused ↔ ¬ EndsWord s := by
  cases s with
  | nil => simp [wordEnd]
  | cons c s =>
    rw [wordEnd]
    split <;> simp_all

/-- Nothing is read, but the text does not start with the character. -/
theorem notNext_eq_read {c : Char} {u : Unit} :
    notNext c s = .read u r ↔ r = s ∧ s.head? ≠ some c := by
  cases s with
  | nil => simp [notNext, eq_comm]
  | cons d s =>
    rw [notNext]
    split <;> simp_all [eq_comm]

theorem notNext_eq_refused {c : Char} : notNext c s = .refused ↔ s.head? = some c := by
  cases s with
  | nil => simp [notNext]
  | cons d s =>
    rw [notNext]
    split <;> simp_all

theorem keyword_eq_read {w : String} {u : Unit} :
    keyword w s = .read u r ↔ s = w.toList ++ r ∧ EndsWord r := by
  rw [keyword, bind_eq_read]
  constructor
  · rintro ⟨_, r', hmark, hend⟩
    obtain ⟨rfl, hr⟩ := wordEnd_eq_read.1 hend
    exact ⟨mark_eq_read.1 hmark, hr⟩
  · rintro ⟨rfl, hr⟩
    exact ⟨(), r, mark_eq_read.2 rfl, wordEnd_eq_read.2 ⟨rfl, hr⟩⟩

theorem isNameChar_of_isLetter {c : Char} (h : isLetter c = true) : isNameChar c = true := by
  simp [isNameChar, isAlphanumeric_of_isLetter h]

theorem IsName.isNameChar {t : String} (h : IsName t) : ∀ c ∈ t.toList, isNameChar c = true := by
  obtain ⟨c, cs, heq, hc, hcs⟩ := h
  rw [heq]
  intro d hd
  rcases List.mem_cons.1 hd with rfl | hd
  · exact isNameChar_of_isLetter hc
  · exact hcs d hd

/-- A name is read as far as it goes. -/
theorem name_eq_read {t : String} :
    name s = .read t r ↔ s = t.toList ++ r ∧ IsName t ∧ EndsWord r := by
  constructor
  · intro h
    cases s with
    | nil => cases h
    | cons c s =>
      rw [name] at h
      split at h
      · rename_i hc
        simp only [Outcome.read.injEq] at h
        obtain ⟨rfl, rfl⟩ := h
        exact ⟨by simp, ⟨c, _, String.toList_ofList, hc, of_mem_takeWhile⟩, head?_dropWhile⟩
      · cases h
  · rintro ⟨rfl, ⟨c, cs, heq, hc, hcs⟩, hr⟩
    obtain ⟨htake, hdrop⟩ := span_append hcs hr
    rw [heq, List.cons_append, name, if_pos hc, htake, hdrop, ← heq, String.ofList_toList]

theorem name_eq_refused : name s = .refused ↔ ∀ c ∈ s.head?, isLetter c = false := by
  cases s with
  | nil => simp [name]
  | cons c s =>
    rw [name]
    split <;> simp_all

/-- The two quotes in which a text may stand. -/
def IsQuote (q : Char) : Prop := q = '"' ∨ q = '\''

theorem textUntil_eq_read {q : Char} {t : String} :
    textUntil q s = .read t r ↔ s = t.toList ++ q :: r ∧ q ∉ t.toList := by
  constructor
  · intro h
    rw [textUntil] at h
    split at h
    · cases h
    · rename_i c r' hdrop
      simp only [Outcome.read.injEq] at h
      obtain ⟨rfl, rfl⟩ := h
      have hc : (c != q) = false := head?_dropWhile c (by rw [hdrop]; rfl)
      rw [bne_eq_false_iff_eq] at hc
      subst hc
      rw [String.toList_ofList, ← hdrop, List.takeWhile_append_dropWhile]
      refine ⟨rfl, fun hmem => ?_⟩
      simpa using of_mem_takeWhile c hmem
  · rintro ⟨rfl, hq⟩
    have htext : ∀ c ∈ t.toList, (c != q) = true :=
      fun c hc => bne_iff_ne.2 fun heq => hq (heq ▸ hc)
    obtain ⟨htake, hdrop⟩ := span_append (r := q :: r) htext (by simp)
    rw [textUntil, htake, hdrop, String.ofList_toList]

/-- A text goes up to the next quote of its own kind. -/
theorem text_eq_read {t : String} :
    text s = .read t r ↔ ∃ q, IsQuote q ∧ q ∉ t.toList ∧ s = q :: (t.toList ++ q :: r) := by
  constructor
  · intro h
    unfold text at h
    split at h
    · obtain ⟨rfl, hq⟩ := textUntil_eq_read.1 h
      exact ⟨_, .inl rfl, hq, rfl⟩
    · obtain ⟨rfl, hq⟩ := textUntil_eq_read.1 h
      exact ⟨_, .inr rfl, hq, rfl⟩
    · cases h
  · rintro ⟨q, rfl | rfl, hq, rfl⟩
    · exact textUntil_eq_read.2 ⟨rfl, hq⟩
    · exact textUntil_eq_read.2 ⟨rfl, hq⟩

theorem expectMark_eq_read {c : Char} {u : Unit} : expectMark c s = .read u r ↔ s = c :: r := by
  cases s with
  | nil => simp [expectMark]
  | cons d s =>
    rw [expectMark]
    split <;> simp_all

end Interaction.Source
