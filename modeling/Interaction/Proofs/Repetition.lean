import Interaction.Source.Rule

/-!
# Rules make progress

What a rule leaves is an end of the text that it was given (`Trims`), and of a rule that is repeated
it is a shorter one (`Consumes`). So the clock of a repetition never runs out: it goes on until its
rule refuses (`many_of_read`, `refused_of_many`).
-/

namespace Interaction
namespace Rule
variable {α β : Type}

/-- What is left is an end of the text. -/
def Trims (p : Rule α) : Prop := ∀ ⦃s a r⦄, p s = .read a r → r <:+ s

/-- What is left is an end of the text, and shorter. -/
def Consumes (p : Rule α) : Prop := ∀ ⦃s a r⦄, p s = .read a r → r <:+ s ∧ r.length < s.length

section
variable {p q : Rule α} {f : α → Rule β} {s r : List Char} {a : α} {b : β}

/-! ### A compound rule whose first part is known -/

theorem bind_of_read (h : p s = .read a r) : (p >>= f) s = f a r := by
  rw [bind_apply, h]
  rfl

theorem bind_of_refused (h : p s = .refused) : (p >>= f) s = .refused := by
  rw [bind_apply, h]
  rfl

theorem bind_of_failed {e : Fault} (h : p s = .failed e r) : (p >>= f) s = .failed e r := by
  rw [bind_apply, h]
  rfl

theorem orElse_of_read (h : p s = .read a r) : (p <|> q) s = .read a r := by
  rw [orElse_apply, h]
  rfl

theorem orElse_of_refused (h : p s = .refused) : (p <|> q) s = q s := by
  rw [orElse_apply, h]
  rfl

theorem orElse_of_failed {e : Fault} (h : p s = .failed e r) : (p <|> q) s = .failed e r := by
  rw [orElse_apply, h]
  rfl

/-! ### What a compound rule has read -/

theorem bind_eq_read : (p >>= f) s = .read b r ↔ ∃ a r', p s = .read a r' ∧ f a r' = .read b r :=
  Outcome.bind_eq_read

theorem map_eq_read {g : α → β} : (g <$> p) s = .read b r ↔ ∃ a, p s = .read a r ∧ g a = b := by
  rw [map_apply, Outcome.bind_eq_read]
  constructor
  · rintro ⟨a, r', ha, ⟨⟩⟩
    exact ⟨a, ha, rfl⟩
  · rintro ⟨a, ha, rfl⟩
    exact ⟨a, r, ha, rfl⟩

theorem orElse_eq_read :
    (p <|> q) s = .read a r ↔ p s = .read a r ∨ p s = .refused ∧ q s = .read a r := by
  rw [orElse_apply, Outcome.orElse_eq_read]

theorem orElse_eq_refused : (p <|> q) s = .refused ↔ p s = .refused ∧ q s = .refused := by
  rw [orElse_apply]
  cases p s <;> simp

theorem bind_eq_refused :
    (p >>= f) s = .refused ↔ p s = .refused ∨ ∃ a r, p s = .read a r ∧ f a r = .refused := by
  rw [bind_apply]
  cases hp : p s with
  | read a r =>
    refine ⟨fun h => .inr ⟨a, r, rfl, h⟩, ?_⟩
    rintro (h | ⟨a', r', ⟨⟩, h⟩)
    · cases h
    · exact h
  | refused => simp [Outcome.bind]
  | failed e r => simp [Outcome.bind]

theorem bind_eq_failed {e : Fault} : (p >>= f) s = .failed e r ↔
    p s = .failed e r ∨ ∃ a r', p s = .read a r' ∧ f a r' = .failed e r :=
  Outcome.bind_eq_failed

theorem orElse_eq_failed {e : Fault} :
    (p <|> q) s = .failed e r ↔ p s = .failed e r ∨ p s = .refused ∧ q s = .failed e r := by
  rw [orElse_apply, Outcome.orElse_eq_failed]

theorem map_eq_refused {g : α → β} : (g <$> p) s = .refused ↔ p s = .refused := by
  rw [map_apply]
  cases p s <;> simp

theorem orFail_eq_read {e : Fault} : p.orFail e s = .read a r ↔ p s = .read a r := by
  rw [orFail_apply]
  cases p s <;> simp

theorem optional_eq_read {o : Option α} :
    p.optional s = .read o r ↔
      (∃ a, p s = .read a r ∧ o = some a) ∨ p s = .refused ∧ o = none ∧ r = s := by
  rw [optional_apply]
  cases p s with
  | read a r' =>
    constructor
    · rintro ⟨⟩
      exact .inl ⟨a, rfl, rfl⟩
    · rintro (⟨a', ⟨⟩, rfl⟩ | ⟨⟨⟩, -, -⟩)
      rfl
  | refused => simp [eq_comm]
  | failed e r' => simp

/-! ### How much a compound rule reads -/

theorem Consumes.trims (hp : Consumes p) : Trims p := fun _ _ _ h => (hp h).1

theorem trims_pure (a : α) : Trims (pure a : Rule α) := by
  rintro s b r ⟨⟩
  exact List.suffix_rfl

theorem consumes_fail (e : Fault) : Consumes (fail e : Rule α) := by
  rintro s a r ⟨⟩

theorem Trims.bind (hp : Trims p) (hf : ∀ a, Trims (f a)) : Trims (p >>= f) := by
  intro s b r h
  obtain ⟨a, r', ha, hb⟩ := bind_eq_read.1 h
  exact (hf a hb).trans (hp ha)

theorem Consumes.bind (hp : Consumes p) (hf : ∀ a, Trims (f a)) : Consumes (p >>= f) := by
  intro s b r h
  obtain ⟨a, r', ha, hb⟩ := bind_eq_read.1 h
  have hr := hf a hb
  exact ⟨hr.trans (hp ha).1, Nat.lt_of_le_of_lt hr.length_le (hp ha).2⟩

theorem Trims.bind_consumes (hp : Trims p) (hf : ∀ a, Consumes (f a)) : Consumes (p >>= f) := by
  intro s b r h
  obtain ⟨a, r', ha, hb⟩ := bind_eq_read.1 h
  have hr' := hp ha
  exact ⟨(hf a hb).1.trans hr', Nat.lt_of_lt_of_le (hf a hb).2 hr'.length_le⟩

theorem Consumes.map (hp : Consumes p) (g : α → β) : Consumes (g <$> p) := by
  intro s b r h
  obtain ⟨a, ha, -⟩ := map_eq_read.1 h
  exact hp ha

/-- Another value for what is read. -/
theorem Consumes.value (hp : Consumes p) (b : β) : Consumes (do let _ ← p; pure b : Rule β) :=
  hp.bind fun _ => trims_pure b

theorem Trims.orElse (hp : Trims p) (hq : Trims q) : Trims (p <|> q) := by
  intro s a r h
  rcases orElse_eq_read.1 h with h | ⟨-, h⟩
  · exact hp h
  · exact hq h

theorem Consumes.orElse (hp : Consumes p) (hq : Consumes q) : Consumes (p <|> q) := by
  intro s a r h
  rcases orElse_eq_read.1 h with h | ⟨-, h⟩
  · exact hp h
  · exact hq h

theorem Consumes.orFail (hp : Consumes p) (e : Fault) : Consumes (p.orFail e) :=
  hp.orElse (consumes_fail e)

theorem Trims.optional (hp : Trims p) : Trims p.optional := by
  intro s o r h
  rcases optional_eq_read.1 h with ⟨a, ha, -⟩ | ⟨-, -, rfl⟩
  · exact hp ha
  · exact List.suffix_rfl

theorem Trims.ite {c : Prop} [Decidable c] (hp : Trims p) (hq : Trims q) :
    Trims (if c then p else q) := by
  split
  · exact hp
  · exact hq

theorem Trims.many (hp : Trims p) : Trims (many p) := by
  suffices h : ∀ clock, Trims (manyWithin p clock) from fun s _ _ hs => h s hs
  intro clock s as r h
  fun_induction manyWithin p clock s generalizing as with
  | case1 s a r' hread =>
    cases h
    exact hp hread
  | case2 s a r' hread _ clock ih =>
    obtain ⟨bs, r'', hrest, heq⟩ := Outcome.bind_eq_read.1 h
    cases heq
    exact (ih hrest).trans (hp hread)
  | case3 => cases h; exact List.suffix_rfl
  | case4 => cases h

/-! ### Repetition -/

theorem manyWithin_of_read {clock : List Char} {c : Char} (h : p s = .read a r) :
    manyWithin p (c :: clock) s =
      (manyWithin p clock r).bind fun as r => .read (a :: as) r := by
  rw [manyWithin, h]

theorem manyWithin_congr (hp : Consumes p) {clock clock' : List Char}
    (h : s.length ≤ clock.length) (h' : s.length ≤ clock'.length) :
    manyWithin p clock s = manyWithin p clock' s := by
  induction clock generalizing clock' s with
  | nil =>
    obtain rfl : s = [] := by simpa using h
    cases hs : p [] with
    | read a r => exact absurd (hp hs).2 (by simp)
    | refused => rw [manyWithin_of_refused hs, manyWithin_of_refused hs]
    | failed e r => rw [manyWithin_of_failed hs, manyWithin_of_failed hs]
  | cons c clock ih =>
    cases hs : p s with
    | read a r =>
      have hr := (hp hs).2
      cases clock' with
      | nil => simp only [List.length_nil] at h'; omega
      | cons c' clock' =>
        simp only [List.length_cons] at h h'
        have hrest : manyWithin p clock r = manyWithin p clock' r := ih (by omega) (by omega)
        rw [manyWithin_of_read hs, manyWithin_of_read hs, hrest]
    | refused => rw [manyWithin_of_refused hs, manyWithin_of_refused hs]
    | failed e r => rw [manyWithin_of_failed hs, manyWithin_of_failed hs]

theorem many_of_read (hp : Consumes p) (h : p s = .read a r) :
    many p s = (many p r).bind fun as r => .read (a :: as) r := by
  have hr := (hp h).2
  cases s with
  | nil => simp at hr
  | cons c s =>
    simp only [List.length_cons] at hr
    have hclock : manyWithin p s r = manyWithin p r r :=
      manyWithin_congr hp (by omega) (Nat.le_refl _)
    rw [many, manyWithin_of_read h, hclock]
    rfl

theorem many_of_refused (h : p s = .refused) : many p s = .read [] s := manyWithin_of_refused h s

theorem many_of_failed {e : Fault} (h : p s = .failed e r) : many p s = .failed e r :=
  manyWithin_of_failed h s

/-- A repetition stops where its rule refuses, and not before. -/
theorem refused_of_many (hp : Consumes p) {s r : List Char} {as : List α}
    (h : many p s = .read as r) : p r = .refused := by
  cases hs : p s with
  | read a r' =>
    have hr := (hp hs).2
    rw [many_of_read hp hs] at h
    obtain ⟨bs, r'', hrest, heq⟩ := Outcome.bind_eq_read.1 h
    cases heq
    exact refused_of_many hp hrest
  | refused =>
    rw [many_of_refused hs] at h
    cases h
    exact hs
  | failed e r' => rw [many_of_failed hs] at h; cases h
termination_by s.length

end

theorem mark_of_ne {m : String} {c d : Char} {cs : List Char} (hm : m.toList = d :: cs)
    (h : d ≠ c) (s : List Char) : mark m (c :: s) = .refused := by
  rw [mark, hm, behind?, if_neg h]

theorem mark_eq_refused {w : String} {s : List Char} :
    mark w s = .refused ↔ ¬ w.toList <+: s := by
  constructor
  · rintro h ⟨r, rfl⟩
    rw [mark_eq_read.2 rfl] at h
    cases h
  · intro h
    rw [mark]
    cases hs : behind? w.toList s with
    | none => rfl
    | some r => exact absurd ⟨r, (behind?_eq_some.1 hs).symm⟩ h

theorem trims_mark (w : String) : Trims (mark w) := by
  intro s _ r h
  exact ⟨w.toList, (mark_eq_read.1 h).symm⟩

theorem consumes_mark {w : String} (hw : w ≠ "") : Consumes (mark w) := by
  intro s _ r h
  obtain rfl := mark_eq_read.1 h
  have : w.toList.length ≠ 0 := by simpa using hw
  exact ⟨⟨w.toList, rfl⟩, by rw [List.length_append]; omega⟩

end Rule
end Interaction
