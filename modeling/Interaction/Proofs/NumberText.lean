import Mathlib.Data.List.TakeWhile
import Interaction.Proofs.Integers
import Interaction.Proofs.JsonText

/-!
# Numbers that are read back

`ReadsBack` says of a number that its text is read as the number again. A number is read up to the
first character that cannot stand in it, so what is behind the text of such a number does not matter
(`ReadsBack.reads`). Reading rounds the digits without the point first and the quotient once more,
which is exact for integers while the digits fit into 53 bits (`readsBack_integer`).
-/

namespace Interaction.Json
open Binary64 (integer shift)

/-- The text of the number is read to its end, as the number itself. -/
def ReadsBack (x : Binary64) : Prop := readNumber (x.text pointRange) = .ok (x, [])

instance : DecidablePred ReadsBack := fun _ => inferInstanceAs (Decidable (_ = _))

/-! ### What is behind a number -/

section
variable {s r ds rest : List Char}

theorem Delimited.cases (h : Delimited rest) :
    rest = [] ∨ (∃ s, rest = ',' :: s) ∨ ∃ s, rest = '\n' :: s := by
  cases rest with
  | nil => exact .inl rfl
  | cons c s =>
    rcases h c rfl with rfl | rfl
    · exact .inr (.inl ⟨s, rfl⟩)
    · exact .inr (.inr ⟨s, rfl⟩)

/-- The digits of a number cannot go on here. -/
def NoDigit (s : List Char) : Prop := ∀ c ∈ s.head?, c.isDigit = false

theorem Delimited.noDigit (h : Delimited rest) : NoDigit rest := by
  rintro c hc
  rcases h c hc with rfl | rfl <;> rfl

theorem NoDigit.takeWhile_isDigit (h : NoDigit rest) : rest.takeWhile Char.isDigit = [] := by
  cases rest with
  | nil => rfl
  | cons c s => rw [List.takeWhile_cons_of_neg (by simp [h c rfl])]

theorem NoDigit.dropWhile_isDigit (h : NoDigit rest) : rest.dropWhile Char.isDigit = rest := by
  cases rest with
  | nil => rfl
  | cons c s => rw [List.dropWhile_cons_of_neg (by simp [h c rfl])]

theorem someDigits_append (h : someDigits s = .ok (ds, r)) (hrest : NoDigit rest) :
    someDigits (s ++ rest) = .ok (ds, r ++ rest) := by
  cases s with
  | nil => cases h
  | cons c t =>
    have htake : (c :: t ++ rest).takeWhile Char.isDigit = (c :: t).takeWhile Char.isDigit := by
      rw [List.takeWhile_append, hrest.takeWhile_isDigit]
      split
      · rename_i hlength
        rw [List.append_nil, (List.takeWhile_prefix _).eq_of_length hlength]
      · rfl
    have hdrop : (c :: t ++ rest).dropWhile Char.isDigit =
        (c :: t).dropWhile Char.isDigit ++ rest := by
      rw [List.dropWhile_append, hrest.dropWhile_isDigit]
      split
      · rename_i hempty
        rw [List.isEmpty_iff.1 hempty, List.nil_append]
      · rfl
    rw [List.cons_append] at htake hdrop
    rw [List.cons_append]
    unfold someDigits at h ⊢
    dsimp only at h ⊢
    rw [htake, hdrop]
    split at h
    · rename_i hc
      cases h
      rw [if_pos hc]
    · cases h

theorem integerDigits_eq_ok : integerDigits s = .ok (ds, r) ↔
    someDigits s = .ok (ds, r) ∧ ∀ c t, s = '0' :: c :: t → c.isDigit = false := by
  unfold integerDigits
  split
  · rename_i c t
    split
    · rename_i hc
      refine ⟨nofun, fun h => ?_⟩
      have := h.2 c t rfl
      simp [hc] at this
    · rename_i hc
      refine ⟨fun h => ⟨h, ?_⟩, fun h => h.1⟩
      rintro _ _ ⟨⟩
      exact Bool.eq_false_iff.2 hc
  · rename_i hne
    refine ⟨fun h => ⟨h, ?_⟩, fun h => h.1⟩
    rintro c t rfl
    exact absurd rfl (hne c t)

theorem integerDigits_append (h : integerDigits s = .ok (ds, r)) (hrest : NoDigit rest) :
    integerDigits (s ++ rest) = .ok (ds, r ++ rest) := by
  obtain ⟨hdigits, hzero⟩ := integerDigits_eq_ok.1 h
  refine integerDigits_eq_ok.2 ⟨someDigits_append hdigits hrest, fun c t hs => ?_⟩
  cases s with
  | nil => cases hdigits
  | cons d s =>
    cases s with
    | nil =>
      cases hs
      exact hrest c rfl
    | cons c' s =>
      cases hs
      exact hzero c s rfl

theorem fractionDigits_append (h : fractionDigits s = .ok (ds, r)) (hrest : Delimited rest) :
    fractionDigits (s ++ rest) = .ok (ds, r ++ rest) := by
  cases s with
  | nil =>
    cases h
    rcases hrest.cases with rfl | ⟨s, rfl⟩ | ⟨s, rfl⟩ <;> rfl
  | cons c t =>
    by_cases hc : c = '.'
    · subst hc
      exact someDigits_append h hrest.noDigit
    · rw [fractionDigits] at h
      · cases h
        rw [List.cons_append, fractionDigits]
        · intro u hu
          exact hc (List.head_eq_of_cons_eq hu)
      · intro u hu
        exact hc (List.head_eq_of_cons_eq hu)

/-- The digits of an exponent, behind its sign. -/
def exponentDigits (negative : Bool) : Reader Int := fun s => do
  let (ds, r) ← someDigits s
  let n : Nat := Nat.ofDigitChars 10 ds 0
  .ok (if negative then -n else n, r)

theorem exponentDigits_append {negative : Bool} {e : Int}
    (h : exponentDigits negative s = .ok (e, r)) (hrest : Delimited rest) :
    exponentDigits negative (s ++ rest) = .ok (e, r ++ rest) := by
  obtain ⟨⟨ds, s'⟩, hdigits, h⟩ := bind_eq_ok.1 h
  refine bind_eq_ok.2 ⟨_, someDigits_append hdigits hrest.noDigit, ?_⟩
  cases h
  rfl

theorem exponentPart_plus {c : Char} (hc : c = 'e' ∨ c = 'E') (s : List Char) :
    exponentPart (c :: '+' :: s) = exponentDigits false s := by
  unfold exponentPart
  dsimp only
  rw [if_pos hc]
  rfl

theorem exponentPart_minus {c : Char} (hc : c = 'e' ∨ c = 'E') (s : List Char) :
    exponentPart (c :: '-' :: s) = exponentDigits true s := by
  unfold exponentPart
  dsimp only
  rw [if_pos hc]
  rfl

theorem exponentPart_of_ne {c : Char} (hc : c = 'e' ∨ c = 'E') (hplus : ∀ r, s ≠ '+' :: r)
    (hminus : ∀ r, s ≠ '-' :: r) : exponentPart (c :: s) = exponentDigits false s := by
  unfold exponentPart
  dsimp only
  rw [if_pos hc]
  split
  · exact absurd rfl (hplus _)
  · exact absurd rfl (hminus _)
  · rfl

/-- A character at the front is still there with something behind the text. -/
theorem append_ne_cons {c : Char} (hs : s ≠ []) (h : ∀ r, s ≠ c :: r) :
    ∀ r, s ++ rest ≠ c :: r := by
  intro r heq
  cases s with
  | nil => exact hs rfl
  | cons d s =>
    cases heq
    exact h s rfl

theorem exponentPart_append {e : Int} (h : exponentPart s = .ok (e, r)) (hrest : Delimited rest) :
    exponentPart (s ++ rest) = .ok (e, r ++ rest) := by
  cases s with
  | nil =>
    cases h
    rcases hrest.cases with rfl | ⟨s, rfl⟩ | ⟨s, rfl⟩ <;> rfl
  | cons c s =>
    rw [List.cons_append]
    by_cases hc : c = 'e' ∨ c = 'E'
    · by_cases hplus : ∃ t, s = '+' :: t
      · obtain ⟨t, rfl⟩ := hplus
        rw [exponentPart_plus hc] at h
        rw [List.cons_append, exponentPart_plus hc]
        exact exponentDigits_append h hrest
      by_cases hminus : ∃ t, s = '-' :: t
      · obtain ⟨t, rfl⟩ := hminus
        rw [exponentPart_minus hc] at h
        rw [List.cons_append, exponentPart_minus hc]
        exact exponentDigits_append h hrest
      · have hplus : ∀ t, s ≠ '+' :: t := fun t ht => hplus ⟨t, ht⟩
        have hminus : ∀ t, s ≠ '-' :: t := fun t ht => hminus ⟨t, ht⟩
        rw [exponentPart_of_ne hc hplus hminus] at h
        have hs : s ≠ [] := by
          rintro rfl
          cases h
        rw [exponentPart_of_ne hc (append_ne_cons hs hplus) (append_ne_cons hs hminus)]
        exact exponentDigits_append h hrest
    · unfold exponentPart at h ⊢
      dsimp only at h ⊢
      rw [if_neg hc] at h ⊢
      cases h
      rfl

/-! ### Numbers -/

/-- A number behind its sign. -/
def scanUnsigned (negative : Bool) : Reader Binary64 := fun s => do
  let (whole, s) ← integerDigits s
  let (fraction, s) ← fractionDigits s
  let (e, s) ← exponentPart s
  let (m, beyond) := collect 0 whole
  let (m, unread) := collect m fraction
  match scaled? negative m (beyond - (fraction.length - unread : Nat) + e) with
  | some x => .ok (x, s)
  | none => .error .malformed

theorem scanNumber_minus (s : List Char) : scanNumber ('-' :: s) = scanUnsigned true s := rfl

theorem scanNumber_of_ne (h : ∀ r, s ≠ '-' :: r) : scanNumber s = scanUnsigned false s := by
  unfold scanNumber
  split
  rename_i hsign
  split at hsign
  · exact absurd rfl (h _)
  · cases hsign
    rfl

theorem scanUnsigned_append {negative : Bool} {x : Binary64}
    (h : scanUnsigned negative s = .ok (x, r)) (hrest : Delimited rest) :
    scanUnsigned negative (s ++ rest) = .ok (x, r ++ rest) := by
  obtain ⟨⟨whole, s₁⟩, hwhole, h⟩ := bind_eq_ok.1 h
  obtain ⟨⟨fraction, s₂⟩, hfraction, h⟩ := bind_eq_ok.1 h
  obtain ⟨⟨e, s₃⟩, hexponent, h⟩ := bind_eq_ok.1 h
  refine bind_eq_ok.2 ⟨_, integerDigits_append hwhole hrest.noDigit, ?_⟩
  refine bind_eq_ok.2 ⟨_, fractionDigits_append hfraction hrest, ?_⟩
  refine bind_eq_ok.2 ⟨_, exponentPart_append hexponent hrest, ?_⟩
  dsimp only at h ⊢
  split at h
  · cases h
    rfl
  · cases h

theorem scanNumber_append {x : Binary64} (h : scanNumber s = .ok (x, r)) (hrest : Delimited rest) :
    scanNumber (s ++ rest) = .ok (x, r ++ rest) := by
  by_cases hsign : ∃ t, s = '-' :: t
  · obtain ⟨t, rfl⟩ := hsign
    rw [scanNumber_minus] at h
    rw [List.cons_append, scanNumber_minus]
    exact scanUnsigned_append h hrest
  · have hne : ∀ t, s ≠ '-' :: t := fun t ht => hsign ⟨t, ht⟩
    rw [scanNumber_of_ne hne] at h
    have hs : s ≠ [] := by
      rintro rfl
      cases h
    rw [scanNumber_of_ne (append_ne_cons hs hne), scanUnsigned_append h hrest]

theorem readNumber_append {x : Binary64} (h : readNumber s = .ok (x, r)) (hrest : Delimited rest) :
    readNumber (s ++ rest) = .ok (x, r ++ rest) := by
  unfold readNumber at h ⊢
  cases hskip : skipBlanks s with
  | nil => rw [hskip] at h; cases h
  | cons c t =>
    have happend : skipBlanks (s ++ rest) = c :: (t ++ rest) := by
      unfold skipBlanks at hskip ⊢
      rw [List.dropWhile_append, hskip]
      rfl
    rw [hskip] at h
    rw [happend]
    dsimp only at h ⊢
    split at h
    · rename_i hstart
      rw [if_pos hstart]
      exact scanNumber_append h hrest
    · cases h

/-- Such a number is read wherever it is written. -/
theorem ReadsBack.reads {x : Binary64} (h : ReadsBack x) : Reads readNumber (.number x) x := by
  intro d bs rest hbs hrest
  have hread : readNumber (x.text pointRange ++ rest) = .ok (x, rest) := readNumber_append h hrest
  have hskip : skipBlanks (bs ++ (x.text pointRange ++ rest)) =
      skipBlanks (x.text pointRange ++ rest) := skipBlanks_append hbs _
  rw [write_number, ← hread, readNumber, readNumber, hskip]

end

/-! ### Integers -/

section
variable {ds : List Char} {m n : Nat} (negative : Bool)

theorem le_ofDigitChars (ds : List Char) (m : Nat) : m ≤ Nat.ofDigitChars 10 ds m := by
  induction ds generalizing m with
  | nil => exact Nat.le_refl m
  | cons d ds ih =>
    have hle := ih (10 * m + (d.toNat - '0'.toNat))
    rw [Nat.ofDigitChars_cons]
    omega

theorem collect_eq (h : Nat.ofDigitChars 10 ds m < significandBound) :
    collect m ds = (Nat.ofDigitChars 10 ds m, 0) := by
  induction ds generalizing m with
  | nil => rfl
  | cons d ds ih =>
    rw [Nat.ofDigitChars_cons] at h ⊢
    have hle := le_ofDigitChars ds (10 * m + (d.toNat - '0'.toNat))
    rw [collect, if_pos (Nat.lt_of_le_of_lt hle h), ih h]

theorem someDigits_toDigits (n : Nat) :
    someDigits (Nat.toDigits 10 n) = .ok (Nat.toDigits 10 n, []) := by
  have hdigit : ∀ c ∈ Nat.toDigits 10 n, c.isDigit = true := fun c hc =>
    Nat.isDigit_of_mem_toDigits (by decide) (by decide) hc
  unfold someDigits
  cases hdigits : Nat.toDigits 10 n with
  | nil => exact absurd hdigits Nat.toDigits_ne_nil
  | cons c ds =>
    rw [hdigits] at hdigit
    dsimp only
    rw [if_pos (hdigit c (List.mem_cons_self ..)), List.takeWhile_eq_self_iff.2 hdigit,
      List.dropWhile_eq_nil_iff.2 hdigit]

theorem digitChar_ne_zero : ∀ n < 10, 0 < n → Nat.digitChar n ≠ '0' := by decide

/-- The digits of a positive number do not start with a zero. -/
theorem toDigits_ne_zero_cons (hn : 0 < n) (ds : List Char) : Nat.toDigits 10 n ≠ '0' :: ds := by
  induction n using Nat.strongRecOn generalizing ds with
  | _ n ih =>
    by_cases hsmall : n < 10
    · rw [Nat.toDigits_of_lt_base hsmall]
      intro h
      exact digitChar_ne_zero n hsmall hn (List.head_eq_of_cons_eq h)
    · have hlarge : 10 ≤ n := Nat.not_lt.1 hsmall
      rw [Nat.toDigits_of_base_le (by decide) hlarge]
      cases hfront : Nat.toDigits 10 (n / 10) with
      | nil => exact absurd hfront Nat.toDigits_ne_nil
      | cons c front =>
        have hne := ih (n / 10) (by omega) (by omega) front
        intro h
        rw [hfront, List.head_eq_of_cons_eq h] at hne
        exact hne rfl

theorem integerDigits_toDigits (n : Nat) :
    integerDigits (Nat.toDigits 10 n) = .ok (Nat.toDigits 10 n, []) := by
  refine integerDigits_eq_ok.2 ⟨someDigits_toDigits n, fun c t h => ?_⟩
  rcases Nat.eq_zero_or_pos n with rfl | hn
  · cases h
  · exact absurd h (toDigits_ne_zero_cons hn _)

theorem scaled?_integer (h : 10 * n < 2 ^ 53) :
    scaled? negative (10 * n) (-1) = some (integer negative n) := by
  have hstep : ∀ x, Binary64.ofRatio? negative (10 * n) 1 = some x →
      x.div? (integer false 10) = some (integer negative n) →
      scaled? negative (10 * n) (-1) = some (integer negative n) := by
    intro x hratio hdiv
    rw [scaled?, hratio]
    show some (scaleDown x 1) = _
    rw [scaleDown, if_pos (by decide)]
    show some ((x.div? (integer false 10)).getD x) = _
    rw [hdiv]
    rfl
  rcases Nat.eq_zero_or_pos n with rfl | hn
  · refine hstep (integer negative 0) rfl ?_
    cases negative <;> rfl
  · have hratio := Binary64.ofRatio?_eq_integer negative (Nat.mul_pos (by decide) hn) h Nat.one_pos
    have hdiv := Binary64.div?_integer (d := 10) negative hn (by decide) (by omega)
    rw [Nat.mul_one] at hratio
    rw [Nat.mul_comm] at hdiv
    exact hstep _ hratio hdiv

/-- The digits of an integer with a point and a zero behind them. -/
theorem scanUnsigned_integer (h : 10 * n < 2 ^ 53) :
    scanUnsigned negative (Nat.toDigits 10 n ++ ['.', '0']) = .ok (integer negative n, []) := by
  have hpoint : NoDigit ['.', '0'] := by
    rintro c ⟨⟩
    rfl
  have hwhole := integerDigits_append (integerDigits_toDigits n) hpoint
  have hn : collect 0 (Nat.toDigits 10 n) = (n, 0) := by
    rw [collect_eq, Nat.ofDigitChars_ten_toDigits]
    rw [Nat.ofDigitChars_ten_toDigits, significandBound]
    omega
  have hten : collect n ['0'] = (10 * n, 0) := by
    rw [collect_eq]
    · rfl
    · show 10 * n + 0 < significandBound
      rw [significandBound]
      omega
  -- No digit is left out, and one of them is behind the point.
  have hexponent : (((0 : Nat) : Int) - ((1 - 0 : Nat) : Int) + 0) = -1 := rfl
  refine bind_eq_ok.2 ⟨_, hwhole, ?_⟩
  refine bind_eq_ok.2 ⟨(['0'], []), rfl, ?_⟩
  refine bind_eq_ok.2 ⟨(0, []), rfl, ?_⟩
  dsimp only
  rw [hn]
  dsimp only
  rw [hten]
  dsimp only [List.length_singleton]
  rw [hexponent, scaled?_integer negative h]

theorem isBlank_of_isDigit {c : Char} (h : c.isDigit = true) : isBlank c = false := by
  refine Bool.eq_false_iff.2 fun hblank => ?_
  simp only [isBlank, Bool.or_eq_true, beq_iff_eq] at hblank
  rcases hblank with ((rfl | rfl) | rfl) | rfl <;> cases h

/-- Integers are read back as long as a digit more fits into the significand. -/
theorem readsBack_integer (h : 10 * n < 2 ^ 53) : ReadsBack (integer negative n) := by
  have hscan := scanUnsigned_integer negative h
  rw [ReadsBack, Binary64.text_integer negative (by omega)]
  cases negative with
  | true => exact hscan
  | false =>
    -- Without a sign, a digit is at the front.
    cases hdigits : Nat.toDigits 10 n with
    | nil => exact absurd hdigits Nat.toDigits_ne_nil
    | cons c ds =>
      have hc : c.isDigit = true :=
        Nat.isDigit_of_mem_toDigits (b := 10) (n := n) (by decide) (by decide)
          (hdigits ▸ List.mem_cons_self ..)
      have hsign : ∀ r, c :: (ds ++ ['.', '0']) ≠ '-' :: r := by
        rintro r ⟨⟩
        cases hc
      rw [hdigits] at hscan
      show readNumber (c :: (ds ++ ['.', '0'])) = _
      rw [readNumber, skipBlanks_cons (isBlank_of_isDigit hc)]
      dsimp only
      rw [if_pos (by simp [startsNumber, hc]), scanNumber_of_ne hsign]
      exact hscan

end

end Interaction.Json
