import Interaction.Proofs.Progress
import Interaction.Proofs.Concatenation

/-!
# Repetitions end

A repetition goes round after round (`Rounds`). If its rule consumes, then the rounds are at most as
many as there are characters (`Rounds.length_le`), they go on until the rule refuses or fails, and
what it refuses is left as it was (`many_eq_read`, `many_eq_failed`). So a guard against rounds that
read nothing would make no difference (`guarded_eq_many`). All rules that the language repeats
consume (`Repeated.consumes`).
-/

namespace Interaction
namespace Rule
variable {α : Type} {p : Rule α} {s r : List Char} {as : List α}

/-- `p` has been read again and again, `as` are the values, and `r` is left. -/
inductive Rounds (p : Rule α) : List Char → List α → List Char → Prop
  | none (s : List Char) : Rounds p s [] s
  | next {s s' r : List Char} {a : α} {as : List α} (h : p s = .read a s')
      (hrest : Rounds p s' as r) : Rounds p s (a :: as) r

/-- `p` as often as it goes, with `idle` as the outcome of a round that makes the text no shorter. -/
def guarded (p : Rule α) (idle : Outcome (List α)) (s : List Char) : Outcome (List α) :=
  match p s with
  | .read a r =>
    if r.length < s.length then (guarded p idle r).bind fun as r => .read (a :: as) r else idle
  | .refused => .read [] s
  | .failed e r => .failed e r
termination_by s.length

theorem Rounds.length_le (hp : Consumes p) (h : Rounds p s as r) :
    as.length + r.length ≤ s.length := by
  induction h with
  | none s => simp
  | next h _ ih =>
    have := (hp h).2
    rw [List.length_cons]
    omega

theorem Rounds.many (hp : Consumes p) (h : Rounds p s as r) :
    many p s = (many p r).bind fun bs r => .read (as ++ bs) r := by
  induction h with
  | none s => cases Rule.many p s <;> rfl
  | next h _ ih =>
    rw [many_of_read hp h, ih]
    cases Rule.many p _ <;> rfl

/-- The rounds of a repetition lead to where its rule does not read any more. -/
theorem exists_rounds (hp : Consumes p) (s : List Char) :
    ∃ as r, Rounds p s as r ∧ ∀ a r', p r ≠ .read a r' := by
  cases hs : p s with
  | read a s' =>
    have hlt := (hp hs).2
    obtain ⟨as, r, hrounds, hend⟩ := exists_rounds hp s'
    exact ⟨a :: as, r, .next hs hrounds, hend⟩
  | refused => exact ⟨[], s, .none s, by simp [hs]⟩
  | failed e r => exact ⟨[], s, .none s, by simp [hs]⟩
termination_by s.length

theorem many_eq_read (hp : Consumes p) :
    many p s = .read as r ↔ Rounds p s as r ∧ p r = .refused := by
  constructor
  · intro h
    obtain ⟨bs, t, hrounds, hend⟩ := exists_rounds hp s
    rw [hrounds.many hp] at h
    cases ht : p t with
    | read a r' => exact absurd ht (hend a r')
    | refused =>
      rw [many_of_refused ht] at h
      cases h
      rw [List.append_nil]
      exact ⟨hrounds, ht⟩
    | failed e r' => rw [many_of_failed ht] at h; cases h
  · rintro ⟨hrounds, hend⟩
    rw [hrounds.many hp, many_of_refused hend]
    simp

theorem many_eq_failed (hp : Consumes p) {e : Fault} :
    many p s = .failed e r ↔ ∃ as t, Rounds p s as t ∧ p t = .failed e r := by
  constructor
  · intro h
    obtain ⟨as, t, hrounds, hend⟩ := exists_rounds hp s
    rw [hrounds.many hp] at h
    cases ht : p t with
    | read a r' => exact absurd ht (hend a r')
    | refused => rw [many_of_refused ht] at h; cases h
    | failed e' r' =>
      rw [many_of_failed ht] at h
      cases h
      exact ⟨as, t, hrounds, ht⟩
  · rintro ⟨as, t, hrounds, hend⟩
    rw [hrounds.many hp, many_of_failed hend]
    rfl

theorem guarded_eq_many (hp : Consumes p) (idle : Outcome (List α)) (s : List Char) :
    guarded p idle s = many p s := by
  rw [guarded]
  cases hs : p s with
  | read a r =>
    have hlt := (hp hs).2
    simp only [hlt, if_true]
    rw [guarded_eq_many hp idle r, many_of_read hp hs]
  | refused => rw [many_of_refused hs]
  | failed e r => rw [many_of_failed hs]
termination_by s.length

/-- The rule may be repeated: whatever it is repeated on, this comes to an end. -/
structure Repeatable (p : Rule α) : Prop where
  /-- A round reads something from the front of the text. -/
  shorter : ∀ s a r, p s = .read a r → r <:+ s ∧ r.length < s.length
  /-- What is refused is not touched, where the rule may be left out … -/
  untouched : ∀ s r, p.optional s = .read none r ↔ p s = .refused ∧ r = s
  /-- … and where it is repeated: the rounds stop in front of the text that is refused. -/
  stops : ∀ s as r, many p s = .read as r ↔ Rounds p s as r ∧ p r = .refused
  fails : ∀ s e r, many p s = .failed e r ↔ ∃ as t, Rounds p s as t ∧ p t = .failed e r
  /-- There are no more rounds than characters. -/
  bounded : ∀ s as r, Rounds p s as r → as.length + r.length ≤ s.length
  ends : ∀ s, ∃ as r, Rounds p s as r ∧ ∀ a r', p r ≠ .read a r'
  /-- No round is idle. -/
  unguarded : ∀ idle s, guarded p idle s = many p s

theorem Consumes.repeatable (hp : Consumes p) : Repeatable p where
  shorter _ _ _ h := hp h
  untouched s r := by simp [optional_eq_read]
  stops _ _ _ := many_eq_read hp
  fails _ _ _ := many_eq_failed hp
  bounded _ _ _ h := h.length_le hp
  ends := exists_rounds hp
  unguarded := guarded_eq_many hp

end Rule

open Rule
namespace Source

/-- The rules that are repeated in the language. But for units of trivia, all of them are repeated
behind trivia. -/
inductive Repeated : {α : Type} → Rule α → Prop
  | triviaUnit : Repeated triviaUnit
  | clause : Repeated clause
  | tailClause : Repeated tailClause
  | item (levels : Nat) : Repeated (item (block levels))
  | departure : Repeated departure
  | contactItem : Repeated contactItem
  | element : Repeated element

theorem Repeated.consumes {α : Type} {p : Rule α} (h : Repeated p) : Consumes p := by
  cases h with
  | triviaUnit => exact consumes_triviaUnit
  | clause => exact consumes_clause
  | tailClause => exact consumes_tailClause
  | item levels => exact consumes_item (consumes_block levels).trims
  | departure => exact consumes_departure
  | contactItem => exact consumes_contactItem
  | element => exact consumes_element

/-- Every repetition makes progress and ends, and a diagram is read to the end of its source. -/
theorem repetitions_end :
    (∀ {α : Type} {p : Rule α}, Repeated p → Repeatable p ∧ Repeatable (spaced p)) ∧
      ∀ s d r, diagram s = .read d r → r = [] :=
  ⟨fun h => ⟨h.consumes.repeatable, h.consumes.spaced.repeatable⟩,
    fun _ _ _ h => (diagram_eq_read.1 h).1⟩

/-- The last clause is given back with the blank in front of it, because no text follows. -/
theorem repetitions_end_binding :
    many (spaced tailClause) " why: 'a' effect: 'b' let: x = 1".toList =
      .read [.why "a", .effect "b"] " let: x = 1".toList ∧
    Rounds (spaced tailClause) " why: 'a' effect: 'b' let: x = 1".toList [.why "a", .effect "b"]
      " let: x = 1".toList ∧
    (spaced tailClause).optional " let: x = 1".toList = .read none " let: x = 1".toList := by
  have hclause := (repetitions_end.1 .tailClause).2
  have hread : many (spaced tailClause) " why: 'a' effect: 'b' let: x = 1".toList =
      .read [.why "a", .effect "b"] " let: x = 1".toList := by decide +kernel
  obtain ⟨hrounds, hrefused⟩ := (hclause.stops _ _ _).1 hread
  exact ⟨hread, hrounds, (hclause.untouched _ _).2 ⟨hrefused, rfl⟩⟩

end Source
end Interaction
