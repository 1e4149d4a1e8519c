import Interaction.Proofs.Repetition

/-!
# Rules that read related texts alike

Two texts may be related as they stand: one has more trivia than the other, or they differ behind a
place that is not to be looked at. A rule is `Steady` for such a relation if from related texts it
reads the same and leaves related ends. What is put together from steady rules is steady; so it is
enough to know it of the words and of trivia.
-/

namespace Interaction
namespace Rule

/-- What comes of two texts, up to the relation of what is left. After a failure there is nothing
to compare. -/
inductive Agrees (R : List Char → List Char → Prop) {α : Type} : Outcome α → Outcome α → Prop
  | read (x : α) {r r' : List Char} (h : R r r') : Agrees R (.read x r) (.read x r')
  | refused : Agrees R .refused .refused
  | failed {e : Fault} {r : List Char} (o : Outcome α) : Agrees R (.failed e r) o

/-- The rule makes no difference between related texts. -/
def Steady (R : List Char → List Char → Prop) {α : Type} (p : Rule α) : Prop :=
  ∀ ⦃s s'⦄, R s s' → Agrees R (p s) (p s')

section
variable {R : List Char → List Char → Prop} {α β : Type} {p q : Rule α} {f : α → Rule β}

namespace Agrees

theorem refl (hR : ∀ s, R s s) (o : Outcome α) : Agrees R o o := by
  cases o with
  | read x r => exact .read x (hR r)
  | refused => exact .refused
  | failed e r => exact .failed _

theorem bind {o o' : Outcome α} {f : α → List Char → Outcome β} (h : Agrees R o o')
    (hf : ∀ x ⦃r r'⦄, R r r' → Agrees R (f x r) (f x r')) :
    Agrees R (o.bind f) (o'.bind f) := by
  cases h with
  | read x h => exact hf x h
  | refused => exact .refused
  | failed o => exact .failed _

theorem orElse {o o' : Outcome α} {q q' : Unit → Outcome α} (h : Agrees R o o')
    (hq : Agrees R (q ()) (q' ())) : Agrees R (o.orElse q) (o'.orElse q') := by
  cases h with
  | read x h => exact .read x h
  | refused => exact hq
  | failed o => exact .failed _

end Agrees

theorem steady_pure (x : α) : Steady R (pure x : Rule α) := fun _ _ h => .read x h

theorem steady_fail (e : Fault) : Steady R (fail e : Rule α) := fun _ _ _ => .failed _

namespace Steady

theorem bind (hp : Steady R p) (hf : ∀ x, Steady R (f x)) : Steady R (p >>= f) :=
  fun _ _ h => (hp h).bind hf

theorem orElse (hp : Steady R p) (hq : Steady R q) : Steady R (p <|> q) := by
  intro s s' h
  rw [orElse_apply, orElse_apply]
  exact (hp h).orElse (hq h)

theorem orFail (hp : Steady R p) (e : Fault) : Steady R (p.orFail e) := hp.orElse (steady_fail e)

theorem many (hp : Steady R p) (hc : Consumes p) : Steady R (many p) := by
  -- The texts stay related from one round to the next, and the rests get shorter.
  intro s s' h
  have hstep := hp h
  cases hs : p s with
  | read x r =>
    cases hs' : p s' with
    | read x' r' =>
      rw [hs, hs'] at hstep
      cases hstep with
      | read _ hr =>
        have hlt := (hc hs).2
        rw [many_of_read hc hs, many_of_read hc hs']
        exact (many hp hc hr).bind fun xs _ _ hr => .read (x :: xs) hr
    | refused => rw [hs, hs'] at hstep; cases hstep
    | failed e r' => rw [hs, hs'] at hstep; cases hstep
  | refused =>
    rw [hs] at hstep
    generalize hs' : p s' = o at hstep
    cases hstep
    rw [many_of_refused hs, many_of_refused hs']
    exact .read [] h
  | failed e r =>
    rw [many_of_failed hs]
    exact .failed _
termination_by s => s.length

end Steady
end

end Rule
end Interaction
