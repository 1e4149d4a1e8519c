import Interaction.Proofs.Flat

/-!
# Nobody looks behind a closing brace

A flat rule stops in front of a closing brace that is in no text and no comment, and whatever stands
behind that brace makes no difference to it (`Flat.respects`). Braces may be nested, so a rule with
braces can also go past a brace; but then what it reads ends in a brace of its own, behind which it
does not look (`Enclosed`). One implies the other in turn, level by level (`enclosed_braced`,
`Enclosed.respects`, `enclosed_block`).
-/

namespace Interaction
open Rule
namespace Source

section
variable {α β : Type} {p q : Rule α} {f : α → Rule β}

/-! ### Rules that do not refuse -/

/-- The rule reads or fails. -/
def Commits (p : Rule α) : Prop := ∀ s, p s ≠ .refused

/-- What commits behind a rule does not make it refuse. -/
theorem refused_of_bind {s : List Char} (hf : ∀ x, Commits (f x)) (h : (p >>= f) s = .refused) :
    p s = .refused := by
  rcases bind_eq_refused.1 h with h | ⟨x, r, -, h⟩
  · exact h
  · exact absurd h (hf x r)

theorem Commits.bind (hp : Commits p) (hf : ∀ x, Commits (f x)) : Commits (p >>= f) :=
  fun s h => hp s (refused_of_bind hf h)

theorem commits_pure (x : α) : Commits (pure x : Rule α) := by
  rintro s ⟨⟩

theorem commits_fail (e : Fault) : Commits (fail e : Rule α) := by
  rintro s ⟨⟩

theorem commits_many (p : Rule α) : Commits (many p) := fun s => manyWithin_ne_refused p s s

theorem commits_trivia : Commits trivia := (commits_many _).bind fun _ => commits_pure ()

theorem Commits.spaced (hp : Commits p) : Commits (spaced p) := commits_trivia.bind fun _ => hp

theorem commits_expectMark (c : Char) : Commits (expectMark c) := by
  intro s h
  cases s with
  | nil => cases h
  | cons d s =>
    rw [expectMark] at h
    split at h <;> cases h

theorem commits_braced (p : Rule α) : Commits (braced p) :=
  (commits_expectMark '{').spaced.bind fun _ => (commits_many _).bind fun _ =>
    (commits_expectMark '}').spaced.bind fun _ => commits_pure _

theorem commits_block (levels : Nat) : Commits (block levels) := by
  cases levels with
  | zero => exact commits_fail _
  | succ levels => exact commits_braced _

/-! ### In front of a closing brace -/

/-- Two texts that differ behind a closing brace only. -/
inductive Before (y y' : List Char) : List Char → List Char → Prop
  | intro {a : List Char} (ha : Outside a '}') : Before y y' (a ++ '}' :: y) (a ++ '}' :: y')

/-- If the rule leaves a closing brace, or refuses in front of it, then whatever is behind that
brace. -/
structure Respects (p : Rule α) : Prop where
  read : ∀ ⦃a y x a'⦄, Outside a '}' → p (a ++ '}' :: y) = .read x (a' ++ '}' :: y) →
    Outside a' '}' ∧ ∀ y', p (a ++ '}' :: y') = .read x (a' ++ '}' :: y')
  refused : ∀ ⦃a y⦄, Outside a '}' → p (a ++ '}' :: y) = .refused →
    ∀ y', p (a ++ '}' :: y') = .refused

variable {y y' : List Char}

theorem Local.before (hp : Local p) : Steady (Before y y') p := by
  rintro _ _ ⟨ha⟩
  cases hp rfl ha with
  | read x a' ha' h =>
    rw [h, h]
    exact .read x (.intro ha')
  | refused h =>
    rw [h, h]
    exact .refused
  | failed h =>
    obtain ⟨e, r, hfailed⟩ := h y
    rw [hfailed]
    exact .failed _

theorem before_trivia : Steady (Before y y') trivia := by
  rintro _ _ ⟨ha⟩
  rcases trivia_cases rfl ha with ⟨a', ha', hread⟩ | hat | hfailed
  · rw [hread, hread]
    exact .read () (.intro ha')
  · have hstop : ∀ y, trivia ('}' :: y) = .read () ('}' :: y) := fun y => trivia_of_refused rfl
    rw [hat, hat, hstop, hstop]
    exact .read () (.intro (a := []) (.inl rfl))
  · obtain ⟨e, r, hfailed⟩ := hfailed y
    rw [hfailed]
    exact .failed _

theorem Flat.before (hp : Flat p) : Steady (Before y y') p :=
  hp.steady (fun hword => hword.isLocal.before) before_trivia

/-- A flat rule stops in front of the brace. -/
theorem Flat.exists_of_read (hp : Flat p) {a r : List Char} {x : α} (ha : Outside a '}')
    (h : p (a ++ '}' :: y) = .read x r) :
    ∃ a', r = a' ++ '}' :: y ∧ Outside a' '}' ∧
      ∀ y', p (a ++ '}' :: y') = .read x (a' ++ '}' :: y') := by
  have hstep : ∀ y', ∃ a', r = a' ++ '}' :: y ∧ Outside a' '}' ∧
      p (a ++ '}' :: y') = .read x (a' ++ '}' :: y') := by
    intro y'
    have hagrees : Agrees (Before y y') _ _ := hp.before (.intro ha)
    rw [h] at hagrees
    generalize hs' : p (a ++ '}' :: y') = o at hagrees
    obtain ⟨x, ⟨ha'⟩⟩ := hagrees
    exact ⟨_, rfl, ha', rfl⟩
  obtain ⟨a', rfl, ha', -⟩ := hstep y
  refine ⟨a', rfl, ha', fun y' => ?_⟩
  obtain ⟨a'', heq, -, hread⟩ := hstep y'
  rw [hread, List.append_cancel_right heq]

theorem Flat.respects (hp : Flat p) : Respects p := by
  refine ⟨fun a y x a' ha h => ?_, fun a y ha h y' => ?_⟩
  · obtain ⟨a'', heq, ha'', hread⟩ := hp.exists_of_read ha h
    obtain rfl := List.append_cancel_right heq
    exact ⟨ha'', hread⟩
  · have hagrees : Agrees (Before y y') _ _ := hp.before (.intro ha)
    rw [h] at hagrees
    generalize p (a ++ '}' :: y') = o at hagrees
    cases hagrees
    rfl

namespace Respects

theorem orElse (hp : Respects p) (hq : Respects q) : Respects (p <|> q) := by
  refine ⟨fun a y x a' ha h => ?_, fun a y ha h y' => ?_⟩
  · rcases orElse_eq_read.1 h with h | ⟨hrefused, h⟩
    · obtain ⟨ha', hread⟩ := hp.read ha h
      exact ⟨ha', fun y' => orElse_of_read (hread y')⟩
    · obtain ⟨ha', hread⟩ := hq.read ha h
      exact ⟨ha', fun y' => (orElse_of_refused (hp.refused ha hrefused y')).trans (hread y')⟩
  · obtain ⟨h, h'⟩ := orElse_eq_refused.1 h
    exact orElse_eq_refused.2 ⟨hp.refused ha h y', hq.refused ha h' y'⟩

/-- A flat rule in front stops in front of the brace itself. -/
theorem behind (hp : Flat p) (hf : ∀ x, Respects (f x)) : Respects (p >>= f) := by
  refine ⟨fun a y z a' ha h => ?_, fun a y ha h y' => ?_⟩
  · obtain ⟨x, r, hx, hz⟩ := bind_eq_read.1 h
    obtain ⟨a₁, rfl, ha₁, hread⟩ := hp.exists_of_read ha hx
    obtain ⟨ha', hread'⟩ := (hf x).read ha₁ hz
    exact ⟨ha', fun y' => (bind_of_read (hread y')).trans (hread' y')⟩
  · rcases bind_eq_refused.1 h with h | ⟨x, r, hx, hz⟩
    · exact bind_of_refused (hp.respects.refused ha h y')
    · obtain ⟨a₁, rfl, ha₁, hread⟩ := hp.exists_of_read ha hx
      exact (bind_of_read (hread y')).trans ((hf x).refused ha₁ hz y')

theorem value (hp : Respects p) (g : α → β) :
    Respects (do let x ← p; pure (g x) : Rule β) := by
  refine ⟨fun a y z a' ha h => ?_, fun a y ha h y' => ?_⟩
  · obtain ⟨x, r, hx, hz⟩ := bind_eq_read.1 h
    cases hz
    obtain ⟨ha', hread⟩ := hp.read ha hx
    exact ⟨ha', fun y' => bind_of_read (hread y')⟩
  · rcases bind_eq_refused.1 h with h | ⟨x, r, -, hz⟩
    · exact bind_of_refused (hp.refused ha h y')
    · cases hz

theorem spaced (hp : Respects p) : Respects (spaced p) := behind .trivia fun _ => hp

theorem read_many (hp : Respects p) (hc : Consumes p) {a a' y : List Char} {xs : List α}
    (ha : Outside a '}') (h : many p (a ++ '}' :: y) = .read xs (a' ++ '}' :: y)) :
    Outside a' '}' ∧ ∀ y', many p (a ++ '}' :: y') = .read xs (a' ++ '}' :: y') := by
  induction hlen : a.length using Nat.strongRecOn generalizing a xs with | _ n ih
  subst hlen
  cases hs : p (a ++ '}' :: y) with
  | read x r =>
    rw [many_of_read hc hs] at h
    obtain ⟨xs', r', hrest, heq⟩ := Outcome.bind_eq_read.1 h
    cases heq
    -- The brace is still there at the end, so it was there behind the first round.
    obtain ⟨d, rfl⟩ := hc.trims.many hrest
    have hlt := (hc hs).2
    rw [← List.append_assoc] at hs hrest
    obtain ⟨hd, hread⟩ := hp.read ha hs
    have hlt' : (d ++ a').length < a.length := by
      simp only [List.length_append, List.length_cons] at hlt ⊢
      omega
    have hrounds := ih (d ++ a').length hlt' hd hrest rfl
    refine ⟨hrounds.1, fun y' => ?_⟩
    rw [many_of_read hc (hread y'), hrounds.2 y']
    rfl
  | refused =>
    rw [many_of_refused hs, Outcome.read.injEq] at h
    obtain ⟨rfl, heq⟩ := h
    obtain rfl := List.append_cancel_right heq
    exact ⟨ha, fun y' => many_of_refused (hp.refused ha hs y')⟩
  | failed e r => rw [many_of_failed hs] at h; cases h

theorem many (hp : Respects p) (hc : Consumes p) : Respects (many p) :=
  ⟨fun _ _ _ _ ha h => hp.read_many hc ha h, fun _ _ _ h => absurd h (commits_many p _)⟩

end Respects

/-! ### Behind a closing brace -/

/-- What the rule reads ends in a closing brace, and whatever is behind that brace is left. -/
def Enclosed (p : Rule α) : Prop := ∀ ⦃s x r⦄, p s = .read x r →
  ∃ c, s = c ++ '}' :: r ∧ Whole c ∧ ∀ r', p (c ++ '}' :: r') = .read x r'

namespace Enclosed

theorem of_commits (hp : Enclosed p) (hne : Commits p) : Respects p := by
  refine ⟨fun a y x a' ha h => ?_, fun a y _ h => absurd h (hne _)⟩
  obtain ⟨c, heq, hc, hread⟩ := hp h
  have hsolid : isSolid '}' = true := by decide
  have hbrace : Whole (c ++ ['}']) := hc.append (.of_solid (by simpa using hsolid))
  obtain rfl : a = (c ++ ['}']) ++ a' := by
    refine List.append_cancel_right (heq.trans ?_)
    simp
  refine ⟨hbrace.outside_append.1 ha, fun y' => ?_⟩
  simpa using hread (a' ++ '}' :: y')

/-- A rule in front that does not look behind the last brace. -/
theorem behind (hp : Respects p) (hwhole : ReadsWhole p) (hf : ∀ x, Enclosed (f x)) :
    Enclosed (p >>= f) := by
  intro s z r h
  obtain ⟨x, r₁, hx, hz⟩ := bind_eq_read.1 h
  obtain ⟨d, rfl, hd, hread'⟩ := hf x hz
  obtain ⟨c, rfl, hc⟩ := hwhole hx (by simp)
  rw [← List.append_assoc] at hx
  obtain ⟨-, hread⟩ := hp.read (hc.append hd).outside hx
  exact ⟨c ++ d, by simp, hc.append hd, fun r' => (bind_of_read (hread r')).trans (hread' r')⟩

theorem behindFlat (hp : Flat p) (hf : ∀ x, Enclosed (f x)) : Enclosed (p >>= f) :=
  behind hp.respects hp.readsWhole hf

theorem value (hp : Enclosed p) (g : α → β) :
    Enclosed (do let x ← p; pure (g x) : Rule β) := by
  intro s z r h
  obtain ⟨x, r₁, hx, hz⟩ := bind_eq_read.1 h
  cases hz
  obtain ⟨c, hs, hc, hread⟩ := hp hx
  exact ⟨c, hs, hc, fun r' => bind_of_read (hread r')⟩

end Enclosed

theorem enclosed_closingBrace : Enclosed (expectMark '}') := by
  intro s x r h
  exact ⟨[], expectMark_eq_read.1 h, .nil, fun r' => rfl⟩

theorem enclosed_braced (hp : Respects p) (hwhole : ReadsWhole p) (hc : Consumes p) :
    Enclosed (braced p) := by
  refine .behindFlat (flat_expectMark (by decide)).spaced fun _ => ?_
  refine .behind (hp.spaced.many hc.spaced) (hwhole.spaced.many hc.spaced) fun xs => ?_
  exact .value (.behindFlat .trivia fun _ => enclosed_closingBrace) fun _ => xs

end

theorem respects_flow {inner : Rule (List Item)} (h : Respects inner) : Respects (flow inner) := by
  rw [flow_eq]
  refine .behind flat_grouping fun _ => .behind .trivia fun _ => ?_
  refine .behind (flat_name.optional.ite (flat_pure _)) fun _ => ?_
  exact .behind ((flat_pure _).ite flat_condition.optional) fun _ => h.value _

theorem respects_item {inner : Rule (List Item)} (h : Respects inner) : Respects (item inner) :=
  .orElse ((flat_labelled (by decide)).map _).respects <|
  .orElse ((flat_labelled (by decide)).map _).respects <|
  .orElse (flat_binding.map _).respects <|
  .orElse ((flat_labelled (by decide)).map _).respects <|
  .orElse ((flat_labelled (by decide)).map _).respects <|
  .orElse (respects_flow h) <|
  .orElse (flat_utterance.map _).respects (flat_event.map _).respects

theorem enclosed_block (levels : Nat) : Enclosed (block levels) := by
  induction levels with
  | zero => rintro s x r ⟨⟩
  | succ levels ih =>
    have hinner : Respects (block levels) := ih.of_commits (commits_block levels)
    exact enclosed_braced (respects_item hinner) (nested_item (nested_block levels)).readsWhole
      (consumes_item (consumes_block levels).trims)

theorem enclosed_sceneBody : Enclosed sceneBody := (enclosed_block _).value _

theorem enclosed_scene : Enclosed scene :=
  .behindFlat flat_sceneHead fun _ => .behindFlat flat_sceneName.spaced fun _ =>
    enclosed_sceneBody.value _

theorem enclosed_global : Enclosed global :=
  .behindFlat (flat_keyword (by decide)) fun _ => .behindFlat flat_expectName.spaced fun _ =>
    enclosed_sceneBody.value _

theorem enclosed_departures : Enclosed (braced departure) :=
  enclosed_braced flat_departure.respects flat_departure.readsWhole consumes_departure

theorem enclosed_fork : Enclosed fork :=
  .behindFlat (flat_keyword (by decide)) fun _ => .behindFlat flat_expectName.spaced fun _ =>
    enclosed_departures.value _

theorem enclosed_contact : Enclosed contact :=
  .behindFlat (flat_keyword (by decide)) fun _ => .behindFlat flat_expectName.spaced fun _ =>
    (enclosed_braced flat_contactItem.respects flat_contactItem.readsWhole
      consumes_contactItem).value _

end Source
end Interaction
