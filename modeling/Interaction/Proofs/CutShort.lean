import Interaction.Proofs.Concatenation

/-!
# Diagrams that are cut short

What a rule reads in front of `r` it may also read if `r` is cut off (`Shrinks`). Of elements with a
closing brace nobody looks behind the brace, so this is about the others: points, processes and
external diagrams, which end in a name, in a text or in nothing. A process without action or body
looks for them in the trivia behind it, and the cut must not make trivia of what was none there
(`LeadsTo`, `Cuts`). By induction on the repetition, elements that were read in front of `r` are a
listing without it (`exists_listing`).
-/

namespace Interaction
open Rule
namespace Source
variable {α β : Type} {p q : Rule α} {f : α → Rule β} {s r a b c : List Char}

theorem exists_append_of_suffix (h : b ++ r <:+ s) : ∃ a, s = a ++ b ++ r := by
  obtain ⟨a, rfl⟩ := h
  exact ⟨a, by simp⟩

/-- What the rule reads in front of `r`, it reads without `r`. -/
structure Shrinks (r : List Char) (p : Rule α) : Prop where
  trims : Trims p
  read : ∀ ⦃a x b⦄, p (a ++ r) = .read x (b ++ r) → p a = .read x b

namespace Shrinks

theorem pure (x : α) : Shrinks r (Pure.pure x : Rule α) := by
  refine ⟨trims_pure x, fun a y b h => ?_⟩
  rw [pure_apply, Outcome.read.injEq] at h
  obtain ⟨rfl, heq⟩ := h
  rw [List.append_cancel_right heq]
  rfl

theorem bind (hp : Shrinks r p) (hf : ∀ x, Shrinks r (f x)) : Shrinks r (p >>= f) := by
  refine ⟨hp.trims.bind fun x => (hf x).trims, fun a y b h => ?_⟩
  obtain ⟨x, s, hx, hy⟩ := bind_eq_read.1 h
  obtain ⟨c, rfl⟩ := exists_append_of_suffix ((hf x).trims hy)
  exact (bind_of_read (hp.read hx)).trans ((hf x).read hy)

theorem value (hp : Shrinks r p) (g : α → β) :
    Shrinks r (do let x ← p; Pure.pure (g x) : Rule β) :=
  hp.bind fun x => pure (g x)

theorem optional (hp : Shrinks r p) (hrefused : ∀ a, p (a ++ r) = .refused → p a = .refused) :
    Shrinks r p.optional := by
  refine ⟨hp.trims.optional, fun a o b h => ?_⟩
  rcases optional_eq_read.1 h with ⟨x, hx, rfl⟩ | ⟨hnone, rfl, heq⟩
  · exact optional_eq_read.2 (.inl ⟨x, hp.read hx, rfl⟩)
  · exact optional_eq_read.2 (.inr ⟨hrefused a hnone, rfl, List.append_cancel_right heq⟩)

end Shrinks

theorem Enclosed.shrinks (hp : Enclosed p) : Shrinks r p := by
  refine ⟨fun s x b h => ?_, fun a x b h => ?_⟩
  · obtain ⟨c, rfl, -⟩ := hp h
    exact ⟨c ++ ['}'], by simp⟩
  · obtain ⟨c, heq, -, hread⟩ := hp h
    obtain rfl : a = c ++ '}' :: b := List.append_cancel_right (heq.trans (by simp))
    exact hread b

/-! ### Words -/

theorem EndsWord.of_append (h : EndsWord (b ++ r)) : EndsWord b := by
  cases b with
  | nil => exact endsWord_nil
  | cons c b => exact endsWord_cons.2 (endsWord_cons.1 h)

theorem shrinks_keyword (w : String) : Shrinks r (keyword w) := by
  refine ⟨fun s _ b h => ⟨_, (keyword_eq_read.1 h).1.symm⟩, fun a _ b h => ?_⟩
  obtain ⟨heq, hend⟩ := keyword_eq_read.1 h
  exact keyword_eq_read.2 ⟨List.append_cancel_right (heq.trans (by simp)), hend.of_append⟩

theorem shrinks_terminalKind : Shrinks r terminalKind := by
  refine ⟨fun s k b h => ⟨_, (terminalKind_eq_read.1 h).1.symm⟩, fun a k b h => ?_⟩
  obtain ⟨heq, hend⟩ := terminalKind_eq_read.1 h
  exact terminalKind_eq_read.2 ⟨List.append_cancel_right (heq.trans (by simp)), hend.of_append⟩

theorem shrinks_expectName : Shrinks r expectName := by
  refine ⟨consumes_expectName.trims, fun a t b h => ?_⟩
  obtain ⟨heq, ht, hend⟩ := name_eq_read.1 (orFail_eq_read.1 h)
  refine orFail_eq_read.2 (name_eq_read.2 ⟨?_, ht, hend.of_append⟩)
  exact List.append_cancel_right (heq.trans (by simp))

theorem shrinks_text : Shrinks r text := by
  refine ⟨consumes_text.trims, fun a t b h => ?_⟩
  obtain ⟨q, hq, hmem, heq⟩ := text_eq_read.1 h
  exact text_eq_read.2 ⟨q, hq, hmem, List.append_cancel_right (heq.trans (by simp))⟩

theorem text_refused_of_append (h : text (a ++ r) = .refused) : text a = .refused := by
  rw [text_eq_refused] at h ⊢
  cases a with
  | nil => simp
  | cons d a => exact h

theorem shrinks_arrow : Shrinks r arrow :=
  ⟨consumes_arrow.trims, fun _ _ _ h =>
    arrow_eq_read.2 (List.append_cancel_right ((arrow_eq_read.1 h).trans (by simp)))⟩

/-! ### Words behind trivia -/

/-- The trivia in front of a word, also if the word goes on into `r`. -/
theorem trivia_of_append (h : trivia (a ++ r) = .read () (c ++ r)) (hc : Uncommented c) :
    trivia a = .read () c := by
  cases r with
  | nil => simpa using h
  | cons d r =>
    obtain ⟨t, ht, heq | ⟨hnil, -⟩⟩ := trivia_eq_read h
    · obtain rfl : a = t ++ c := List.append_cancel_right (heq.trans (by simp))
      rw [trivia_append ht]
      cases c with
      | nil => rfl
      | cons c cs =>
        have hunit := (orElse_eq_refused.1 (triviaUnit_refused_of_trivia h)).1
        exact trivia_of_uncommented (blanks_eq_refused.1 hunit c rfl) hc
    · simp at hnil

theorem Uncommented.of_append (h : Uncommented (c ++ r)) : Uncommented c := by
  cases c with
  | nil => simp [Uncommented]
  | cons d c => exact h

/-- A rule that starts at a word, behind trivia. -/
theorem Shrinks.spaced (hp : Shrinks r p)
    (hstart : ∀ ⦃s x r⦄, p s = .read x r → trivia s = .read () s → Uncommented s) :
    Shrinks r (spaced p) := by
  refine ⟨hp.trims.spaced, fun a x b h => ?_⟩
  obtain ⟨_, s, htrivia, hx⟩ := bind_eq_read.1 h
  obtain ⟨c, rfl⟩ := exists_append_of_suffix (hp.trims hx)
  have hc : Uncommented (c ++ b) := (hstart hx (trivia_idem htrivia)).of_append
  exact (bind_of_read (trivia_of_append htrivia hc)).trans (hp.read hx)

theorem shrinks_spaced_expectName : Shrinks r (spaced expectName) := by
  refine shrinks_expectName.spaced fun s t r h _ => AtWord.uncommented ?_
  obtain ⟨rfl, ⟨c, cs, ht, hc, -⟩, -⟩ := name_eq_read.1 (orFail_eq_read.1 h)
  rw [ht]
  rintro _ ⟨⟩
  exact hc

theorem shrinks_spaced_text : Shrinks r (spaced text) := by
  refine shrinks_text.spaced fun s t r h _ => ?_
  obtain ⟨q, hq, -, rfl⟩ := text_eq_read.1 h
  rintro _ ⟨⟩
  rcases hq with rfl | rfl <;> decide

theorem shrinks_transition : Shrinks r transition := by
  refine shrinks_arrow.bind fun k => ?_
  have hname := shrinks_spaced_expectName.value (r := r) fun t => Transition.mk t k false none
  rwa [spaced, bind_assoc] at hname

theorem commits_expectName : Commits expectName := orFail_ne_refused _ _

theorem transition_eq_refused : transition s = .refused ↔ arrow s = .refused :=
  ⟨refused_of_bind fun _ => commits_trivia.bind fun _ => commits_expectName.bind fun _ =>
    commits_pure _, bind_of_refused⟩

/-- An arrow, or none: without `r`, no arrow comes about. -/
theorem shrinks_exit : Shrinks r transition.optional := by
  refine shrinks_transition.optional fun a h => ?_
  rw [transition_eq_refused, arrow_eq_refused] at h ⊢
  exact fun k hk => h k (hk.trans (List.prefix_append a r))

/-! ### Points and external diagrams -/

theorem shrinks_startTail (id : String) : Shrinks r (startTail id) := by
  refine shrinks_exit.bind fun o => ?_
  cases o with
  | some t => exact .pure _
  | none => exact enclosed_departures.shrinks.value _

theorem shrinks_terminal : Shrinks r terminal := by
  rw [terminal_eq]
  refine shrinks_terminalKind.bind fun kind => shrinks_spaced_expectName.bind fun id => ?_
  split
  · exact (shrinks_startTail id).spaced fun _ _ _ => uncommented_of_startTail
  · exact .pure _

theorem shrinks_external : Shrinks r external :=
  (shrinks_keyword _).bind fun _ => shrinks_spaced_expectName

/-! ### Processes -/

/-- Behind trivia, a word or nothing is left of the text in front of `r`. -/
def LeadsTo (b r : List Char) : Prop := ∃ c, trivia (b ++ r) = .read () (c ++ r) ∧ AtWord c

/-- What the rule reads in front of `r`, it reads without `r`, if then only trivia or a word is left
in front of `r`. -/
def Cuts (r : List Char) (p : Rule α) : Prop :=
  ∀ ⦃a x b⦄, p (a ++ r) = .read x (b ++ r) → LeadsTo b r → p a = .read x b

theorem Shrinks.cuts (hp : Shrinks r p) : Cuts r p := fun _ _ _ h _ => hp.read h

namespace Cuts

theorem behind (hp : Shrinks r p) (hf : ∀ x, Cuts r (f x)) (htrims : ∀ x, Trims (f x)) :
    Cuts r (p >>= f) := by
  intro a y b h hb
  obtain ⟨x, s, hx, hy⟩ := bind_eq_read.1 h
  obtain ⟨c, rfl⟩ := exists_append_of_suffix (htrims x hy)
  exact (bind_of_read (hp.read hx)).trans (hf x hy hb)

theorem value (hp : Cuts r p) (g : α → β) : Cuts r (do let x ← p; pure (g x) : Rule β) := by
  intro a y b h hb
  obtain ⟨x, s, hx, heq⟩ := bind_eq_read.1 h
  cases heq
  exact bind_of_read (hp hx hb)

end Cuts

theorem trims_processTail (id : String) (o : Option String) : Trims (processTail id o) := by
  refine (trims_isNext '{').bind fun _ => Trims.ite ?_ ?_
  · exact (consumes_block _).trims.bind fun _ => trims_pure _
  · exact consumes_transition.trims.optional.bind fun _ => trims_pure _

theorem processTail_of_append {id : String} {o : Option String} {x : Process}
    (h : processTail id o (a ++ r) = .read x (b ++ r)) (ha : trivia (a ++ r) = .read () (a ++ r))
    (hb : LeadsTo b r) : processTail id o a = .read x b ∧ Uncommented a := by
  rcases processTail_eq_read.1 h with ⟨hbrace, is, his, rfl⟩ | ⟨hbrace, t, ht, rfl⟩
  · have his' : body a = .read is b := (enclosed_block _).shrinks.read his
    have hbrace' : a.head? = some '{' := by
      cases a with
      | nil => cases his'
      | cons c a => exact hbrace
    refine ⟨processTail_eq_read.2 (.inl ⟨hbrace', is, his', rfl⟩), fun c hc => ?_⟩
    rw [hbrace'] at hc
    cases hc
    decide
  · have ht' : transition.optional a = .read t b := shrinks_exit.read ht
    have hbrace' : a.head? ≠ some '{' := by
      cases a with
      | nil => simp
      | cons c a => exact hbrace
    refine ⟨processTail_eq_read.2 (.inr ⟨hbrace', t, ht', rfl⟩), ?_⟩
    rcases optional_eq_read.1 ht' with ⟨_, ht', -⟩ | ⟨-, -, rfl⟩
    · exact uncommented_of_transition ht'
    · -- Nothing was read, so the place is the one in front of `r` already.
      obtain ⟨c, hc, hword⟩ := hb
      rw [ha, Outcome.read.injEq] at hc
      rw [List.append_cancel_right hc.2]
      exact hword.uncommented

theorem spaced_processTail_of_append {id : String} {o : Option String} {x : Process}
    (h : spaced (processTail id o) (a ++ r) = .read x (b ++ r)) (hb : LeadsTo b r) :
    ∃ c, trivia (a ++ r) = .read () (c ++ r) ∧ trivia a = .read () c ∧
      processTail id o c = .read x b := by
  obtain ⟨_, s, htrivia, hx⟩ := bind_eq_read.1 h
  obtain ⟨d, rfl⟩ := exists_append_of_suffix (trims_processTail id o hx)
  obtain ⟨hread, hc⟩ := processTail_of_append hx (trivia_idem htrivia) hb
  exact ⟨d ++ b, htrivia, trivia_of_append htrivia hc, hread⟩

/-- Where no action is found in front of `r`, none is found without it: the place where it could be
is the place where the rest is. -/
theorem cuts_processAction (id : String) : Cuts r (do
    let action ← (spaced text).optional
    spaced (processTail id action)) := by
  intro a x b h hb
  obtain ⟨o, s, ho, htail⟩ := bind_eq_read.1 h
  obtain ⟨d, rfl⟩ := exists_append_of_suffix ((trims_processTail id o).spaced htail)
  obtain ⟨c, htrivia, htrivia', hread⟩ := spaced_processTail_of_append htail hb
  refine bind_eq_read.2 ⟨o, d ++ b, ?_, bind_eq_read.2 ⟨(), c, htrivia', hread⟩⟩
  rcases optional_eq_read.1 ho with ⟨t, ht, rfl⟩ | ⟨hrefused, rfl, heq⟩
  · exact optional_eq_read.2 (.inl ⟨t, shrinks_spaced_text.read ht, rfl⟩)
  · obtain rfl := List.append_cancel_right heq
    obtain ⟨s, hs, htext⟩ := spaced_eq_refused.1 hrefused
    rw [htrivia] at hs
    cases hs
    have htext' : text c = .refused := text_refused_of_append htext
    exact optional_eq_read.2 (.inr ⟨spaced_eq_refused.2 ⟨c, htrivia', htext'⟩, rfl, rfl⟩)

theorem cuts_process : Cuts r process := by
  have htrims : ∀ id, Trims (do
      let action ← (spaced text).optional
      spaced (processTail id action) : Rule Process) :=
    fun id => consumes_text.spaced.trims.optional.bind fun o => (trims_processTail id o).spaced
  rw [process_eq]
  refine .behind (shrinks_keyword _) (fun _ => ?_) fun _ =>
    consumes_expectName.spaced.trims.bind htrims
  exact .behind shrinks_spaced_expectName cuts_processAction htrims

/-! ### Elements and listings -/

theorem Introduces.cuts {w : String} {p : Rule Element} (h : Introduces w p) : Cuts r p := by
  cases h with
  | main => exact enclosed_scene.shrinks.cuts.value _
  | scene => exact enclosed_scene.shrinks.cuts.value _
  | global => exact enclosed_global.shrinks.cuts.value _
  | start => exact shrinks_terminal.cuts.value _
  | finish => exact shrinks_terminal.cuts.value _
  | breakdown => exact shrinks_terminal.cuts.value _
  | fork => exact enclosed_fork.shrinks.cuts.value _
  | process => exact cuts_process.value _
  | external => exact shrinks_external.cuts.value _
  | contact => exact enclosed_contact.shrinks.cuts.value _

theorem cuts_element : Cuts r element := by
  intro a e b h hb
  obtain ⟨w, p, s, hintro, -, hp⟩ := introduces_of_element h
  have hp' : p a = .read e b := hintro.cuts hp hb
  obtain ⟨w', s', hintro', rfl⟩ := hintro.exists_word hp'
  exact hintro'.element hp'

/-- Elements that are read in front of `r`, and trivia up to it, are a listing. -/
theorem exists_listing {s r₀ : List Char} {es : List Element}
    (h : many (spaced element) s = .read es r₀) (hr : trivia r₀ = .read () r) :
    ∃ c, s = c ++ r ∧ LeadsTo c r ∧ Listing c es := by
  cases hs : spaced element s with
  | read e s₂ =>
    have hlt := (consumes_element.spaced hs).2
    rw [many_of_read consumes_element.spaced hs] at h
    obtain ⟨es, _, hrest, heq⟩ := Outcome.bind_eq_read.1 h
    cases heq
    obtain ⟨c, rfl, hc, hlisting⟩ := exists_listing hrest hr
    obtain ⟨_, s₁, htrivia, he⟩ := bind_eq_read.1 hs
    obtain ⟨d, rfl⟩ := exists_append_of_suffix (consumes_element he).1
    have he' : element (d ++ c) = .read e c := cuts_element he hc
    have hword := (atWord_of_element he').2
    obtain ⟨t, rfl⟩ := trims_trivia htrivia
    rw [← List.append_assoc] at htrivia ⊢
    refine ⟨_, rfl, ⟨d ++ c, htrivia, hword⟩, ?_⟩
    exact .cons (trivia_of_append htrivia hword.uncommented) he' hlisting
  | refused =>
    rw [many_of_refused hs] at h
    cases h
    obtain ⟨t, rfl⟩ := trims_trivia hr
    have hend : AtWord [] := by simp [AtWord]
    exact ⟨t, rfl, ⟨[], hr, hend⟩, .done (trivia_of_append (c := []) hr hend.uncommented)⟩
  | failed e r' => rw [many_of_failed hs] at h; cases h
termination_by s.length

end Source
end Interaction
