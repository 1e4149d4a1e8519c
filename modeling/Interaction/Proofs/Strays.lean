import Interaction.Proofs.CutShort
import Interaction.Proofs.TriviaUnits

/-!
# Where no element stands

Behind a word that introduces an element nothing is refused (`keyword_of_element_refused`), and
behind trivia no more trivia starts. So the repetition of elements stops in front of text that is
neither, and what has been read up to there is a diagram of its own (`parse_invalidElement`).
-/

namespace Interaction
open Rule
namespace Source

/-- The words that introduce an element. -/
def openingWords : List String :=
  ["main", "scene", "global", "start", "end", "break", "fork", "process", "external", "contact"]

variable {s r : List Char}

/-! ### Nothing is refused behind a word -/

theorem commits_departures : Commits (braced departure) := commits_braced departure

theorem commits_body : Commits body := commits_block _

theorem commits_sceneBody : Commits sceneBody := commits_body.bind fun _ => commits_pure _

theorem commits_sceneName : Commits sceneName := fun s h =>
  commits_expectName.bind (fun _ => commits_pure _) s (orElse_eq_refused.1 h).2

theorem commits_startTail (id : String) : Commits (startTail id) := by
  refine Commits.bind (optional_ne_refused _) fun o => ?_
  cases o with
  | some t => exact commits_pure _
  | none => exact commits_departures.bind fun _ => commits_pure _

theorem commits_processTail (id : String) (o : Option String) : Commits (processTail id o) := by
  refine Commits.bind nofun fun b => ?_
  split
  · exact commits_body.bind fun _ => commits_pure _
  · exact Commits.bind (optional_ne_refused _) fun _ => commits_pure _

theorem keywords_of_scene_refused (h : scene s = .refused) :
    keyword "main" s = .refused ∧ keyword "scene" s = .refused := by
  have hhead : sceneHead s = .refused := refused_of_bind (fun _ =>
    commits_sceneName.spaced.bind fun _ => commits_sceneBody.bind fun _ => commits_pure _) h
  rcases bind_eq_refused.1 hhead with h | ⟨o, r, ho, hrest⟩
  · exact absurd h (optional_ne_refused _ _)
  rcases optional_eq_read.1 ho with ⟨_, -, rfl⟩ | ⟨hmain, rfl, rfl⟩
  · -- Behind `main`, the word `scene` has to follow.
    have hscene : Commits (do
        spaced ((mark "scene").orFail .missingScene)
        wordEnd.orFail .missingScene
        pure true : Rule Bool) := by
      refine Commits.bind (Commits.spaced (orFail_ne_refused _ _)) fun _ => ?_
      exact Commits.bind (orFail_ne_refused _ _) fun _ => commits_pure _
    exact absurd hrest (hscene r)
  · exact ⟨hmain, refused_of_bind (fun _ => commits_pure false) hrest⟩

theorem keywords_of_terminal_refused (h : terminal s = .refused) :
    keyword "start" s = .refused ∧ keyword "end" s = .refused ∧ keyword "break" s = .refused := by
  rw [terminal_eq] at h
  have hkind : terminalKind s = .refused := by
    refine refused_of_bind (fun kind => commits_expectName.spaced.bind fun id => ?_) h
    split
    · exact (commits_startTail id).spaced
    · exact commits_pure _
  obtain ⟨hstart, hkind⟩ := orElse_eq_refused.1 hkind
  obtain ⟨hend, hbreak⟩ := orElse_eq_refused.1 hkind
  exact ⟨refused_of_bind (fun _ => commits_pure _) hstart,
    refused_of_bind (fun _ => commits_pure _) hend, refused_of_bind (fun _ => commits_pure _) hbreak⟩

theorem keyword_of_global_refused (h : global s = .refused) : keyword "global" s = .refused :=
  refused_of_bind (fun _ => commits_expectName.spaced.bind fun _ =>
    commits_sceneBody.bind fun _ => commits_pure _) h

theorem keyword_of_fork_refused (h : fork s = .refused) : keyword "fork" s = .refused :=
  refused_of_bind (fun _ => commits_expectName.spaced.bind fun _ =>
    commits_departures.bind fun _ => commits_pure _) h

theorem keyword_of_process_refused (h : process s = .refused) :
    keyword "process" s = .refused := by
  rw [process_eq] at h
  refine refused_of_bind (fun _ => commits_expectName.spaced.bind fun id => ?_) h
  exact Commits.bind (optional_ne_refused _) fun o => (commits_processTail id o).spaced

theorem keyword_of_external_refused (h : external s = .refused) :
    keyword "external" s = .refused :=
  refused_of_bind (fun _ => commits_expectName.spaced) h

theorem keyword_of_contact_refused (h : contact s = .refused) :
    keyword "contact" s = .refused :=
  refused_of_bind (fun _ => commits_expectName.spaced.bind fun _ =>
    (commits_braced _).bind fun _ => commits_pure _) h

/-- A text that is no element does not start with a word that introduces one. -/
theorem keyword_of_element_refused (h : element s = .refused) :
    ∀ w ∈ openingWords, keyword w s = .refused := by
  obtain ⟨hscene, h⟩ := orElse_eq_refused.1 h
  obtain ⟨hglobal, h⟩ := orElse_eq_refused.1 h
  obtain ⟨hterminal, h⟩ := orElse_eq_refused.1 h
  obtain ⟨hfork, h⟩ := orElse_eq_refused.1 h
  obtain ⟨hprocess, h⟩ := orElse_eq_refused.1 h
  obtain ⟨hexternal, hcontact⟩ := orElse_eq_refused.1 h
  obtain ⟨hmain, hscene⟩ := keywords_of_scene_refused (map_eq_refused.1 hscene)
  obtain ⟨hstart, hend, hbreak⟩ := keywords_of_terminal_refused (map_eq_refused.1 hterminal)
  have hglobal := keyword_of_global_refused (map_eq_refused.1 hglobal)
  have hfork := keyword_of_fork_refused (map_eq_refused.1 hfork)
  have hprocess := keyword_of_process_refused (map_eq_refused.1 hprocess)
  have hexternal := keyword_of_external_refused (map_eq_refused.1 hexternal)
  have hcontact := keyword_of_contact_refused (map_eq_refused.1 hcontact)
  simp [openingWords, hmain, hscene, hglobal, hstart, hend, hbreak, hfork, hprocess, hexternal,
    hcontact]

/-! ### The fault of a diagram -/

/-- In front of the text that is left, a diagram goes as far as it can: up to there it is one, and no
element and no trivia is behind. -/
structure Stray (s r : List Char) : Prop where
  listing : ∃ c es, s = c ++ r ∧ Listing c es
  ne_nil : r ≠ []
  element : element r = .refused
  trivia : triviaUnit r = .refused

/-- A fault of a diagram is one within an element or in trivia, or it is that behind its elements
and trivia there is more text. -/
theorem diagram_eq_failed {e : Fault} (h : diagram s = .failed e r) :
    e.Inner ∨ e = .notAnElement ∧ Stray s r := by
  rcases bind_eq_failed.1 h with h | ⟨es, r₀, hes, h⟩
  · exact .inl (blames_element.spaced.many.failed h).2
  rcases bind_eq_failed.1 h with h | ⟨_, r₁, -, ⟨⟩⟩
  rcases bind_eq_failed.1 h with h | ⟨_, r₁, htrivia, h⟩
  · exact .inl (blames_trivia.failed h).2
  rcases orElse_eq_failed.1 h with h | ⟨hend, h⟩
  · exact .inl (blames_atEnd.failed h).2
  cases h
  have hne : r ≠ [] := by
    rintro rfl
    cases hend
  obtain ⟨c, hsplit, -, hlisting⟩ := exists_listing hes htrivia
  obtain ⟨s', hs', hrefused⟩ := spaced_eq_refused.1 (refused_of_many consumes_element.spaced hes)
  rw [htrivia] at hs'
  cases hs'
  exact .inr ⟨rfl, ⟨c, es, hsplit, hlisting⟩, hne, hrefused, triviaUnit_refused_of_trivia htrivia⟩

end Source

open Source

/-- No other message has these words. -/
theorem Fault.Inner.not_invalidElement {e : Fault} (h : e.Inner) :
    ¬ "invalid element".toList <+: e.message.toList := by
  unfold message
  cases e with
  | stated words =>
    obtain rfl : words = "" := h
    decide
  | missing mark => simp [String.toList_append]
  | unclosedText quote => simp [String.toList_append]
  | notAnElement => exact h.elim
  | _ => decide

/-- An error of this message shows where the source stops to be a diagram: what is in front of it is
one, and behind it is neither trivia nor a word that introduces an element. -/
theorem Diagram.parse_invalidElement {source : String} {e : SyntaxError}
    (h : parse source = .error e) (hwords : "invalid element".toList <+: e.message.toList) :
    ∃ before behind : String, source = before ++ behind ∧ before.length = e.place.position ∧
      (∃ d, parse before = .ok d) ∧ behind ≠ "" ∧ Untrivial behind.toList ∧
      ∀ w ∈ openingWords, ∀ r, behind.toList = w.toList ++ r → ¬ EndsWord r := by
  obtain ⟨fault, r, hfailed, rfl⟩ := parse_eq_error_iff.1 h
  rcases diagram_eq_failed hfailed with hinner | ⟨rfl, hstray⟩
  · exact absurd hwords hinner.not_invalidElement
  obtain ⟨c, es, hsplit, hlisting⟩ := hstray.listing
  refine ⟨.ofList c, .ofList r, ?_, ?_, ⟨⟨es⟩, ?_⟩, ?_, ?_, fun w hw r' heq hend => ?_⟩
  · rw [← String.ofList_append, ← hsplit, String.ofList_toList]
  · simp [SyntaxError.before, Place.after, hsplit]
  · rw [parse_eq_ok_iff_listing, String.toList_ofList]
    exact hlisting
  · simpa using hstray.ne_nil
  · rw [String.toList_ofList]
    exact untrivial_of_refused hstray.trivia
  · rw [String.toList_ofList] at heq
    have hread : keyword w r = .read () r' := keyword_eq_read.2 ⟨heq, hend⟩
    rw [keyword_of_element_refused hstray.element w hw] at hread
    cases hread

/-- A process without an arrow, and behind its trivia a line comment that is none. -/
def stray : String := "external B // C\nprocess A /* -> C */ %c\rprocess"

theorem Diagram.parse_invalidElement_stray : ∃ e, parse stray = .error e ∧
    "invalid element".toList <+: e.message.toList ∧ e.place.position = 37 ∧
    ∃ before behind : String, stray = before ++ behind ∧ before.length = 37 ∧
      (∃ d, parse before = .ok d) ∧ behind ≠ "" ∧ Untrivial behind.toList ∧
      ∀ w ∈ openingWords, ∀ r, behind.toList = w.toList ++ r → ¬ EndsWord r := by
  have hrejected : (parse stray).map (fun _ => ()) = .error ⟨.notAnElement, ⟨2, 22, 37⟩⟩ := by
    decide +kernel
  cases hparse : parse stray with
  | ok d => rw [hparse] at hrejected; cases hrejected
  | error e =>
    rw [hparse] at hrejected
    obtain rfl : e = ⟨.notAnElement, ⟨2, 22, 37⟩⟩ := Except.error.inj hrejected
    have hwords : "invalid element".toList <+: Fault.notAnElement.message.toList := by
      decide +kernel
    exact ⟨_, rfl, hwords, rfl, parse_invalidElement hparse hwords⟩

end Interaction
