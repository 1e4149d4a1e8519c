import Interaction.Proofs.Places
import Interaction.Proofs.Progress

/-!
# Where a source text is faulty

A rule that fails does so in front of an end of its text, and for a reason of its own; and so does
what is put together from such rules (`Blames`). Rule by rule, from the words up to the elements,
the reasons are `Inner` ones; `notAnElement` is left to the diagram. So the offset of a syntax error
is one at which a character starts or the text ends, and the message is one line (`parse_eq_error`).
-/

namespace Interaction
open Rule

namespace Fault

/-- A fault within an element. -/
def Inner : Fault → Prop
  | .stated words => words = ""
  | .missing mark => mark ≠ '\n'
  | .unclosedText quote => quote ≠ '\n'
  | .notAnElement => False
  | _ => True

/-- The words of the fault are there, and no line ends in them. -/
def OneLine (e : Fault) : Prop := e.message ≠ "" ∧ '\n' ∉ e.message.toList

theorem Inner.oneLine {e : Fault} (h : e.Inner) : e.OneLine := by
  unfold OneLine message
  cases e with
  | stated words =>
    obtain rfl : words = "" := h
    decide
  | missing mark =>
    have hmark : mark ≠ '\n' := h
    simp [Ne.symm hmark]
  | unclosedText quote =>
    have hquote : quote ≠ '\n' := h
    simp [Ne.symm hquote]
  | notAnElement => exact h.elim
  | _ => decide

end Fault

/-! ### Why a rule fails -/

namespace Rule

/-- What is left is an end of the text, also in front of a fault, and the fault satisfies `P`. -/
structure Blames {α : Type} (p : Rule α) (P : Fault → Prop) : Prop where
  trims : Trims p
  failed : ∀ ⦃s e r⦄, p s = .failed e r → r <:+ s ∧ P e

namespace Blames
variable {α β : Type} {p q : Rule α} {f : α → Rule β} {P Q : Fault → Prop}

theorem of_calm (htrims : Trims p) (h : ∀ s e r, p s ≠ .failed e r) : Blames p P :=
  ⟨htrims, fun s e r hs => absurd hs (h s e r)⟩

theorem imp (hp : Blames p P) (h : ∀ e, P e → Q e) : Blames p Q :=
  ⟨hp.trims, fun _ _ _ hs => (hp.failed hs).imp_right (h _)⟩

theorem pure (a : α) : Blames (Pure.pure a : Rule α) P := of_calm (trims_pure a) nofun

theorem fail {e : Fault} (h : P e) : Blames (fail e : Rule α) P := by
  refine ⟨(consumes_fail e).trims, ?_⟩
  rintro s _ r ⟨⟩
  exact ⟨List.suffix_rfl, h⟩

theorem bind (hp : Blames p P) (hf : ∀ a, Blames (f a) P) : Blames (p >>= f) P := by
  refine ⟨hp.trims.bind fun a => (hf a).trims, fun s e r h => ?_⟩
  rcases bind_eq_failed.1 h with h | ⟨a, r', ha, h⟩
  · exact hp.failed h
  · obtain ⟨hr, he⟩ := (hf a).failed h
    exact ⟨hr.trans (hp.trims ha), he⟩

theorem orElse (hp : Blames p P) (hq : Blames q P) : Blames (p <|> q) P := by
  refine ⟨hp.trims.orElse hq.trims, fun s e r h => ?_⟩
  rcases orElse_eq_failed.1 h with h | ⟨-, h⟩
  · exact hp.failed h
  · exact hq.failed h

/-- Another value for what is read. -/
theorem value (hp : Blames p P) (b : β) : Blames (do let _ ← p; Pure.pure b : Rule β) P :=
  hp.bind fun _ => pure b

theorem map (hp : Blames p P) (g : α → β) : Blames (g <$> p) P := hp.bind fun a => pure (g a)

theorem orFail (hp : Blames p P) {e : Fault} (h : P e) : Blames (p.orFail e) P := hp.orElse (fail h)

theorem optional (hp : Blames p P) : Blames p.optional P := (hp.map some).orElse (pure none)

theorem ite {c : Prop} [Decidable c] (hp : Blames p P) (hq : Blames q P) :
    Blames (if c then p else q) P := by
  split
  · exact hp
  · exact hq

theorem many (hp : Blames p P) : Blames (many p) P := by
  refine ⟨hp.trims.many, ?_⟩
  suffices h : ∀ clock s e r, manyWithin p clock s = .failed e r → r <:+ s ∧ P e from
    fun s e r hs => h s s e r hs
  intro clock s e r h
  fun_induction manyWithin p clock s with
  | case1 => cases h
  | case2 s a r' hread _ clock ih =>
    rcases Outcome.bind_eq_failed.1 h with h | ⟨as, r'', -, ⟨⟩⟩
    obtain ⟨hr, he⟩ := ih h
    exact ⟨hr.trans (hp.trims hread), he⟩
  | case3 => cases h
  | case4 =>
    cases h
    exact hp.failed ‹_›

end Blames
end Rule

/-! ### Trivia and words -/

namespace Source

/-! Words that are there or not are never a fault. -/

section
variable {P : Fault → Prop}

theorem blames_mark (w : String) : Blames (mark w) P := by
  refine .of_calm (trims_mark w) fun s e r h => ?_
  unfold mark at h
  split at h <;> cases h

theorem blames_blanks : Blames blanks P := by
  refine .of_calm consumes_blanks.trims fun s e r h => ?_
  unfold blanks at h
  split at h
  · cases h
  · split at h <;> cases h

theorem blames_lineRest : Blames lineRest P := by
  refine .of_calm trims_lineRest fun s e r h => ?_
  unfold lineRest at h
  split at h
  · cases h
  · split at h <;> cases h
  · cases h

theorem blames_lineComment : Blames lineComment P :=
  ((blames_mark _).orElse (blames_mark _)).bind fun _ => blames_lineRest

end

theorem blames_blockComment : Blames blockComment Fault.Inner := by
  refine ⟨consumes_blockComment.trims, fun s e r h => ?_⟩
  rcases bind_eq_failed.1 h with h | ⟨_, r', hopen, h⟩
  · exact (blames_mark _).failed h
  · split at h
    · cases h
    · cases h
      exact ⟨trims_mark _ hopen, trivial⟩

theorem blames_trivia : Blames trivia Fault.Inner :=
  (blames_blanks.orElse (blames_lineComment.orElse blames_blockComment)).many.value ()

end Source

theorem Rule.Blames.spaced {α : Type} {p : Rule α} (hp : Blames p Fault.Inner) :
    Blames (Source.spaced p) Fault.Inner :=
  Source.blames_trivia.bind fun _ => hp

namespace Source

theorem blames_wordEnd : Blames wordEnd Fault.Inner := by
  refine .of_calm (fun s _ r h => ?_) fun s e r h => ?_
  · obtain ⟨rfl, -⟩ := wordEnd_eq_read.1 h
    exact List.suffix_rfl
  · unfold wordEnd at h
    split at h
    · cases h
    · split at h <;> cases h

theorem blames_keyword (w : String) : Blames (keyword w) Fault.Inner :=
  (blames_mark w).bind fun _ => blames_wordEnd

theorem blames_name : Blames name Fault.Inner := by
  refine .of_calm consumes_name.trims fun s e r h => ?_
  unfold name at h
  split at h
  · cases h
  · split at h <;> cases h

theorem failed_textUntil {q : Char} {s r : List Char} {e : Fault}
    (h : textUntil q s = .failed e r) : e = .unclosedText q ∧ r = [] := by
  unfold textUntil at h
  split at h
  · cases h
    exact ⟨rfl, rfl⟩
  · cases h

theorem blames_text : Blames text Fault.Inner := by
  refine ⟨consumes_text.trims, fun s e r h => ?_⟩
  unfold text at h
  split at h
  · obtain ⟨rfl, rfl⟩ := failed_textUntil h
    exact ⟨List.nil_suffix, by unfold Fault.Inner; decide⟩
  · obtain ⟨rfl, rfl⟩ := failed_textUntil h
    exact ⟨List.nil_suffix, by unfold Fault.Inner; decide⟩
  · cases h

theorem blames_expectName : Blames expectName Fault.Inner := blames_name.orFail trivial

theorem blames_expectText : Blames expectText Fault.Inner := blames_text.orFail trivial

theorem blames_expectMark {c : Char} (hc : c ≠ '\n') : Blames (expectMark c) Fault.Inner := by
  refine ⟨(consumes_expectMark c).trims, fun s e r h => ?_⟩
  unfold expectMark at h
  split at h
  · cases h
    exact ⟨List.suffix_rfl, hc⟩
  · split at h
    · cases h
    · cases h
      exact ⟨List.suffix_rfl, hc⟩

theorem blames_labelled (w : String) : Blames (labelled w) Fault.Inner :=
  (blames_mark w).bind fun _ => blames_expectText.spaced

theorem blames_arrow : Blames arrow Fault.Inner :=
  ((blames_mark _).value _).orElse (((blames_mark _).value _).orElse ((blames_mark _).value _))

theorem blames_transition : Blames transition Fault.Inner :=
  blames_arrow.bind fun _ => blames_trivia.bind fun _ => blames_expectName.bind fun _ => .pure _

/-! ### Items -/

theorem blames_condition : Blames condition Fault.Inner :=
  ((blames_mark _).orElse (blames_keyword _)).bind fun _ => blames_expectText.spaced

theorem blames_tailClause : Blames tailClause Fault.Inner :=
  ((blames_mark _).bind fun _ => blames_text.spaced.bind fun _ => .pure _).orElse
    (((blames_labelled _).map _).orElse ((blames_labelled _).map _))

theorem blames_notNext (c : Char) : Blames (notNext c) Fault.Inner := by
  refine .of_calm (trims_notNext c) fun s e r h => ?_
  unfold notNext at h
  split at h
  · cases h
  · split at h <;> cases h

theorem blames_clause : Blames clause Fault.Inner :=
  (blames_condition.map _).orElse
  (((blames_keyword _).bind fun _ => (blames_notNext _).bind fun _ =>
    blames_expectText.spaced.bind fun _ => .pure _).orElse
  blames_tailClause)

theorem blames_speaker : Blames speaker Fault.Inner :=
  ((blames_mark _).value _).orElse
    (((blames_mark _).value _).orElse
      (((blames_mark _).value _).orElse ((blames_mark _).value _)))

theorem blames_exitOf (u : Utterance) (isPreferred : Bool) :
    Blames (exitOf u isPreferred) Fault.Inner := by
  refine blames_transition.spaced.optional.bind fun t => ?_
  cases t with
  | none => exact .pure _
  | some t => exact blames_tailClause.spaced.many.bind fun _ => .pure _

theorem blames_utterance : Blames utterance Fault.Inner := by
  rw [utterance_eq]
  refine Blames.bind ?_ fun preferred => Blames.bind ?_ fun _ => ?_
  · exact ((blames_keyword _).bind fun _ => blames_trivia).optional
  · cases preferred with
    | none => exact blames_speaker
    | some _ => exact blames_speaker.orFail rfl
  · exact blames_expectText.spaced.bind fun _ =>
      blames_clause.spaced.many.bind fun _ => blames_exitOf _ _

theorem blames_event : Blames event Fault.Inner :=
  (blames_labelled _).bind fun _ => blames_condition.spaced.optional.bind fun _ =>
    blames_transition.spaced.optional.bind fun _ => .pure _

theorem blames_binding : Blames binding Fault.Inner := by
  have hvalue : Blames ((text <|> Source.name).orFail .missingName) Fault.Inner :=
    (blames_text.orElse blames_name).orFail trivial
  exact (blames_keyword _).bind fun _ => (blames_mark _).optional.bind fun _ =>
    blames_name.spaced.bind fun _ => (blames_expectMark (by decide)).spaced.bind fun _ =>
      hvalue.spaced.bind fun _ => .pure _

theorem blames_grouping : Blames grouping Fault.Inner :=
  ((blames_keyword _).value _).orElse
    (((blames_keyword _).value _).orElse
      (((blames_keyword _).value _).orElse
        (((blames_keyword _).value _).orElse ((blames_keyword _).value _))))

theorem blames_flow {inner : Rule (List Item)} (h : Blames inner Fault.Inner) :
    Blames (flow inner) Fault.Inner := by
  rw [flow_eq]
  refine blames_grouping.bind fun _ => blames_trivia.bind fun _ => ?_
  refine (blames_name.optional.ite (.pure _)).bind fun _ => ?_
  refine Blames.bind ((Blames.pure _).ite blames_condition.optional) fun _ => ?_
  exact h.bind fun _ => .pure _

theorem blames_item {inner : Rule (List Item)} (h : Blames inner Fault.Inner) :
    Blames (item inner) Fault.Inner :=
  .orElse ((blames_labelled _).map _) <|
  .orElse ((blames_labelled _).map _) <|
  .orElse (blames_binding.map _) <|
  .orElse ((blames_labelled _).map _) <|
  .orElse ((blames_labelled _).map _) <|
  .orElse (blames_flow h) <|
  .orElse (blames_utterance.map _) (blames_event.map _)

theorem blames_braced {α : Type} {p : Rule α} (hp : Blames p Fault.Inner) :
    Blames (braced p) Fault.Inner :=
  (blames_expectMark (by decide)).spaced.bind fun _ => hp.spaced.many.bind fun _ =>
    (blames_expectMark (by decide)).spaced.bind fun _ => .pure _

theorem blames_block (levels : Nat) : Blames (block levels) Fault.Inner := by
  induction levels with
  | zero => exact .fail trivial
  | succ levels ih => exact blames_braced (blames_item ih)

/-! ### Elements -/

theorem blames_departure : Blames departure Fault.Inner :=
  (blames_utterance.orElse (blames_transition.map _)).map _

theorem blames_roleItem : Blames roleItem Fault.Inner := by
  have htransition : Blames (transition.orFail .unexpected) Fault.Inner :=
    blames_transition.orFail rfl
  exact (blames_keyword _).bind fun _ => htransition.spaced.bind fun _ =>
    blames_text.spaced.optional.bind fun _ => .pure _

theorem blames_contactItem : Blames contactItem Fault.Inner :=
  ((blames_labelled _).map _).orElse ((blames_roleItem.map _).orElse (blames_utterance.map _))

theorem blames_sceneBody : Blames sceneBody Fault.Inner := (blames_block _).bind fun _ => .pure _

theorem blames_sceneHead : Blames sceneHead Fault.Inner := by
  refine (blames_keyword _).optional.bind fun o => ?_
  cases o with
  | none => exact (blames_keyword _).value _
  | some _ =>
    have hscene : Blames ((mark "scene").orFail .missingScene) Fault.Inner :=
      (blames_mark _).orFail trivial
    have hend : Blames (wordEnd.orFail .missingScene) Fault.Inner := blames_wordEnd.orFail trivial
    exact hscene.spaced.bind fun _ => hend.bind fun _ => .pure _

theorem blames_sceneName : Blames sceneName Fault.Inner :=
  ((blames_keyword _).bind fun _ => blames_name.spaced.bind fun _ => .pure _).orElse
    (blames_expectName.bind fun _ => .pure _)

theorem blames_scene : Blames scene Fault.Inner :=
  blames_sceneHead.bind fun _ => blames_sceneName.spaced.bind fun _ =>
    blames_sceneBody.bind fun _ => .pure _

theorem blames_global : Blames global Fault.Inner :=
  (blames_keyword _).bind fun _ => blames_expectName.spaced.bind fun _ =>
    blames_sceneBody.bind fun _ => .pure _

theorem blames_terminal : Blames terminal Fault.Inner := by
  refine Blames.bind ?_ fun kind => blames_expectName.spaced.bind fun _ => ?_
  · exact ((blames_keyword _).value _).orElse
      (((blames_keyword _).value _).orElse ((blames_keyword _).value _))
  · refine Blames.ite (blames_trivia.bind fun _ => ?_) (.pure _)
    refine blames_transition.optional.bind fun t => ?_
    cases t with
    | some t => exact .pure _
    | none => exact (blames_braced blames_departure).bind fun _ => .pure _

theorem blames_fork : Blames fork Fault.Inner :=
  (blames_keyword _).bind fun _ => blames_expectName.spaced.bind fun _ =>
    (blames_braced blames_departure).bind fun _ => .pure _

theorem blames_isNext (c : Char) : Blames (isNext c) Fault.Inner := .of_calm (trims_isNext c) nofun

theorem blames_process : Blames process Fault.Inner := by
  refine (blames_keyword _).bind fun _ => blames_expectName.spaced.bind fun _ =>
    blames_text.spaced.optional.bind fun _ => blames_trivia.bind fun _ =>
      (blames_isNext _).bind fun _ => Blames.ite ?_ ?_
  · exact (blames_block _).bind fun _ => .pure _
  · exact blames_transition.optional.bind fun _ => .pure _

theorem blames_external : Blames external Fault.Inner :=
  (blames_keyword _).bind fun _ => blames_expectName.spaced

theorem blames_contact : Blames contact Fault.Inner :=
  (blames_keyword _).bind fun _ => blames_expectName.spaced.bind fun _ =>
    (blames_braced blames_contactItem).bind fun _ => .pure _

theorem blames_element : Blames element Fault.Inner :=
  .orElse (blames_scene.map _) <|
  .orElse (blames_global.map _) <|
  .orElse (blames_terminal.map _) <|
  .orElse (blames_fork.map _) <|
  .orElse (blames_process.map _) <|
  .orElse (blames_external.map _) (blames_contact.map _)

theorem blames_atEnd {P : Fault → Prop} : Blames atEnd P := by
  refine .of_calm (fun s _ r h => ?_) fun s e r h => ?_
  · unfold atEnd at h
    split at h
    · cases h
      exact List.suffix_rfl
    · cases h
  · unfold atEnd at h
    split at h <;> cases h

theorem blames_diagram : Blames diagram Fault.OneLine := by
  have hinner : ∀ e, Fault.Inner e → e.OneLine := fun e h => h.oneLine
  have hwords : Fault.notAnElement.OneLine := by
    unfold Fault.OneLine
    decide +kernel
  have hend : Blames (atEnd.orFail .notAnElement) Fault.OneLine := blames_atEnd.orFail hwords
  refine (blames_element.spaced.many.imp hinner).bind fun _ => ?_
  exact Blames.bind ((blames_trivia.imp hinner).bind fun _ => hend) fun _ => .pure _

end Source

/-! ### Errors of a source text -/

/-- The text is rejected at one of its characters or at its end, with one line of words. -/
theorem Diagram.parse_eq_error {source : String} {e : SyntaxError}
    (h : Diagram.parse source = .error e) : e.fault.OneLine ∧
      ∃ before behind : String, source = before ++ behind ∧ e.place = .after before.toList := by
  unfold parse at h
  cases hdiagram : Source.diagram source.toList with
  | read d r => rw [hdiagram] at h; cases h
  | refused =>
    rw [hdiagram] at h
    cases h
    refine ⟨Fault.Inner.oneLine rfl, "", source, by simp, ?_⟩
    simp [SyntaxError.before]
  | failed fault r =>
    rw [hdiagram] at h
    cases h
    obtain ⟨⟨l, hl⟩, hfault⟩ := Source.blames_diagram.failed hdiagram
    refine ⟨hfault, .ofList l, .ofList r, ?_, ?_⟩
    · rw [← String.ofList_append, hl, String.ofList_toList]
    · simp [SyntaxError.before, ← hl]

namespace SyntaxError

/-- The place of an error is what its offset says, lines and columns are in the order of offsets and
tell the position, and every rejected text is rejected at such a place. -/
theorem places_consistent (source : String) :
    (∀ offset fault, (atByte source offset fault).place.At source.toList) ∧
    (∀ before behind fault, source = before ++ behind →
      (atByte source before.utf8ByteSize fault).place.position = before.length) ∧
    (∀ offset fault, ¬ IsBoundary source offset →
      (atByte source offset fault).place.position = source.length) ∧
    (∀ offset later fault fault', IsBoundary source offset → IsBoundary source later →
      offset < later →
      (atByte source offset fault).place.Before (atByte source later fault').place) ∧
    (∀ p q : Place, p.At source.toList → q.At source.toList → p.line = q.line →
      p.column = q.column → p.position = q.position) ∧
    ∀ e, Diagram.parse source = .error e →
      e.place.At source.toList ∧ e.message ≠ "" ∧ '\n' ∉ e.message.toList ∧
        ∃ offset, IsBoundary source offset ∧ e = atByte source offset e.fault := by
  refine ⟨at_atByte source, fun before behind fault h => ?_, fun offset fault h => ?_,
    fun offset later fault fault' h hlater hlt => before_atByte h hlater hlt fault fault',
    fun p q hp hq => hp.position_eq hq, fun e h => ?_⟩
  · rw [place_atByte h]
    exact String.length_toList
  · rw [place_atByte_of_not_boundary h]
    exact String.length_toList
  · obtain ⟨⟨hmessage, hline⟩, before, behind, hsplit, hplace⟩ := Diagram.parse_eq_error h
    have he := eq_atByte hsplit hplace
    refine ⟨?_, hmessage, hline, before.utf8ByteSize, ⟨before, behind, hsplit, rfl⟩, he⟩
    rw [he]
    exact at_atByte source _ _

/-- The body is not closed, and its second line has a letter of two bytes. -/
def unclosed : String := "scene A \x7b\né"

theorem places_consistent_unclosed : ∃ e, Diagram.parse unclosed = .error e ∧
    e.place = ⟨2, 1, 10⟩ ∧ e.place.At unclosed.toList ∧ e.message ≠ "" ∧
    (atByte unclosed 11 .unexpected).place.position = unclosed.length ∧
    (atByte unclosed 10 .unexpected).place.Before (atByte unclosed 12 .unexpected).place := by
  obtain ⟨-, -, hother, hbefore, -, herror⟩ := places_consistent unclosed
  have hrejected : (Diagram.parse unclosed).map (fun _ => ()) =
      .error ⟨.missing '\x7d', ⟨2, 1, 10⟩⟩ := by decide +kernel
  have hinside : ¬ IsBoundary unclosed 11 := by
    rintro ⟨before, behind, hsplit, hsize⟩
    have hcut := bytePrefix?_append before behind
    have hnone : bytePrefix? 11 unclosed.toList = none := by decide +kernel
    rw [← hsplit, hsize, hnone] at hcut
    cases hcut
  cases hparse : Diagram.parse unclosed with
  | ok d => rw [hparse] at hrejected; cases hrejected
  | error e =>
    obtain ⟨hat, hmessage, -⟩ := herror e hparse
    rw [hparse] at hrejected
    have hplace : e.place = ⟨2, 1, 10⟩ := by rw [Except.error.inj hrejected]
    refine ⟨e, rfl, hplace, hat, hmessage, hother 11 _ hinside, ?_⟩
    exact hbefore 10 12 _ _ ⟨"scene A \x7b\n", "é", by decide, by decide⟩
      ⟨unclosed, "", by decide, by decide⟩ (by decide)

end SyntaxError
end Interaction
