import Interaction.Proofs.Words

/-!
# Every rule of the language makes progress

Rule by rule, from the words up to the elements: whatever can be repeated consumes something. The
children of a flow group are read by a rule of their own, of which it is only asked that it leaves
an end of the text; `consumes_block` closes the circle, by induction on the levels.
-/

namespace Interaction
open Rule
namespace Source

/-! ### Trivia -/

theorem consumes_blanks : Consumes blanks := by
  intro s _ r h
  unfold blanks at h
  split at h
  · cases h
  · rename_i c s
    split at h
    · cases h
      have := List.dropWhile_suffix isBlank (l := s)
      exact ⟨this.trans (List.suffix_cons c s), Nat.lt_succ_of_le this.length_le⟩
    · cases h

theorem trims_lineRest : Trims lineRest := by
  intro s _ r h
  have hs := List.dropWhile_suffix (! isBreak ·) (l := s)
  unfold lineRest at h
  split at h
  · cases h
  · rename_i heq
    split at h
    · cases h
      exact heq ▸ hs
    · cases h
  · cases h
    exact hs

theorem behindClose?_suffix {s r : List Char} (h : behindClose? s = some r) : r <:+ s := by
  fun_induction behindClose? s with
  | case1 r' =>
    cases h
    exact ⟨['*', '/'], rfl⟩
  | case2 c s _ ih => exact (ih h).trans (List.suffix_cons c s)
  | case3 => cases h

theorem consumes_lineComment : Consumes lineComment :=
  ((consumes_mark (by decide)).orElse (consumes_mark (by decide))).bind fun _ => trims_lineRest

theorem consumes_blockComment : Consumes blockComment := by
  refine (consumes_mark (by decide)).bind fun _ s _ r h => ?_
  split at h
  · rename_i hclose
    cases h
    exact behindClose?_suffix hclose
  · cases h

theorem consumes_triviaUnit : Consumes triviaUnit :=
  consumes_blanks.orElse (consumes_lineComment.orElse consumes_blockComment)

theorem trims_trivia : Trims trivia :=
  consumes_triviaUnit.trims.many.bind fun _ => trims_pure ()

end Source

theorem Rule.Trims.spaced {α : Type} {p : Rule α} (hp : Trims p) : Trims (Source.spaced p) :=
  Source.trims_trivia.bind fun _ => hp

theorem Rule.Consumes.spaced {α : Type} {p : Rule α} (hp : Consumes p) :
    Consumes (Source.spaced p) :=
  Source.trims_trivia.bind_consumes fun _ => hp

namespace Source

/-! ### Words -/

theorem consumes_keyword {w : String} (hw : w ≠ "") : Consumes (keyword w) := by
  refine (consumes_mark hw).bind fun _ s _ r h => ?_
  obtain ⟨rfl, -⟩ := wordEnd_eq_read.1 h
  exact List.suffix_rfl

theorem consumes_name : Consumes name := by
  intro s t r h
  obtain ⟨rfl, ⟨c, cs, ht, -⟩, -⟩ := name_eq_read.1 h
  rw [ht]
  exact ⟨⟨c :: cs, rfl⟩, by simp only [List.length_append, List.length_cons]; omega⟩

theorem consumes_text : Consumes text := by
  intro s t r h
  obtain ⟨q, -, -, rfl⟩ := text_eq_read.1 h
  exact ⟨⟨q :: (t.toList ++ [q]), by simp⟩, by simp; omega⟩

theorem consumes_expectMark (c : Char) : Consumes (expectMark c) := by
  intro s _ r h
  obtain rfl := expectMark_eq_read.1 h
  exact ⟨List.suffix_cons c r, Nat.lt_succ_self _⟩

theorem consumes_expectName : Consumes expectName := consumes_name.orFail _

theorem consumes_expectText : Consumes expectText := consumes_text.orFail _

theorem consumes_labelled {w : String} (hw : w ≠ "") : Consumes (labelled w) :=
  (consumes_mark hw).bind fun _ => consumes_expectText.spaced.trims

theorem consumes_arrow : Consumes arrow :=
  ((consumes_mark (by decide)).value _).orElse
    (((consumes_mark (by decide)).value _).orElse ((consumes_mark (by decide)).value _))

theorem consumes_transition : Consumes transition :=
  consumes_arrow.bind fun _ => trims_trivia.bind fun _ =>
    consumes_expectName.trims.bind fun _ => trims_pure _

/-! ### Items -/

theorem consumes_condition : Consumes condition :=
  ((consumes_mark (by decide)).orElse (consumes_keyword (by decide))).bind fun _ =>
    consumes_expectText.spaced.trims

theorem consumes_tailClause : Consumes tailClause :=
  ((consumes_mark (by decide)).bind fun _ =>
    consumes_text.spaced.trims.bind fun _ => trims_pure _).orElse
  (((consumes_labelled (by decide)).map _).orElse ((consumes_labelled (by decide)).map _))

theorem trims_notNext (c : Char) : Trims (notNext c) := by
  intro s _ r h
  obtain ⟨rfl, -⟩ := notNext_eq_read.1 h
  exact List.suffix_rfl

theorem consumes_clause : Consumes clause :=
  (consumes_condition.map _).orElse
  (((consumes_keyword (by decide)).bind fun _ => (trims_notNext ':').bind fun _ =>
    consumes_expectText.spaced.trims.bind fun _ => trims_pure _).orElse
  consumes_tailClause)

theorem consumes_speaker : Consumes speaker :=
  ((consumes_mark (by decide)).value _).orElse
    (((consumes_mark (by decide)).value _).orElse
      (((consumes_mark (by decide)).value _).orElse ((consumes_mark (by decide)).value _)))

theorem trims_exitOf (u : Utterance) (isPreferred : Bool) : Trims (exitOf u isPreferred) := by
  refine consumes_transition.spaced.trims.optional.bind fun t => ?_
  cases t with
  | none => exact trims_pure _
  | some t => exact consumes_tailClause.spaced.trims.many.bind fun _ => trims_pure _

theorem consumes_utterance : Consumes utterance := by
  rw [utterance_eq]
  refine Trims.bind_consumes ?_ fun preferred => Consumes.bind ?_ fun _ => ?_
  · exact ((consumes_keyword (by decide)).bind fun _ => trims_trivia).trims.optional
  · cases preferred with
    | none => exact consumes_speaker
    | some _ => exact consumes_speaker.orFail _
  · exact consumes_expectText.spaced.trims.bind fun _ =>
      consumes_clause.spaced.trims.many.bind fun _ => trims_exitOf _ _

theorem consumes_event : Consumes event :=
  (consumes_labelled (by decide)).bind fun _ =>
    consumes_condition.spaced.trims.optional.bind fun _ =>
      consumes_transition.spaced.trims.optional.bind fun _ => trims_pure _

theorem consumes_binding : Consumes binding :=
  (consumes_keyword (by decide)).bind fun _ => (trims_mark ":").optional.bind fun _ =>
    consumes_name.spaced.trims.bind fun _ => (consumes_expectMark '=').spaced.trims.bind fun _ =>
      ((consumes_text.orElse consumes_name).orFail _).spaced.trims.bind fun _ => trims_pure _

theorem consumes_grouping : Consumes grouping :=
  ((consumes_keyword (by decide)).value _).orElse
    (((consumes_keyword (by decide)).value _).orElse
      (((consumes_keyword (by decide)).value _).orElse
        (((consumes_keyword (by decide)).value _).orElse ((consumes_keyword (by decide)).value _))))

theorem consumes_flow {inner : Rule (List Item)} (h : Trims inner) : Consumes (flow inner) := by
  rw [flow_eq]
  exact consumes_grouping.bind fun _ => trims_trivia.bind fun _ =>
    (consumes_name.trims.optional.ite (trims_pure _)).bind fun _ =>
      ((trims_pure _).ite consumes_condition.trims.optional).bind fun _ =>
        h.bind fun _ => trims_pure _

theorem consumes_item {inner : Rule (List Item)} (h : Trims inner) : Consumes (item inner) :=
  ((consumes_labelled (by decide)).map _).orElse
  (((consumes_labelled (by decide)).map _).orElse
  ((consumes_binding.map _).orElse
  (((consumes_labelled (by decide)).map _).orElse
  (((consumes_labelled (by decide)).map _).orElse
  ((consumes_flow h).orElse
  ((consumes_utterance.map _).orElse
  (consumes_event.map _)))))))

theorem consumes_braced {α : Type} {p : Rule α} (hp : Trims p) : Consumes (braced p) :=
  (consumes_expectMark '{').spaced.bind fun _ => hp.spaced.many.bind fun _ =>
    (consumes_expectMark '}').spaced.trims.bind fun _ => trims_pure _

theorem consumes_block (levels : Nat) : Consumes (block levels) := by
  induction levels with
  | zero => exact consumes_fail _
  | succ levels ih => exact consumes_braced (consumes_item ih.trims).trims

/-! ### Elements -/

theorem consumes_departure : Consumes departure :=
  (consumes_utterance.orElse (consumes_transition.map _)).map _

theorem consumes_roleItem : Consumes roleItem :=
  (consumes_keyword (by decide)).bind fun _ => (consumes_transition.orFail _).spaced.trims.bind
    fun _ => consumes_text.spaced.trims.optional.bind fun _ => trims_pure _

theorem consumes_contactItem : Consumes contactItem :=
  ((consumes_labelled (by decide)).map _).orElse
    ((consumes_roleItem.map _).orElse (consumes_utterance.map _))

theorem trims_sceneBody : Trims sceneBody := (consumes_block _).trims.bind fun _ => trims_pure _

/-- `main` behind which `scene` follows, or `scene` alone. -/
theorem consumes_sceneHead : Consumes sceneHead := by
  have hmain : Trims (do
      spaced ((mark "scene").orFail .missingScene)
      wordEnd.orFail .missingScene
      pure true : Rule Bool) := by
    refine ((consumes_mark (by decide)).orFail _).spaced.trims.bind fun _ => ?_
    refine Trims.bind (fun s _ r h => ?_) fun _ => trims_pure _
    obtain ⟨rfl, -⟩ := wordEnd_eq_read.1 (orFail_eq_read.1 h)
    exact List.suffix_rfl
  intro s b r h
  obtain ⟨o, r', ho, hrest⟩ := bind_eq_read.1 h
  rcases optional_eq_read.1 ho with ⟨_, hword, rfl⟩ | ⟨-, rfl, rfl⟩
  · have hr' := consumes_keyword (by decide) hword
    have hr := hmain hrest
    exact ⟨hr.trans hr'.1, Nat.lt_of_le_of_lt hr.length_le hr'.2⟩
  · exact (consumes_keyword (by decide)).value _ hrest

theorem trims_sceneName : Trims sceneName :=
  ((consumes_keyword (by decide)).bind fun _ =>
    consumes_name.spaced.trims.bind fun _ => trims_pure _).trims.orElse
  (consumes_expectName.bind fun _ => trims_pure _).trims

theorem consumes_scene : Consumes scene :=
  consumes_sceneHead.bind fun _ => trims_sceneName.spaced.bind fun _ =>
    trims_sceneBody.bind fun _ => trims_pure _

theorem consumes_global : Consumes global :=
  (consumes_keyword (by decide)).bind fun _ => consumes_expectName.spaced.trims.bind fun _ =>
    trims_sceneBody.bind fun _ => trims_pure _

theorem consumes_terminal : Consumes terminal := by
  refine Consumes.bind ?_ fun kind => consumes_expectName.spaced.trims.bind fun _ => ?_
  · exact ((consumes_keyword (by decide)).value _).orElse
      (((consumes_keyword (by decide)).value _).orElse ((consumes_keyword (by decide)).value _))
  · refine Trims.ite (trims_trivia.bind fun _ => ?_) (trims_pure _)
    refine consumes_transition.trims.optional.bind fun t => ?_
    cases t with
    | some t => exact trims_pure _
    | none => exact (consumes_braced consumes_departure.trims).trims.bind fun _ => trims_pure _

theorem consumes_fork : Consumes fork :=
  (consumes_keyword (by decide)).bind fun _ => consumes_expectName.spaced.trims.bind fun _ =>
    (consumes_braced consumes_departure.trims).trims.bind fun _ => trims_pure _

theorem trims_isNext (c : Char) : Trims (isNext c) := by
  intro s _ r h
  cases h
  exact List.suffix_rfl

theorem consumes_process : Consumes process := by
  refine (consumes_keyword (by decide)).bind fun _ => consumes_expectName.spaced.trims.bind
    fun _ => consumes_text.spaced.trims.optional.bind fun _ => trims_trivia.bind fun _ =>
      (trims_isNext '{').bind fun _ => Trims.ite ?_ ?_
  · exact (consumes_block _).trims.bind fun _ => trims_pure _
  · exact consumes_transition.trims.optional.bind fun _ => trims_pure _

theorem consumes_external : Consumes external :=
  (consumes_keyword (by decide)).bind fun _ => consumes_expectName.spaced.trims

theorem consumes_contact : Consumes contact :=
  (consumes_keyword (by decide)).bind fun _ => consumes_expectName.spaced.trims.bind fun _ =>
    (consumes_braced consumes_contactItem.trims).trims.bind fun _ => trims_pure _

theorem consumes_element : Consumes element :=
  (consumes_scene.map _).orElse
  ((consumes_global.map _).orElse
  ((consumes_terminal.map _).orElse
  ((consumes_fork.map _).orElse
  ((consumes_process.map _).orElse
  ((consumes_external.map _).orElse
  (consumes_contact.map _))))))

end Source
end Interaction
