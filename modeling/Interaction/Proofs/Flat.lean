import Interaction.Proofs.Locality
import Interaction.Proofs.Agreement

/-!
# How the rules are put together

All rules up to the items of a body are `Flat`: words (`Word`) and trivia, one behind the other, by
choice or any number of times. Braces come in only above them (`Nested`). What holds of words and
trivia and goes over to what is put together holds of every rule of the language, by induction on
how it is put together. First such property: what a rule reads is whole (`ReadsWhole`), so no text
in quotes and no comment is open behind it, except a line comment at the end.
-/

namespace Interaction
open Rule
namespace Source

/-- No text in quotes and no comment goes on behind the text. -/
def Whole (x : List Char) : Prop := ∀ a, Mode.plain.behind (x ++ a) = Mode.plain.behind a

namespace Whole
variable {x y a : List Char} {w : Char}

theorem nil : Whole [] := fun _ => rfl

theorem append (hx : Whole x) (hy : Whole y) : Whole (x ++ y) := by
  intro a
  rw [List.append_assoc, hx, hy]

theorem of_solid (hx : ∀ c ∈ x, isSolid c = true) : Whole x := fun _ => Mode.behind_plain_solid hx

theorem of_isTrivia (hx : IsTrivia x) : Whole x := by
  intro a
  induction hx with
  | nil => rfl
  | blank hc _ ih => rw [List.cons_append, Mode.behind_plain_blank hc, ih]
  | @line m e x t hm hx he _ ih =>
    have hline : Mode.plain.behind (m.toList ++ (x ++ (e.toList ++ (t ++ a)))) =
        Mode.line.behind (x ++ (e.toList ++ (t ++ a))) := by
      rcases hm with rfl | rfl <;> rfl
    have hend : Mode.line.behind (e.toList ++ (t ++ a)) = Mode.plain.behind (t ++ a) := by
      rcases he with rfl | rfl <;> rfl
    simp only [List.append_assoc]
    rw [hline, Mode.behind_line hx, hend, ih]
  | @block x t hx _ ih =>
    have hblock : Mode.plain.behind ('/' :: '*' :: (x ++ '*' :: '/' :: (t ++ a))) =
        Mode.block.behind (x ++ '*' :: '/' :: (t ++ a)) := rfl
    simp only [List.cons_append, List.append_assoc]
    rw [hblock, Mode.behind_block_close hx, ih]

/-- Behind a whole text it is as at its beginning. -/
theorem outside_append (hx : Whole x) : Outside (x ++ a) w ↔ Outside a w := by
  rw [Outside, Outside, hx]

theorem outside (hx : Whole x) : Outside x w := by
  have h := hx.outside_append (a := []) (w := w)
  rw [List.append_nil] at h
  exact h.2 (.inl rfl)

end Whole

/-- What the rule reads in front of more text is whole. -/
def ReadsWhole {α : Type} (p : Rule α) : Prop :=
  ∀ ⦃s x r⦄, p s = .read x r → r ≠ [] → ∃ c, s = c ++ r ∧ Whole c

section
variable {α β : Type} {p q : Rule α} {f : α → Rule β}

namespace ReadsWhole

/-- A rule that only looks. -/
theorem of_same (h : ∀ ⦃s x r⦄, p s = .read x r → r = s) : ReadsWhole p := by
  intro s x r hread _
  obtain rfl := h hread
  exact ⟨[], rfl, .nil⟩

theorem bind (hp : ReadsWhole p) (hf : ∀ x, ReadsWhole (f x)) : ReadsWhole (p >>= f) := by
  intro s y r h hr
  obtain ⟨x, r', hx, hy⟩ := bind_eq_read.1 h
  obtain ⟨d, rfl, hd⟩ := hf x hy hr
  have hr' : d ++ r ≠ [] := by simp [hr]
  obtain ⟨c, rfl, hc⟩ := hp hx hr'
  exact ⟨c ++ d, by simp, hc.append hd⟩

theorem orElse (hp : ReadsWhole p) (hq : ReadsWhole q) : ReadsWhole (p <|> q) := by
  intro s x r h hr
  rcases orElse_eq_read.1 h with h | ⟨-, h⟩
  · exact hp h hr
  · exact hq h hr

theorem many (hp : ReadsWhole p) (hc : Consumes p) : ReadsWhole (many p) := by
  intro s xs r h hr
  cases hs : p s with
  | read x r' =>
    have hlt := (hc hs).2
    rw [many_of_read hc hs] at h
    obtain ⟨ys, r'', hys, heq⟩ := Outcome.bind_eq_read.1 h
    cases heq
    obtain ⟨d, rfl, hd⟩ := many hp hc hys hr
    have hr' : d ++ r ≠ [] := by simp [hr]
    obtain ⟨c, rfl, hc'⟩ := hp hs hr'
    exact ⟨c ++ d, by simp, hc'.append hd⟩
  | refused =>
    rw [many_of_refused hs] at h
    cases h
    exact ⟨[], rfl, .nil⟩
  | failed e r' => rw [many_of_failed hs] at h; cases h
termination_by s => s.length

end ReadsWhole

theorem readsWhole_trivia : ReadsWhole trivia := by
  intro s _ r h hr
  obtain ⟨t, ht, heq | ⟨rfl, -⟩⟩ := trivia_eq_read h
  · exact ⟨t, heq, .of_isTrivia ht⟩
  · exact absurd rfl hr

theorem readsWhole_expectMark {c : Char} (hc : isSolid c = true) : ReadsWhole (expectMark c) :=
  fun _ _ _ h _ => ⟨[c], expectMark_eq_read.1 h, .of_solid (by simpa using hc)⟩

end

/-- The rules that read a word, or look at what is next. None of them takes a blank or a closing
brace, except in quotes. -/
inductive Word : {α : Type} → Rule α → Prop
  | pure {α : Type} (x : α) : Word (pure x)
  | fail {α : Type} (e : Fault) : Word (fail e : Rule α)
  | mark {w : String} (hw : w.toList.all isInner = true) : Word (mark w)
  | wordEnd : Word wordEnd
  | notNext {c : Char} (hc : isInner c = true) : Word (notNext c)
  | isNext {c : Char} (hc : isInner c = true) : Word (isNext c)
  | expectMark {c : Char} (hc : isInner c = true) : Word (expectMark c)
  | name : Word name
  | text : Word text

/-- The rule is put together from words and trivia. -/
inductive Flat : {α : Type} → Rule α → Prop
  | word {α : Type} {p : Rule α} (hp : Word p) : Flat p
  | trivia : Flat trivia
  | bind {α β : Type} {p : Rule α} {f : α → Rule β} (hp : Flat p) (hf : ∀ x, Flat (f x)) :
    Flat (p >>= f)
  | orElse {α : Type} {p q : Rule α} (hp : Flat p) (hq : Flat q) : Flat (p <|> q)
  | many {α : Type} {p : Rule α} (hp : Flat p) (hc : Consumes p) : Flat (many p)

section
variable {α β : Type} {p q : Rule α} {f : α → Rule β}

namespace Word

theorem isLocal (hp : Word p) : Local p := by
  cases hp with
  | pure x => exact local_pure x
  | fail e => exact local_fail e
  | mark hw => exact local_mark hw
  | wordEnd => exact local_wordEnd
  | notNext hc => exact local_notNext hc
  | isNext _ => exact local_isNext _
  | expectMark hc => exact local_expectMark hc
  | name => exact local_name
  | text => exact local_text

theorem readsWhole (hp : Word p) : ReadsWhole p := by
  cases hp with
  | pure x => exact .of_same (by rintro s _ r ⟨⟩; rfl)
  | fail e => exact .of_same (by rintro s _ r ⟨⟩)
  | @mark w hw =>
    intro s _ r h _
    have hsolid : ∀ c ∈ w.toList, isSolid c = true :=
      fun c hc => isSolid_of_isInner (List.all_eq_true.1 hw c hc)
    exact ⟨w.toList, mark_eq_read.1 h, .of_solid hsolid⟩
  | wordEnd => exact .of_same fun _ _ _ h => (wordEnd_eq_read.1 h).1
  | notNext _ => exact .of_same fun _ _ _ h => (notNext_eq_read.1 h).1
  | isNext _ => exact .of_same (by rintro s _ r ⟨⟩; rfl)
  | expectMark hc => exact readsWhole_expectMark (isSolid_of_isInner hc)
  | name =>
    intro s t r h _
    obtain ⟨hs, hname, -⟩ := name_eq_read.1 h
    exact ⟨t.toList, hs, .of_solid fun c hc => isSolid_of_isNameChar (hname.isNameChar c hc)⟩
  | text =>
    intro s t r h _
    obtain ⟨q, hq, hmem, rfl⟩ := text_eq_read.1 h
    refine ⟨q :: (t.toList ++ [q]), by simp, fun a => ?_⟩
    rw [List.cons_append, Mode.behind_quote hq, List.append_assoc]
    exact Mode.behind_quoted_close hmem

end Word

namespace Flat

theorem readsWhole (hp : Flat p) : ReadsWhole p := by
  induction hp with
  | word hp => exact hp.readsWhole
  | trivia => exact readsWhole_trivia
  | bind _ _ ihp ihf => exact ihp.bind ihf
  | orElse _ _ ihp ihq => exact ihp.orElse ihq
  | many _ hc ihp => exact ihp.many hc

/-- A relation between texts that the words and trivia respect. -/
theorem steady {R : List Char → List Char → Prop}
    (hword : ∀ {α : Type} {p : Rule α}, Word p → Steady R p) (htrivia : Steady R Source.trivia)
    (hp : Flat p) : Steady R p := by
  induction hp with
  | word hp => exact hword hp
  | trivia => exact htrivia
  | bind _ _ ihp ihf => exact ihp.bind ihf
  | orElse _ _ ihp ihq => exact ihp.orElse ihq
  | many _ hc ihp => exact ihp.many hc

end Flat

theorem flat_pure (x : α) : Flat (pure x : Rule α) := .word (.pure x)

theorem flat_fail (e : Fault) : Flat (fail e : Rule α) := .word (.fail e)

namespace Flat

/-- Another value for what is read. -/
theorem value (hp : Flat p) (b : β) : Flat (do let _ ← p; pure b : Rule β) :=
  hp.bind fun _ => flat_pure b

theorem map (hp : Flat p) (g : α → β) : Flat (g <$> p) := hp.bind fun x => flat_pure (g x)

theorem orFail (hp : Flat p) (e : Fault) : Flat (p.orFail e) := hp.orElse (flat_fail e)

theorem optional (hp : Flat p) : Flat p.optional := (hp.map some).orElse (flat_pure none)

theorem ite {c : Prop} [Decidable c] (hp : Flat p) (hq : Flat q) : Flat (if c then p else q) := by
  split
  · exact hp
  · exact hq

theorem spaced (hp : Flat p) : Flat (spaced p) := Flat.trivia.bind fun _ => hp

end Flat

end

/-! ### Words -/

theorem flat_mark {w : String} (hw : w.toList.all isInner = true) : Flat (mark w) :=
  .word (.mark hw)

theorem flat_wordEnd : Flat wordEnd := .word .wordEnd

theorem flat_notNext {c : Char} (hc : isInner c = true) : Flat (notNext c) := .word (.notNext hc)

theorem flat_isNext {c : Char} (hc : isInner c = true) : Flat (isNext c) := .word (.isNext hc)

theorem flat_expectMark {c : Char} (hc : isInner c = true) : Flat (expectMark c) :=
  .word (.expectMark hc)

theorem flat_name : Flat name := .word .name

theorem flat_text : Flat text := .word .text

theorem flat_keyword {w : String} (hw : w.toList.all isInner = true) : Flat (keyword w) :=
  (flat_mark hw).bind fun _ => flat_wordEnd

theorem flat_expectName : Flat expectName := flat_name.orFail _

theorem flat_expectText : Flat expectText := flat_text.orFail _

theorem flat_labelled {w : String} (hw : w.toList.all isInner = true) : Flat (labelled w) :=
  (flat_mark hw).bind fun _ => flat_expectText.spaced

theorem flat_arrow : Flat arrow :=
  ((flat_mark (by decide)).value _).orElse
    (((flat_mark (by decide)).value _).orElse ((flat_mark (by decide)).value _))

theorem flat_transition : Flat transition :=
  flat_arrow.bind fun _ => Flat.trivia.bind fun _ => flat_expectName.bind fun _ => flat_pure _

/-! ### Items -/

theorem flat_condition : Flat condition :=
  ((flat_mark (by decide)).orElse (flat_keyword (by decide))).bind fun _ => flat_expectText.spaced

theorem flat_tailClause : Flat tailClause :=
  ((flat_mark (by decide)).bind fun _ => flat_text.spaced.bind fun _ => flat_pure _).orElse
  (((flat_labelled (by decide)).map _).orElse ((flat_labelled (by decide)).map _))

theorem flat_clause : Flat clause :=
  (flat_condition.map _).orElse
  (((flat_keyword (by decide)).bind fun _ => (flat_notNext (by decide)).bind fun _ =>
    flat_expectText.spaced.bind fun _ => flat_pure _).orElse
  flat_tailClause)

theorem flat_speaker : Flat speaker :=
  ((flat_mark (by decide)).value _).orElse
    (((flat_mark (by decide)).value _).orElse
      (((flat_mark (by decide)).value _).orElse ((flat_mark (by decide)).value _)))

theorem flat_exitOf (u : Utterance) (isPreferred : Bool) : Flat (exitOf u isPreferred) := by
  refine flat_transition.spaced.optional.bind fun t => ?_
  cases t with
  | none => exact flat_pure _
  | some t =>
    exact (flat_tailClause.spaced.many consumes_tailClause.spaced).bind fun _ => flat_pure _

theorem flat_utterance : Flat utterance := by
  rw [utterance_eq]
  refine Flat.bind ?_ fun preferred => Flat.bind ?_ fun _ => ?_
  · exact ((flat_keyword (by decide)).bind fun _ => Flat.trivia).optional
  · cases preferred with
    | none => exact flat_speaker
    | some _ => exact flat_speaker.orFail _
  · exact flat_expectText.spaced.bind fun _ =>
      (flat_clause.spaced.many consumes_clause.spaced).bind fun _ => flat_exitOf _ _

theorem flat_event : Flat event :=
  (flat_labelled (by decide)).bind fun _ => flat_condition.spaced.optional.bind fun _ =>
    flat_transition.spaced.optional.bind fun _ => flat_pure _

theorem flat_binding : Flat binding :=
  (flat_keyword (by decide)).bind fun _ => (flat_mark (by decide)).optional.bind fun _ =>
    flat_name.spaced.bind fun _ => (flat_expectMark (by decide)).spaced.bind fun _ =>
      ((flat_text.orElse flat_name).orFail _).spaced.bind fun _ => flat_pure _

theorem flat_grouping : Flat grouping :=
  ((flat_keyword (by decide)).value _).orElse
    (((flat_keyword (by decide)).value _).orElse
      (((flat_keyword (by decide)).value _).orElse
        (((flat_keyword (by decide)).value _).orElse ((flat_keyword (by decide)).value _))))

theorem flat_departure : Flat departure :=
  (flat_utterance.orElse (flat_transition.map _)).map _

theorem flat_roleItem : Flat roleItem :=
  (flat_keyword (by decide)).bind fun _ => (flat_transition.orFail _).spaced.bind fun _ =>
    flat_text.spaced.optional.bind fun _ => flat_pure _

theorem flat_contactItem : Flat contactItem :=
  ((flat_labelled (by decide)).map _).orElse
    ((flat_roleItem.map _).orElse (flat_utterance.map _))

/-! ### Heads of elements -/

theorem flat_sceneHead : Flat sceneHead := by
  refine (flat_keyword (by decide)).optional.bind fun o => ?_
  cases o with
  | none => exact (flat_keyword (by decide)).value _
  | some _ =>
    exact ((flat_mark (by decide)).orFail _).spaced.bind fun _ =>
      (flat_wordEnd.orFail _).bind fun _ => flat_pure _

theorem flat_sceneName : Flat sceneName :=
  ((flat_keyword (by decide)).bind fun _ => flat_name.spaced.bind fun _ => flat_pure _).orElse
    (flat_expectName.bind fun _ => flat_pure _)

theorem flat_terminalKind : Flat terminalKind :=
  ((flat_keyword (by decide)).value _).orElse
    (((flat_keyword (by decide)).value _).orElse ((flat_keyword (by decide)).value _))

/-! ### Braces -/

/-- The rule is put together from flat ones, by braces too. -/
inductive Nested : {α : Type} → Rule α → Prop
  | flat {α : Type} {p : Rule α} (hp : Flat p) : Nested p
  | bind {α β : Type} {p : Rule α} {f : α → Rule β} (hp : Nested p) (hf : ∀ x, Nested (f x)) :
    Nested (p >>= f)
  | orElse {α : Type} {p q : Rule α} (hp : Nested p) (hq : Nested q) : Nested (p <|> q)
  | braced {α : Type} {p : Rule α} (hp : Nested p) (hc : Consumes p) : Nested (braced p)

section
variable {α β : Type} {p q : Rule α} {R : List Char → List Char → Prop}

theorem ReadsWhole.spaced (hp : ReadsWhole p) : ReadsWhole (spaced p) :=
  readsWhole_trivia.bind fun _ => hp

theorem ReadsWhole.braced (hp : ReadsWhole p) (hc : Consumes p) : ReadsWhole (braced p) :=
  (readsWhole_expectMark (by decide)).spaced.bind fun _ => (hp.spaced.many hc.spaced).bind fun _ =>
    (readsWhole_expectMark (by decide)).spaced.bind fun _ => (flat_pure _).readsWhole

namespace Nested

theorem map (hp : Nested p) (g : α → β) : Nested (g <$> p) :=
  hp.bind fun x => .flat (flat_pure (g x))

theorem readsWhole (hp : Nested p) : ReadsWhole p := by
  induction hp with
  | flat hp => exact hp.readsWhole
  | bind _ _ ihp ihf => exact ihp.bind ihf
  | orElse _ _ ihp ihq => exact ihp.orElse ihq
  | braced _ hc ihp => exact ihp.braced hc

/-- A relation that the closing brace respects too. -/
theorem steady (hword : ∀ {α : Type} {p : Rule α}, Word p → Steady R p)
    (htrivia : Steady R trivia) (hclose : Steady R (expectMark '}')) (hp : Nested p) :
    Steady R p := by
  induction hp with
  | flat hp => exact hp.steady hword htrivia
  | bind _ _ ihp ihf => exact ihp.bind ihf
  | orElse _ _ ihp ihq => exact ihp.orElse ihq
  | braced _ hc ihp =>
    have hopen : Steady R (spaced (expectMark '{')) :=
      htrivia.bind fun _ => hword (.expectMark (by decide))
    refine hopen.bind fun _ => Steady.bind ?_ fun _ => ?_
    · exact Steady.many (htrivia.bind fun _ => ihp) hc.spaced
    · exact (htrivia.bind fun _ => hclose).bind fun _ => steady_pure _

end Nested

end

theorem nested_flow {inner : Rule (List Item)} (h : Nested inner) : Nested (flow inner) := by
  rw [flow_eq]
  refine .bind (.flat flat_grouping) fun _ => .bind (.flat .trivia) fun _ => ?_
  refine .bind (.flat (flat_name.optional.ite (flat_pure _))) fun _ => ?_
  refine .bind (.flat ((flat_pure _).ite flat_condition.optional)) fun _ => ?_
  exact h.bind fun _ => .flat (flat_pure _)

theorem nested_item {inner : Rule (List Item)} (h : Nested inner) : Nested (item inner) :=
  .orElse (.flat ((flat_labelled (by decide)).map _)) <|
  .orElse (.flat ((flat_labelled (by decide)).map _)) <|
  .orElse (.flat (flat_binding.map _)) <|
  .orElse (.flat ((flat_labelled (by decide)).map _)) <|
  .orElse (.flat ((flat_labelled (by decide)).map _)) <|
  .orElse (nested_flow h) <|
  .orElse (.flat (flat_utterance.map _)) (.flat (flat_event.map _))

theorem nested_block (levels : Nat) : Nested (block levels) := by
  induction levels with
  | zero => exact .flat (flat_fail _)
  | succ levels ih => exact .braced (nested_item ih) (consumes_item (consumes_block levels).trims)

theorem nested_sceneBody : Nested sceneBody :=
  (nested_block _).bind fun _ => .flat (flat_pure _)

theorem nested_scene : Nested scene :=
  .bind (.flat flat_sceneHead) fun _ => .bind (.flat flat_sceneName.spaced) fun _ =>
    nested_sceneBody.bind fun _ => .flat (flat_pure _)

theorem nested_global : Nested global :=
  .bind (.flat (flat_keyword (by decide))) fun _ => .bind (.flat flat_expectName.spaced) fun _ =>
    nested_sceneBody.bind fun _ => .flat (flat_pure _)

theorem nested_departures : Nested (braced departure) :=
  .braced (.flat flat_departure) consumes_departure

theorem nested_terminal : Nested terminal := by
  refine .bind (.flat flat_terminalKind) fun kind => ?_
  refine .bind (.flat flat_expectName.spaced) fun _ => ?_
  split
  · refine .bind (.flat .trivia) fun _ => .bind (.flat flat_transition.optional) fun t => ?_
    cases t with
    | some t => exact .flat (flat_pure _)
    | none => exact nested_departures.bind fun _ => .flat (flat_pure _)
  · exact .flat (flat_pure _)

theorem nested_fork : Nested fork :=
  .bind (.flat (flat_keyword (by decide))) fun _ => .bind (.flat flat_expectName.spaced) fun _ =>
    nested_departures.bind fun _ => .flat (flat_pure _)

theorem nested_process : Nested process := by
  refine .bind (.flat (flat_keyword (by decide))) fun _ =>
    .bind (.flat flat_expectName.spaced) fun _ => .bind (.flat flat_text.spaced.optional) fun _ =>
      .bind (.flat .trivia) fun _ => .bind (.flat (flat_isNext (by decide))) fun _ => ?_
  split
  · exact (nested_block _).bind fun _ => .flat (flat_pure _)
  · exact .flat (flat_transition.optional.bind fun _ => flat_pure _)

theorem flat_external : Flat external :=
  (flat_keyword (by decide)).bind fun _ => flat_expectName.spaced

theorem nested_contact : Nested contact :=
  .bind (.flat (flat_keyword (by decide))) fun _ => .bind (.flat flat_expectName.spaced) fun _ =>
    .bind (.braced (.flat flat_contactItem) consumes_contactItem) fun _ => .flat (flat_pure _)

theorem nested_element : Nested element :=
  .orElse (nested_scene.map _) <|
  .orElse (nested_global.map _) <|
  .orElse (nested_terminal.map _) <|
  .orElse (nested_fork.map _) <|
  .orElse (nested_process.map _) <|
  .orElse (.flat (flat_external.map _)) (nested_contact.map _)

end Source
end Interaction
