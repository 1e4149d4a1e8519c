import Interaction.Proofs.Braces
import Interaction.Proofs.Written

/-!
# Diagrams one behind the other

A source is a listing of elements, each behind trivia (`Listing`). Text that starts a line of its
own (`Follows`) may be put behind a listing: the words in front of it are read as before (`Grows`),
and so are the elements, except that the last one may read some of the trivia behind it, too
(`Extends`). By induction on the listing, the elements of both texts are read one after the other
(`Listing.append`).
-/

namespace Interaction
open Rule
namespace Source

/-- The text ends here, or a word starts. -/
def AtWord (s : List Char) : Prop := ∀ c ∈ s.head?, isLetter c = true

/-- An element may start behind the trivia. -/
def Opens (s : List Char) : Prop := ∃ b, trivia s = .read () b ∧ AtWord b

/-- The text can stand behind another one. -/
structure Follows (z : List Char) : Prop where
  feed : z.head? = some '\n'
  opens : Opens z

variable {α β : Type} {p q : Rule α} {f : α → Rule β} {s r z : List Char}

theorem AtWord.uncommented (h : AtWord s) : Uncommented s := by
  intro c hc
  have hletter := h c hc
  constructor <;> rintro rfl <;> exact absurd hletter (by decide)

theorem Follows.exists_eq (hz : Follows z) : ∃ b, z = '\n' :: b := by
  have hfeed := hz.feed
  cases z with
  | nil => cases hfeed
  | cons c b => exact ⟨b, congrArg (· :: b) (Option.some.inj hfeed)⟩

theorem EndsWord.append (hr : EndsWord r) (hz : Follows z) : EndsWord (r ++ z) := by
  obtain ⟨b, rfl⟩ := hz.exists_eq
  cases r with
  | nil => exact endsWord_cons.2 rfl
  | cons c r => exact endsWord_cons.2 (endsWord_cons.1 hr)

/-! ### Trivia in front of more text -/

theorem trivia_append_of_nil (h : trivia s = .read () []) (hz : Follows z) :
    trivia (s ++ z) = trivia z := by
  obtain ⟨t, ht, rfl | ⟨-, m, x, hm, hx, rfl⟩⟩ := trivia_eq_read h
  · rw [List.append_nil, trivia_append ht]
  · -- The comment at the end of `s` now ends with the first line of `z`.
    obtain ⟨b, rfl⟩ := hz.exists_eq
    have hline : IsTrivia (m.toList ++ (x ++ ("\n".toList ++ []))) := .line hm hx (.inl rfl) .nil
    have heq : t ++ (m.toList ++ x) ++ '\n' :: b =
        t ++ ((m.toList ++ (x ++ ("\n".toList ++ []))) ++ b) := by simp
    rw [heq, trivia_append ht, trivia_append hline, trivia_cons_blank rfl]

theorem trivia_append_of_cons {c : Char} (h : trivia s = .read () (c :: r))
    (hc : Uncommented (c :: r)) : trivia (s ++ z) = .read () (c :: r ++ z) := by
  have hblank : isBlank c = false := by
    have hunit := (orElse_eq_refused.1 (triviaUnit_refused_of_trivia h)).1
    exact blanks_eq_refused.1 hunit c rfl
  obtain ⟨t, ht, rfl | ⟨⟨⟩, -⟩⟩ := trivia_eq_read h
  have hc' : Uncommented (c :: (r ++ z)) := by
    rintro _ ⟨⟩
    exact hc c rfl
  rw [List.append_assoc, trivia_append ht]
  exact trivia_of_uncommented hblank hc'

/-! ### Words in front of more text -/

theorem textUntil_ne_refused (q : Char) (s : List Char) : textUntil q s ≠ .refused := by
  intro h
  rw [textUntil] at h
  split at h <;> cases h

theorem text_eq_refused : text s = .refused ↔ ∀ c ∈ s.head?, ¬ IsQuote c := by
  constructor
  · rintro h c hc (rfl | rfl) <;>
    · cases s with
      | nil => cases hc
      | cons d s =>
        cases hc
        exact textUntil_ne_refused _ s h
  · intro h
    rw [text]
    · rintro r rfl
      exact h _ rfl (.inl rfl)
    · rintro r rfl
      exact h _ rfl (.inr rfl)

/-- Text behind it does not change what the rule does. -/
structure Grows (z : List Char) (p : Rule α) : Prop where
  read : ∀ ⦃s x r⦄, p s = .read x r → p (s ++ z) = .read x (r ++ z)
  refused : ∀ ⦃s⦄, p s = .refused → p (s ++ z) = .refused

namespace Grows

theorem pure (x : α) : Grows z (Pure.pure x : Rule α) := by
  refine ⟨?_, fun s h => absurd h (commits_pure x s)⟩
  rintro s _ _ ⟨⟩
  rfl

theorem fail (e : Fault) : Grows z (Rule.fail e : Rule α) := by
  refine ⟨?_, fun s h => absurd h (commits_fail e s)⟩
  rintro s _ _ ⟨⟩

theorem bind (hp : Grows z p) (hf : ∀ x, Grows z (f x)) : Grows z (p >>= f) := by
  refine ⟨fun s y r h => ?_, fun s h => ?_⟩
  · obtain ⟨x, r', hx, hy⟩ := bind_eq_read.1 h
    exact (bind_of_read (hp.read hx)).trans ((hf x).read hy)
  · rcases bind_eq_refused.1 h with h | ⟨x, r, hx, hy⟩
    · exact bind_of_refused (hp.refused h)
    · exact (bind_of_read (hp.read hx)).trans ((hf x).refused hy)

theorem orElse (hp : Grows z p) (hq : Grows z q) : Grows z (p <|> q) := by
  refine ⟨fun s x r h => ?_, fun s h => ?_⟩
  · rcases orElse_eq_read.1 h with h | ⟨hrefused, h⟩
    · exact orElse_of_read (hp.read h)
    · exact (orElse_of_refused (hp.refused hrefused)).trans (hq.read h)
  · obtain ⟨h, h'⟩ := orElse_eq_refused.1 h
    exact orElse_eq_refused.2 ⟨hp.refused h, hq.refused h'⟩

theorem value (hp : Grows z p) (y : β) : Grows z (do let _ ← p; Pure.pure y : Rule β) :=
  hp.bind fun _ => .pure y

theorem optional (hp : Grows z p) : Grows z p.optional :=
  (hp.bind fun x => .pure (some x)).orElse (.pure none)

/-- A rule that settles on any text, and reads none where trivia could go on. -/
theorem spaced (hp : Grows z p) (hne : Commits p)
    (hstart : ∀ ⦃s x r⦄, p s = .read x r → s ≠ [] ∧ Uncommented s) : Grows z (spaced p) := by
  refine ⟨fun s x r h => ?_, fun s h => absurd h (hne.spaced s)⟩
  obtain ⟨_, r', htrivia, hx⟩ := bind_eq_read.1 h
  obtain ⟨hnil, hc⟩ := hstart hx
  cases r' with
  | nil => exact absurd rfl hnil
  | cons c r' => exact (bind_of_read (trivia_append_of_cons htrivia hc)).trans (hp.read hx)

end Grows

theorem behind?_append_eq_none {w b : List Char} (hw : '\n' ∉ w) (h : behind? w s = none) :
    behind? w (s ++ '\n' :: b) = none := by
  fun_induction behind? w s with
  | case1 => cases h
  | case2 c w =>
    rw [List.nil_append, behind?, if_neg]
    rintro rfl
    exact hw List.mem_cons_self
  | case3 w c s ih =>
    rw [List.cons_append, behind?, if_pos rfl]
    exact ih (fun hmem => hw (List.mem_cons_of_mem _ hmem)) h
  | case4 c w d s hne => rw [List.cons_append, behind?, if_neg hne]

section
variable (hz : Follows z)
include hz

theorem grows_mark {w : String} (hw : '\n' ∉ w.toList) : Grows z (mark w) := by
  refine ⟨fun s _ r h => ?_, fun s h => ?_⟩
  · obtain rfl := mark_eq_read.1 h
    exact mark_eq_read.2 (List.append_assoc _ _ _)
  · obtain ⟨b, rfl⟩ := hz.exists_eq
    rw [mark] at h ⊢
    split at h
    · cases h
    · rename_i hnone
      rw [behind?_append_eq_none hw hnone]

theorem grows_wordEnd : Grows z wordEnd := by
  refine ⟨fun s _ r h => ?_, fun s h => ?_⟩
  · obtain ⟨rfl, hr⟩ := wordEnd_eq_read.1 h
    exact wordEnd_eq_read.2 ⟨rfl, hr.append hz⟩
  · rw [wordEnd_eq_refused] at h ⊢
    cases s with
    | nil => exact absurd endsWord_nil h
    | cons c s => exact fun hend => h (endsWord_cons.2 (endsWord_cons.1 hend))

theorem grows_keyword {w : String} (hw : '\n' ∉ w.toList) : Grows z (keyword w) :=
  (grows_mark hz hw).bind fun _ => grows_wordEnd hz

theorem grows_name : Grows z name := by
  refine ⟨fun s t r h => ?_, fun s h => ?_⟩
  · obtain ⟨rfl, ht, hr⟩ := name_eq_read.1 h
    exact name_eq_read.2 ⟨List.append_assoc _ _ _, ht, hr.append hz⟩
  · rw [name_eq_refused] at h ⊢
    cases s with
    | nil =>
      obtain ⟨b, rfl⟩ := hz.exists_eq
      rintro _ ⟨⟩
      rfl
    | cons c s => exact h

theorem grows_text : Grows z text := by
  refine ⟨fun s t r h => ?_, fun s h => ?_⟩
  · obtain ⟨q, hq, hmem, rfl⟩ := text_eq_read.1 h
    exact text_eq_read.2 ⟨q, hq, hmem, by simp⟩
  · rw [text_eq_refused] at h ⊢
    cases s with
    | nil =>
      obtain ⟨b, rfl⟩ := hz.exists_eq
      rintro _ ⟨⟩ (hq | hq) <;> cases hq
    | cons c s =>
      rintro _ ⟨⟩
      exact h c rfl

theorem grows_isNext {c : Char} (hc : c ≠ '\n') : Grows z (isNext c) := by
  refine ⟨fun s x r h => ?_, fun s h => by cases h⟩
  cases h
  cases s with
  | nil =>
    obtain ⟨b, rfl⟩ := hz.exists_eq
    have hnext : (some '\n' == some c) = false := by simpa using hc.symm
    show Outcome.read (some '\n' == some c) _ = _
    rw [hnext]
    rfl
  | cons d s => rfl

theorem grows_expectName : Grows z expectName := (grows_name hz).orElse (.fail _)

theorem grows_spaced_expectName : Grows z (spaced expectName) := by
  refine (grows_expectName hz).spaced (orFail_ne_refused _ _) fun s t r h => ?_
  obtain ⟨rfl, ⟨c, cs, ht, hc, -⟩, -⟩ := name_eq_read.1 (orFail_eq_read.1 h)
  rw [ht]
  refine ⟨by simp, AtWord.uncommented ?_⟩
  rintro _ ⟨⟩
  exact hc

theorem grows_arrow : Grows z arrow :=
  ((grows_mark hz (by decide)).value _).orElse
    (((grows_mark hz (by decide)).value _).orElse ((grows_mark hz (by decide)).value _))

theorem grows_transition : Grows z transition := by
  refine (grows_arrow hz).bind fun a => ?_
  have hname := (grows_spaced_expectName hz).bind fun t => .pure (Transition.mk t a false none)
  rwa [spaced, bind_assoc] at hname

theorem grows_terminalKind : Grows z terminalKind :=
  ((grows_keyword hz (by decide)).value _).orElse
    (((grows_keyword hz (by decide)).value _).orElse ((grows_keyword hz (by decide)).value _))

end

/-- What stands for one of three words has been read: that word is there. -/
theorem read_of_words {u v w : Rule Unit} {a b c x : α}
    (h : ((do u; pure a) <|> (do v; pure b) <|> (do w; pure c) : Rule α) s = .read x r) :
    x = a ∧ u s = .read () r ∨ x = b ∧ v s = .read () r ∨ x = c ∧ w s = .read () r := by
  have hword : ∀ {p : Rule Unit} {y : α}, (do p; pure y : Rule α) s = .read x r →
      x = y ∧ p s = .read () r := by
    intro p y h
    obtain ⟨_, r', hword, heq⟩ := bind_eq_read.1 h
    cases heq
    exact ⟨rfl, hword⟩
  rcases orElse_eq_read.1 h with h | ⟨-, h⟩
  · exact .inl (hword h)
  rcases orElse_eq_read.1 h with h | ⟨-, h⟩
  · exact .inr (.inl (hword h))
  · exact .inr (.inr (hword h))

theorem arrow_eq_read {k : Arrow} : arrow s = .read k r ↔ s = k.sign.toList ++ r := by
  constructor
  · intro h
    rcases read_of_words h with ⟨rfl, hmark⟩ | ⟨rfl, hmark⟩ | ⟨rfl, hmark⟩ <;>
      exact mark_eq_read.1 hmark
  · rintro rfl
    cases k <;> rfl

theorem arrow_eq_refused : arrow s = .refused ↔ ∀ k : Arrow, ¬ k.sign.toList <+: s := by
  have hsign : ∀ k : Arrow,
      (do mark k.sign; pure k : Rule Arrow) s = .refused ↔ ¬ k.sign.toList <+: s := by
    intro k
    rw [← mark_eq_refused]
    exact ⟨refused_of_bind fun _ => commits_pure k, bind_of_refused⟩
  constructor
  · intro h
    obtain ⟨hnormal, h⟩ := orElse_eq_refused.1 h
    obtain ⟨hrepair, hsimultaneous⟩ := orElse_eq_refused.1 h
    rintro (_ | _ | _)
    · exact (hsign .normal).1 hnormal
    · exact (hsign .repair).1 hrepair
    · exact (hsign .simultaneous).1 hsimultaneous
  · intro h
    exact orElse_eq_refused.2 ⟨(hsign .normal).2 (h _),
      orElse_eq_refused.2 ⟨(hsign .repair).2 (h _), (hsign .simultaneous).2 (h _)⟩⟩

/-- An arrow is at the front. -/
theorem head_of_transition {t : Transition} (h : transition s = .read t r) :
    ∃ c s', s = c :: s' ∧ (c = '-' ∨ c = '.' ∨ c = '=') := by
  obtain ⟨k, r', harrow, -⟩ := bind_eq_read.1 h
  obtain rfl := arrow_eq_read.1 harrow
  cases k with
  | normal => exact ⟨_, _, rfl, .inl rfl⟩
  | repair => exact ⟨_, _, rfl, .inr (.inl rfl)⟩
  | simultaneous => exact ⟨_, _, rfl, .inr (.inr rfl)⟩

theorem transition_of_atWord (h : AtWord s) : transition s = .refused := by
  refine bind_of_refused (arrow_eq_refused.2 ?_)
  rintro k ⟨r, rfl⟩
  cases k <;> exact absurd (h _ rfl) (by decide)

theorem text_of_atWord (h : AtWord s) : text s = .refused := by
  refine text_eq_refused.2 fun c hc hq => ?_
  have hletter := h c hc
  rcases hq with rfl | rfl <;> exact absurd hletter (by decide)

/-! ### Elements in front of more text -/

/-- Text behind it does not change what the rule reads in front of an element, and the rule leaves
that text up to trivia. -/
def Extends (z : List Char) (p : Rule α) : Prop := ∀ ⦃s x r⦄, p s = .read x r → Opens r →
  ∃ r', p (s ++ z) = .read x r' ∧ trivia r' = trivia (r ++ z)

theorem Grows.extends (hp : Grows z p) : Extends z p := fun _ _ r h _ => ⟨r ++ z, hp.read h, rfl⟩

theorem Enclosed.extends (hp : Enclosed p) : Extends z p := by
  intro s x r h _
  obtain ⟨c, rfl, -, hread⟩ := hp h
  exact ⟨r ++ z, by simpa using hread (r ++ z), rfl⟩

namespace Extends

theorem behind (hp : Grows z p) (hf : ∀ x, Extends z (f x)) : Extends z (p >>= f) := by
  intro s y r h hr
  obtain ⟨x, r₁, hx, hy⟩ := bind_eq_read.1 h
  obtain ⟨r', hread, htrivia⟩ := hf x hy hr
  exact ⟨r', (bind_of_read (hp.read hx)).trans hread, htrivia⟩

theorem value (hp : Extends z p) (g : α → β) :
    Extends z (do let x ← p; pure (g x) : Rule β) := by
  intro s y r h hr
  obtain ⟨x, r₁, hx, hy⟩ := bind_eq_read.1 h
  cases hy
  obtain ⟨r', hread, htrivia⟩ := hp hx hr
  exact ⟨r', bind_of_read hread, htrivia⟩

/-- What stands behind trivia, if that is no comment, and nothing is made of an end of the text that
would not be made of a word. -/
theorem spaced (hz : Follows z) (hp : Extends z p)
    (hstart : ∀ ⦃s x r⦄, p s = .read x r → trivia s = .read () s → Opens r → Uncommented s)
    (hnil : ∀ ⦃x r b⦄, p [] = .read x r → AtWord b → p b = .read x b) : Extends z (spaced p) := by
  intro s x r h hr
  obtain ⟨_, s', htrivia, hx⟩ := bind_eq_read.1 h
  cases s' with
  | nil =>
    obtain ⟨b, hb, hword⟩ := hz.opens
    have hr' : p [] = .read x [] := hnil hx (by simp [AtWord])
    rw [hr'] at hx
    cases hx
    have hbehind : trivia (s ++ z) = .read () b := (trivia_append_of_nil htrivia hz).trans hb
    exact ⟨b, (bind_of_read hbehind).trans (hnil hr' hword), (trivia_idem hb).trans hb.symm⟩
  | cons c s' =>
    have hc := hstart hx (trivia_idem htrivia) hr
    obtain ⟨r', hread, htrivia'⟩ := hp hx hr
    exact ⟨r', (bind_of_read (trivia_append_of_cons htrivia hc)).trans hread, htrivia'⟩

end Extends

/-- An arrow or a body behind the name of a start. -/
def startTail (id : String) : Rule Terminal := do
  match ← transition.optional with
  | some t =>
    pure { kind := .start, id, target := some t.target, content := [.utterance (.redirect t)] }
  | none =>
    let content ← braced departure
    pure { kind := .start, id, target := none, content }

/-- A body, an arrow or nothing behind the name and the action of a process. -/
def processTail (id : String) (action : Option String) : Rule Process := do
  if ← isNext '{' then
    let content ← body
    pure { id, action, content }
  else
    let t ← transition.optional
    pure { id, action, content := (t.map (Item.utterance ∘ .redirect)).toList }

theorem terminal_eq : terminal = (do
    let kind ← terminalKind
    let id ← spaced expectName
    if kind = .start then spaced (startTail id)
    else pure { kind, id, target := none, content := [] }) := by
  rw [terminal]
  congr 1
  funext kind
  cases kind <;> rfl

theorem process_eq : process = (do
    keyword "process"
    let id ← spaced expectName
    let action ← (spaced text).optional
    spaced (processTail id action)) := rfl

theorem uncommented_of_transition {t : Transition} (h : transition s = .read t r) :
    Uncommented s := by
  obtain ⟨c, s', rfl, hc⟩ := head_of_transition h
  rintro _ ⟨⟩
  rcases hc with rfl | rfl | rfl <;> decide

theorem uncommented_brace : Uncommented ('{' :: s) := by
  rintro _ ⟨⟩
  decide

/-- Trivia behind trivia is all read, so a word is at the front. -/
theorem AtWord.of_opens (hs : trivia s = .read () s) (h : Opens s) : AtWord s := by
  obtain ⟨b, hb, hword⟩ := h
  rw [hs] at hb
  cases hb
  exact hword

theorem uncommented_of_startTail {id : String} {x : Terminal} (h : startTail id s = .read x r)
    (hs : trivia s = .read () s) : Uncommented s := by
  obtain ⟨o, r₁, ho, hx⟩ := bind_eq_read.1 h
  rcases optional_eq_read.1 ho with ⟨t, ht, rfl⟩ | ⟨-, rfl, rfl⟩
  · exact uncommented_of_transition ht
  · obtain ⟨is, r₂, hbraced, -⟩ := bind_eq_read.1 hx
    obtain ⟨_, r₃, hopen, -⟩ := bind_eq_read.1 hbraced
    obtain ⟨_, r₄, htrivia, hmark⟩ := bind_eq_read.1 hopen
    rw [hs] at htrivia
    cases htrivia
    obtain rfl := expectMark_eq_read.1 hmark
    exact uncommented_brace

/-- A body, or an arrow if there is one. -/
theorem processTail_eq_read {id : String} {a : Option String} {x : Process} :
    processTail id a s = .read x r ↔
      (s.head? = some '{' ∧ ∃ is, body s = .read is r ∧ x = { id, action := a, content := is }) ∨
      (s.head? ≠ some '{' ∧ ∃ t, transition.optional s = .read t r ∧
        x = { id, action := a, content := (t.map (Item.utterance ∘ .redirect)).toList }) := by
  have hstep : processTail id a s = (if s.head? == some '{' then (do
        let content ← body
        pure { id, action := a, content })
      else (do
        let t ← transition.optional
        pure { id, action := a, content := (t.map (Item.utterance ∘ .redirect)).toList }) :
      Rule Process) s := rfl
  rw [hstep]
  by_cases hbrace : s.head? = some '{'
  · rw [if_pos (by simpa using hbrace), bind_eq_read]
    simp [hbrace, eq_comm]
  · rw [if_neg (by simpa using hbrace), bind_eq_read]
    simp [hbrace, eq_comm]

theorem uncommented_of_processTail {id : String} {a : Option String} {x : Process}
    (h : processTail id a s = .read x r) (hs : trivia s = .read () s) (hr : Opens r) :
    Uncommented s := by
  rcases processTail_eq_read.1 h with ⟨hbrace, -⟩ | ⟨-, o, ho, -⟩
  · intro c hc
    rw [hbrace] at hc
    cases hc
    decide
  · rcases optional_eq_read.1 ho with ⟨t, ht, rfl⟩ | ⟨-, rfl, rfl⟩
    · exact uncommented_of_transition ht
    · exact (AtWord.of_opens hs hr).uncommented

/-- Behind the name of a process nothing has to stand, so neither does it in front of a word. -/
theorem processTail_of_atWord (id : String) (a : Option String) (h : AtWord s) :
    processTail id a s = .read { id, action := a, content := [] } s := by
  have hbrace : s.head? ≠ some '{' := fun hc => absurd (h '{' hc) (by decide)
  have htransition : transition.optional s = .read none s :=
    optional_eq_read.2 (.inr ⟨transition_of_atWord h, rfl, rfl⟩)
  exact processTail_eq_read.2 (.inr ⟨hbrace, none, htransition, rfl⟩)

section
variable (hz : Follows z)
include hz

theorem extends_startTail (id : String) : Extends z (startTail id) := by
  refine .behind (grows_transition hz).optional fun o => ?_
  cases o with
  | some t => exact (Grows.pure _).extends
  | none => exact enclosed_departures.extends.value _

theorem extends_processTail (id : String) (a : Option String) : Extends z (processTail id a) := by
  refine .behind (grows_isNext hz (by decide)) fun b => ?_
  split
  · exact (enclosed_block _).extends.value _
  · exact ((grows_transition hz).optional.bind fun _ => .pure _).extends

theorem extends_terminal : Extends z terminal := by
  rw [terminal_eq]
  refine .behind (grows_terminalKind hz) fun kind =>
    .behind (grows_spaced_expectName hz) fun id => ?_
  split
  · refine (extends_startTail hz id).spaced hz ?_ ?_
    · exact fun s x r h hs _ => uncommented_of_startTail h hs
    · rintro x r b ⟨⟩
  · exact (Grows.pure _).extends

/-- The action of a process, and what is behind it. If there is no action, the place where it could
be is the place where the rest is. -/
theorem extends_processAction (id : String) : Extends z (do
    let action ← (spaced text).optional
    spaced (processTail id action)) := by
  have htail : ∀ a, Extends z (spaced (processTail id a)) := fun a =>
    (extends_processTail hz id a).spaced hz (fun s x r => uncommented_of_processTail)
      fun x r b h hb => by
        rw [processTail_of_atWord id a (by simp [AtWord])] at h
        cases h
        exact processTail_of_atWord id a hb
  intro s x r h hr
  obtain ⟨o, s₁, ho, hx⟩ := bind_eq_read.1 h
  obtain ⟨r', hread, hr'⟩ := htail o hx hr
  refine ⟨r', (bind_of_read ?_).trans hread, hr'⟩
  obtain ⟨_, s₂, htrivia, hend⟩ := bind_eq_read.1 hx
  rcases optional_eq_read.1 ho with ⟨t, ht, rfl⟩ | ⟨hrefused, rfl, rfl⟩
  · refine optional_eq_read.2 (.inl ⟨t, ?_, rfl⟩)
    obtain ⟨_, s₃, htrivia', htext⟩ := bind_eq_read.1 ht
    obtain ⟨q, hq, hmem, rfl⟩ := text_eq_read.1 htext
    have hc : Uncommented (q :: (t.toList ++ q :: s₁)) := by
      rintro _ ⟨⟩
      rcases hq with rfl | rfl <;> decide
    exact (bind_of_read (trivia_append_of_cons htrivia' hc)).trans ((grows_text hz).read htext)
  · refine optional_eq_read.2 (.inr ⟨?_, rfl, rfl⟩)
    obtain ⟨s₃, htrivia', htext⟩ := spaced_eq_refused.1 hrefused
    rw [htrivia] at htrivia'
    cases htrivia'
    cases s₂ with
    | nil =>
      obtain ⟨b, hb, hword⟩ := hz.opens
      exact spaced_eq_refused.2
        ⟨b, (trivia_append_of_nil htrivia hz).trans hb, text_of_atWord hword⟩
    | cons c s₂ =>
      have hc := uncommented_of_processTail hend (trivia_idem htrivia) hr
      exact spaced_eq_refused.2 ⟨_, trivia_append_of_cons htrivia hc, (grows_text hz).refused htext⟩

theorem extends_process : Extends z process := by
  rw [process_eq]
  refine .behind (grows_keyword hz (by decide)) fun _ => ?_
  exact .behind (grows_spaced_expectName hz) fun id => extends_processAction hz id

theorem extends_external : Extends z external :=
  ((grows_keyword hz (by decide)).bind fun _ => grows_spaced_expectName hz).extends

end

/-! ### What an element starts with -/

/-- The rule reads the elements that start with the word. -/
inductive Introduces : String → Rule Element → Prop
  | main : Introduces "main" (Element.scene <$> scene)
  | scene : Introduces "scene" (Element.scene <$> scene)
  | global : Introduces "global" (Element.global <$> global)
  | start : Introduces "start" (Element.terminal <$> terminal)
  | finish : Introduces "end" (Element.terminal <$> terminal)
  | breakdown : Introduces "break" (Element.terminal <$> terminal)
  | fork : Introduces "fork" (Element.fork <$> fork)
  | process : Introduces "process" (Element.process <$> process)
  | external : Introduces "external" (Element.external <$> external)
  | contact : Introduces "contact" (Element.contact <$> contact)

namespace Introduces
variable {w : String} {p : Rule Element} {e : Element}

/-- No rule in front of it reads such a text. -/
theorem element (h : Introduces w p) (hread : p (w.toList ++ s) = .read e r) :
    element (w.toList ++ s) = .read e r := by
  cases h with
  | main => exact orElse_eq_read.2 (.inl hread)
  | scene => exact orElse_eq_read.2 (.inl hread)
  | global =>
    refine orElse_eq_read.2 (.inr ⟨rfl, ?_⟩)
    exact orElse_eq_read.2 (.inl hread)
  | start =>
    iterate 2 refine orElse_eq_read.2 (.inr ⟨rfl, ?_⟩)
    exact orElse_eq_read.2 (.inl hread)
  | finish =>
    iterate 2 refine orElse_eq_read.2 (.inr ⟨rfl, ?_⟩)
    exact orElse_eq_read.2 (.inl hread)
  | breakdown =>
    iterate 2 refine orElse_eq_read.2 (.inr ⟨rfl, ?_⟩)
    exact orElse_eq_read.2 (.inl hread)
  | fork =>
    iterate 3 refine orElse_eq_read.2 (.inr ⟨rfl, ?_⟩)
    exact orElse_eq_read.2 (.inl hread)
  | process =>
    iterate 4 refine orElse_eq_read.2 (.inr ⟨rfl, ?_⟩)
    exact orElse_eq_read.2 (.inl hread)
  | external =>
    iterate 5 refine orElse_eq_read.2 (.inr ⟨rfl, ?_⟩)
    exact orElse_eq_read.2 (.inl hread)
  | contact =>
    iterate 6 refine orElse_eq_read.2 (.inr ⟨rfl, ?_⟩)
    exact hread

theorem isName (h : Introduces w p) : IsName w := by
  cases h <;> decide +kernel

theorem extend (h : Introduces w p) (hz : Follows z) : Extends z p := by
  cases h with
  | main => exact enclosed_scene.extends.value _
  | scene => exact enclosed_scene.extends.value _
  | global => exact enclosed_global.extends.value _
  | start => exact (extends_terminal hz).value _
  | finish => exact (extends_terminal hz).value _
  | breakdown => exact (extends_terminal hz).value _
  | fork => exact enclosed_fork.extends.value _
  | process => exact (extends_process hz).value _
  | external => exact (extends_external hz).value _
  | contact => exact enclosed_contact.extends.value _

end Introduces

theorem word_of_sceneHead {b : Bool} (h : sceneHead s = .read b r) :
    (∃ s', s = "main".toList ++ s') ∨ ∃ s', s = "scene".toList ++ s' := by
  obtain ⟨o, r₁, ho, hrest⟩ := bind_eq_read.1 h
  rcases optional_eq_read.1 ho with ⟨_, hword, -⟩ | ⟨-, rfl, rfl⟩
  · exact .inl ⟨r₁, (keyword_eq_read.1 hword).1⟩
  · obtain ⟨_, r₂, hword, -⟩ := bind_eq_read.1 hrest
    exact .inr ⟨r₂, (keyword_eq_read.1 hword).1⟩

theorem terminalKind_eq_read {k : TerminalKind} :
    terminalKind s = .read k r ↔ s = k.word.toList ++ r ∧ EndsWord r := by
  constructor
  · intro h
    rcases read_of_words h with ⟨rfl, hword⟩ | ⟨rfl, hword⟩ | ⟨rfl, hword⟩ <;>
      exact keyword_eq_read.1 hword
  · rintro ⟨rfl, hr⟩
    have hword : keyword k.word (k.word.toList ++ r) = .read () r := keyword_eq_read.2 ⟨rfl, hr⟩
    cases k with
    | start => exact orElse_of_read (bind_of_read hword)
    | finish =>
      refine orElse_eq_read.2 (.inr ⟨rfl, ?_⟩)
      exact orElse_of_read (bind_of_read hword)
    | breakdown =>
      refine orElse_eq_read.2 (.inr ⟨rfl, orElse_eq_read.2 (.inr ⟨rfl, ?_⟩)⟩)
      exact bind_of_read hword

/-- What is read starts with a word of its kind, though a rule may have more than one. -/
theorem Introduces.exists_word {w : String} {p : Rule Element} {e : Element} (hintro : Introduces w p)
    (h : p s = .read e r) : ∃ w s', Introduces w p ∧ s = w.toList ++ s' := by
  have hkeyword : ∀ {α : Type} {w : String} {f : Unit → Rule α} {K : α → Element},
      (K <$> (keyword w >>= f)) s = .read e r → ∃ s', s = w.toList ++ s' := by
    intro α w f K h
    obtain ⟨x, hx, -⟩ := map_eq_read.1 h
    obtain ⟨_, r₁, hword, -⟩ := bind_eq_read.1 hx
    exact ⟨r₁, (keyword_eq_read.1 hword).1⟩
  have hscene : (Element.scene <$> Source.scene) s = .read e r →
      ∃ w s', Introduces w (Element.scene <$> Source.scene) ∧ s = w.toList ++ s' := by
    intro h
    obtain ⟨x, hx, -⟩ := map_eq_read.1 h
    obtain ⟨b, r₁, hhead, -⟩ := bind_eq_read.1 hx
    rcases word_of_sceneHead hhead with ⟨s', hs⟩ | ⟨s', hs⟩
    · exact ⟨_, s', .main, hs⟩
    · exact ⟨_, s', .scene, hs⟩
  have hterminal : (Element.terminal <$> terminal) s = .read e r →
      ∃ w s', Introduces w (Element.terminal <$> terminal) ∧ s = w.toList ++ s' := by
    intro h
    obtain ⟨x, hx, -⟩ := map_eq_read.1 h
    obtain ⟨k, r₁, hkind, -⟩ := bind_eq_read.1 hx
    have hs := (terminalKind_eq_read.1 hkind).1
    cases k with
    | start => exact ⟨_, r₁, .start, hs⟩
    | finish => exact ⟨_, r₁, .finish, hs⟩
    | breakdown => exact ⟨_, r₁, .breakdown, hs⟩
  cases hintro with
  | main => exact hscene h
  | scene => exact hscene h
  | start => exact hterminal h
  | finish => exact hterminal h
  | breakdown => exact hterminal h
  | global => exact ⟨_, _, .global, (hkeyword h).choose_spec⟩
  | fork => exact ⟨_, _, .fork, (hkeyword h).choose_spec⟩
  | process => exact ⟨_, _, .process, (hkeyword h).choose_spec⟩
  | external => exact ⟨_, _, .external, (hkeyword h).choose_spec⟩
  | contact => exact ⟨_, _, .contact, (hkeyword h).choose_spec⟩

/-- Every element starts with a word of its kind. -/
theorem introduces_of_element {e : Element} (h : element s = .read e r) :
    ∃ w p s', Introduces w p ∧ s = w.toList ++ s' ∧ p s = .read e r := by
  have hstart : ∀ {w p}, Introduces w p → p s = .read e r →
      ∃ w p s', Introduces w p ∧ s = w.toList ++ s' ∧ p s = .read e r := by
    intro w p hintro hread
    obtain ⟨w', s', hintro', hs⟩ := hintro.exists_word hread
    exact ⟨w', p, s', hintro', hs, hread⟩
  rcases orElse_eq_read.1 h with h | ⟨-, h⟩
  · exact hstart .scene h
  rcases orElse_eq_read.1 h with h | ⟨-, h⟩
  · exact hstart .global h
  rcases orElse_eq_read.1 h with h | ⟨-, h⟩
  · exact hstart .start h
  rcases orElse_eq_read.1 h with h | ⟨-, h⟩
  · exact hstart .fork h
  rcases orElse_eq_read.1 h with h | ⟨-, h⟩
  · exact hstart .process h
  rcases orElse_eq_read.1 h with h | ⟨-, h⟩
  · exact hstart .external h
  · exact hstart .contact h

theorem extends_element (hz : Follows z) : Extends z element := by
  intro s e r h hr
  obtain ⟨w, p, s', hintro, rfl, hp⟩ := introduces_of_element h
  obtain ⟨r', hread, hr'⟩ := hintro.extend hz hp hr
  rw [List.append_assoc] at hread ⊢
  exact ⟨r', hintro.element hread, hr'⟩

theorem atWord_of_element {e : Element} (h : element s = .read e r) : s ≠ [] ∧ AtWord s := by
  obtain ⟨w, p, s', hintro, rfl, -⟩ := introduces_of_element h
  obtain ⟨c, cs, hw, hc, -⟩ := hintro.isName
  rw [hw]
  refine ⟨by simp, ?_⟩
  rintro _ ⟨⟩
  exact hc

/-! ### Listings of elements -/

/-- The elements stand one behind the other up to the end of the text. -/
inductive Listing : List Char → List Element → Prop
  | done {s : List Char} (h : trivia s = .read () []) : Listing s []
  | cons {s s' r : List Char} {e : Element} {es : List Element} (h : trivia s = .read () s')
      (he : element s' = .read e r) (hes : Listing r es) : Listing s (e :: es)

namespace Listing
variable {es es' : List Element}

/-- Trivia in front of a listing does not matter. -/
theorem congr {s' : List Char} (h : Listing s es) (hs : trivia s' = trivia s) :
    Listing s' es := by
  cases h with
  | done h => exact .done (hs.trans h)
  | cons h he hes => exact .cons (hs.trans h) he hes

theorem opens (h : Listing s es) : Opens s := by
  cases h with
  | done h => exact ⟨[], h, by simp [AtWord]⟩
  | cons h he _ => exact ⟨_, h, (atWord_of_element he).2⟩

/-- One listing behind the other, by induction on the first. -/
theorem append (h : Listing s es) (hz : Follows z) (h' : Listing z es') :
    Listing (s ++ z) (es ++ es') := by
  induction h with
  | done h => exact h'.congr (trivia_append_of_nil h hz)
  | @cons s s' r e es h he hes ih =>
    obtain ⟨hnil, hword⟩ := atWord_of_element he
    obtain ⟨r', hread, hr'⟩ := extends_element hz he hes.opens
    cases s' with
    | nil => exact absurd rfl hnil
    | cons c s' => exact .cons (trivia_append_of_cons h hword.uncommented) hread (ih.congr hr')

theorem many (h : Listing s es) :
    ∃ r, many (spaced Source.element) s = .read es r ∧ trivia r = .read () [] := by
  induction h with
  | @done s h =>
    have hrefused : spaced Source.element s = .refused := spaced_eq_refused.2 ⟨[], h, rfl⟩
    exact ⟨s, many_of_refused hrefused, h⟩
  | @cons s s' r e es h he hes ih =>
    obtain ⟨r', hmany, hr'⟩ := ih
    refine ⟨r', ?_, hr'⟩
    rw [many_of_read consumes_element.spaced ((bind_of_read h).trans he), hmany]
    rfl

end Listing

theorem listing_of_many {s r : List Char} {es : List Element}
    (h : many (spaced element) s = .read es r) (hr : trivia r = .read () []) : Listing s es := by
  cases hs : spaced element s with
  | read e r' =>
    have hlt := (consumes_element.spaced hs).2
    rw [many_of_read consumes_element.spaced hs] at h
    obtain ⟨es', _, hrest, heq⟩ := Outcome.bind_eq_read.1 h
    cases heq
    obtain ⟨_, s', htrivia, he⟩ := bind_eq_read.1 hs
    exact .cons htrivia he (listing_of_many hrest hr)
  | refused =>
    rw [many_of_refused hs] at h
    cases h
    exact .done hr
  | failed e r' => rw [many_of_failed hs] at h; cases h
termination_by s.length

theorem atEnd_eq_read {u : Unit} : atEnd s = .read u r ↔ s = [] ∧ r = [] := by
  cases s <;> simp [atEnd, eq_comm]

/-- A diagram is the listing of its elements. -/
theorem diagram_eq_read {d : Diagram} : diagram s = .read d r ↔ r = [] ∧ Listing s d.elements := by
  constructor
  · intro h
    obtain ⟨es, r₁, hes, h₁⟩ := bind_eq_read.1 h
    obtain ⟨_, r₂, hend, heq⟩ := bind_eq_read.1 h₁
    cases heq
    obtain ⟨_, r₃, htrivia, hend⟩ := bind_eq_read.1 hend
    obtain ⟨rfl, rfl⟩ := atEnd_eq_read.1 (orFail_eq_read.1 hend)
    exact ⟨rfl, listing_of_many hes htrivia⟩
  · rintro ⟨rfl, h⟩
    obtain ⟨r, hmany, hr⟩ := h.many
    exact bind_eq_read.2 ⟨_, r, hmany, bind_eq_read.2 ⟨(), [], (bind_of_read hr).trans rfl, rfl⟩⟩

theorem commits_diagram : Commits diagram :=
  (commits_many _).bind fun _ => Commits.bind (Commits.spaced (orFail_ne_refused _ _)) fun _ =>
    commits_pure _

end Source

open Source

namespace Diagram

/-- A rejected source is one that the rule fails on. -/
theorem parse_eq_error_iff {source : String} {e : SyntaxError} : parse source = .error e ↔
    ∃ fault r, Source.diagram source.toList = .failed fault r ∧
      e = .before source.toList r fault := by
  unfold parse
  cases h : Source.diagram source.toList with
  | read d r => simp
  | refused => exact absurd h (commits_diagram _)
  | failed fault r => simp [eq_comm]

theorem parse_eq_ok_iff_listing {source : String} {d : Diagram} :
    parse source = .ok d ↔ Listing source.toList d.elements := by
  rw [parse_eq_ok]
  simp [diagram_eq_read]

/-- Two sources with trivia between them, the first line of which is empty or ends a comment, are
one source for the elements of both. -/
theorem parse_append {s₁ s₂ t : String} {d₁ d₂ : Diagram} (h₁ : parse s₁ = .ok d₁)
    (h₂ : parse s₂ = .ok d₂) (ht : IsTrivia t.toList) (hfeed : t.toList.head? = some '\n') :
    parse (s₁ ++ t ++ s₂) = .ok ⟨d₁.elements ++ d₂.elements⟩ := by
  rw [parse_eq_ok_iff_listing] at h₁ h₂ ⊢
  have hbehind : Listing (t.toList ++ s₂.toList) d₂.elements := h₂.congr (trivia_append ht _)
  have hfollows : Follows (t.toList ++ s₂.toList) := ⟨by simp [hfeed], hbehind.opens⟩
  simpa using h₁.append hfollows hbehind

/-- The comment behind the process is ended by the text that joins the two, and the arrow in the
second comment is none of the process. -/
theorem parse_append_process : ∃ d₁ d₂,
    parse "process A \"a\" // c" = .ok d₁ ∧ parse "external B % d" = .ok d₂ ∧
    d₁.elements.map Element.id = ["A"] ∧ d₂.elements.map Element.id = ["B"] ∧
    parse "process A \"a\" // c\n/* -> C */ external B % d" =
      .ok ⟨d₁.elements ++ d₂.elements⟩ := by
  have hids : ∀ {s : String} {ids : List String},
      (parse s).toOption.map (·.elements.map Element.id) = some ids →
        ∃ d, parse s = .ok d ∧ d.elements.map Element.id = ids := by
    intro s ids h
    cases hd : parse s with
    | error e => rw [hd] at h; cases h
    | ok d =>
      rw [hd] at h
      exact ⟨d, rfl, Option.some.inj h⟩
  obtain ⟨d₁, h₁, hd₁⟩ : ∃ d, parse "process A \"a\" // c" = .ok d ∧
      d.elements.map Element.id = ["A"] := hids (by decide +kernel)
  obtain ⟨d₂, h₂, hd₂⟩ : ∃ d, parse "external B % d" = .ok d ∧
      d.elements.map Element.id = ["B"] := hids (by decide +kernel)
  have htrivia : IsTrivia "\n/* -> C */ ".toList :=
    .blank rfl (.block (x := " -> C ".toList) (by rw [Unclosed]; decide) (.blank rfl .nil))
  exact ⟨d₁, d₂, h₁, h₂, hd₁, hd₂, parse_append (t := "\n/* -> C */ ") h₁ h₂ htrivia rfl⟩

end Diagram
end Interaction
