import Interaction.Proofs.Written
import Interaction.Proofs.Locality

/-!
# What is written is read back

`spell ws s` is the text of the words `ws` in front of `s`, with one blank in front of each word.
Where a word is written, its rule reads it (`…_written`) and leaves what is behind it, if the text
there does not go on as a further part of the same item would (`Ends`, `Closes`). The body of a
scene is read by induction on how it is written (`many_item_written`).
-/

namespace Interaction
open Rule
namespace Source

/-- The words, each behind a blank, and then `s`. -/
def spell (ws : List String) (s : List Char) : List Char :=
  ws.foldr (fun w s => ' ' :: (w.toList ++ s)) s

/-- The word is not taken for trivia. -/
def StartsWord (w : String) : Prop :=
  ∃ c cs, w.toList = c :: cs ∧ (isSolid c = true ∨ IsQuote c)

variable {α : Type} {p : Rule α} {t w : String} {ws ws' : List String} {s s' : List Char}

theorem spell_append : spell (ws ++ ws') s = spell ws (spell ws' s) := by
  simp only [spell, List.foldr_append]

theorem endsWord_spell (hs : EndsWord s) : EndsWord (spell ws s) := by
  cases ws with
  | nil => exact hs
  | cons w ws => exact endsWord_cons.2 rfl

theorem startsWord_of_isName (h : IsName t) : StartsWord t := by
  obtain ⟨c, cs, ht, hc, -⟩ := h
  exact ⟨c, cs, ht, .inl (isSolid_of_isNameChar (isNameChar_of_isLetter hc))⟩

theorem startsWord_of_quoted (h : Quoted t w) : StartsWord w := by
  obtain ⟨q, hq, -, hw⟩ := h
  exact ⟨q, _, hw, .inr hq⟩

theorem startsWord_sign (a : Arrow) : StartsWord a.sign := by
  cases a <;> exact ⟨_, _, rfl, .inl rfl⟩

/-! ### Words behind a blank -/

theorem trivia_word (h : StartsWord w) : trivia (w.toList ++ s) = .read () (w.toList ++ s) := by
  obtain ⟨c, cs, hw, hc⟩ := h
  have hc' : isBlank c = false ∧ c ≠ '/' ∧ c ≠ '%' := by
    rcases hc with hsolid | rfl | rfl
    · refine ⟨not_isBlank_of_isSolid hsolid, ?_, ?_⟩ <;> rintro rfl <;> cases hsolid
    · decide
    · decide
  obtain ⟨hblank, hcomment⟩ := hc'
  rw [hw, List.cons_append]
  refine trivia_of_uncommented hblank ?_
  rintro _ ⟨⟩
  exact hcomment

theorem trivia_spell (h : StartsWord w) :
    trivia (spell (w :: ws) s) = .read () (w.toList ++ spell ws s) :=
  (trivia_cons_blank rfl _).trans (trivia_word h)

theorem spaced_word (h : StartsWord w) : spaced p (w.toList ++ s) = p (w.toList ++ s) :=
  bind_of_read (trivia_word h)

theorem spaced_spell (h : StartsWord w) :
    spaced p (spell (w :: ws) s) = p (w.toList ++ spell ws s) :=
  bind_of_read (trivia_spell h)

theorem text_written (h : Quoted t w) : text (w.toList ++ s) = .read t s := by
  obtain ⟨q, hq, hmem, hw⟩ := h
  exact text_eq_read.2 ⟨q, hq, hmem, by simp [hw]⟩

theorem expectText_written (h : Quoted t w) :
    spaced expectText (spell (w :: ws) s) = .read t (spell ws s) :=
  (spaced_spell (startsWord_of_quoted h)).trans (orFail_eq_read.2 (text_written h))

theorem labelled_written (l : String) (h : Quoted t w) :
    labelled l (l.toList ++ spell (w :: ws) s) = .read t (spell ws s) :=
  (bind_of_read (mark_eq_read.2 rfl)).trans (expectText_written h)

theorem name_written (h : IsName t) (hs : EndsWord s) : name (t.toList ++ s) = .read t s :=
  name_eq_read.2 ⟨rfl, h, hs⟩

theorem text_of_isName (h : IsName t) : text (t.toList ++ s) = .refused := by
  obtain ⟨c, cs, ht, hc, -⟩ := h
  rw [ht, List.cons_append, text]
  · rintro r ⟨⟩
    cases hc
  · rintro r ⟨⟩
    cases hc

/-! ### Clauses -/

theorem condition_written {o : String} (ho : o = "if:" ∨ o = "if") (h : Quoted t w) :
    condition (o.toList ++ spell (w :: ws) s) = .read t (spell ws s) := by
  have ho' : (mark "if:" <|> keyword "if") (o.toList ++ spell (w :: ws) s) =
      .read () (spell (w :: ws) s) := by
    rcases ho with rfl | rfl <;> rfl
  exact (bind_of_read ho').trans (expectText_written h)

theorem startsWord_condition {o : String} (ho : o = "if:" ∨ o = "if") : StartsWord o := by
  rcases ho with rfl | rfl <;> exact ⟨_, _, rfl, .inl rfl⟩

theorem spaced_condition_written (h : Clause.Written (.condition t) ws) :
    spaced condition (spell ws s) = .read t s := by
  cases h with
  | condition ho ht =>
    exact (spaced_spell (startsWord_condition ho)).trans (condition_written ho ht)

theorem tailClause_let (h : Quoted t w) :
    tailClause ("let:".toList ++ spell [w] s) = .read (.binding t) s := by
  have htext : spaced text (spell [w] s) = .read t s :=
    (spaced_spell (startsWord_of_quoted h)).trans (text_written h)
  exact orElse_eq_read.2 (.inl
    (bind_eq_read.2 ⟨(), spell [w] s, rfl, bind_eq_read.2 ⟨t, s, htext, rfl⟩⟩))

theorem tailClause_effect (h : Quoted t w) :
    tailClause ("effect:".toList ++ spell [w] s) = .read (.effect t) s :=
  orElse_eq_read.2 (.inr ⟨rfl, orElse_eq_read.2 (.inl
    (map_eq_read.2 ⟨t, labelled_written "effect:" h, rfl⟩))⟩)

theorem tailClause_why (h : Quoted t w) :
    tailClause ("why:".toList ++ spell [w] s) = .read (.why t) s :=
  orElse_eq_read.2 (.inr ⟨rfl, orElse_eq_read.2 (.inr ⟨rfl,
    map_eq_read.2 ⟨t, labelled_written "why:" h, rfl⟩⟩)⟩)

theorem clause_when (h : Quoted t w) :
    clause ("when".toList ++ spell [w] s) = .read (.trigger t) s := by
  have hread : (do
      keyword "when"
      notNext ':'
      let t ← spaced expectText
      pure (.trigger t) : Rule Clause) ("when".toList ++ spell [w] s) = .read (.trigger t) s :=
    bind_eq_read.2 ⟨(), spell [w] s, rfl, bind_eq_read.2 ⟨(), spell [w] s, rfl,
      bind_eq_read.2 ⟨t, s, expectText_written h, rfl⟩⟩⟩
  exact orElse_eq_read.2 (.inr ⟨rfl, orElse_eq_read.2 (.inl hread)⟩)

theorem clause_of_tailClause {o : String} {c : Clause}
    (ho : o = "let:" ∨ o = "effect:" ∨ o = "why:") (h : tailClause (o.toList ++ s) = .read c s') :
    clause (o.toList ++ s) = .read c s' := by
  rcases ho with rfl | rfl | rfl <;>
    exact orElse_eq_read.2 (.inr ⟨rfl, orElse_eq_read.2 (.inr ⟨rfl, h⟩)⟩)

theorem clause_written {c : Clause} (h : c.Written ws) :
    spaced clause (spell ws s) = .read c s := by
  cases h with
  | @condition o t w ho ht =>
    rw [spaced_spell (startsWord_condition ho)]
    exact orElse_eq_read.2 (.inl (map_eq_read.2 ⟨t, condition_written ho ht, rfl⟩))
  | trigger ht => exact (spaced_spell ⟨_, _, rfl, .inl rfl⟩).trans (clause_when ht)
  | binding ht =>
    rw [spaced_spell ⟨_, _, rfl, .inl rfl⟩]
    exact clause_of_tailClause (.inl rfl) (tailClause_let ht)
  | effect ht =>
    rw [spaced_spell ⟨_, _, rfl, .inl rfl⟩]
    exact clause_of_tailClause (.inr (.inl rfl)) (tailClause_effect ht)
  | why ht =>
    rw [spaced_spell ⟨_, _, rfl, .inl rfl⟩]
    exact clause_of_tailClause (.inr (.inr rfl)) (tailClause_why ht)

theorem many_clause_written {cs : List Clause} (h : ClausesWritten cs ws)
    (hs : spaced clause s = .refused) : many (spaced clause) (spell ws s) = .read cs s := by
  induction h with
  | nil => exact many_of_refused hs
  | cons hc _ ih =>
    rw [spell_append, many_of_read consumes_clause.spaced (clause_written hc), ih]
    rfl

/-- In whatever order the clauses stand, they make the same utterance. -/
theorem foldl_addTo {u : Utterance} {cs : List Clause} (h : cs.Perm u.clauses) :
    cs.foldl Clause.addTo { speaker := u.speaker, text := u.text } =
      { u with transition := none } := by
  -- Clauses of different sorts set different fields, and there is only one of a sort.
  have hcomm : ∀ c ∈ u.clauses, ∀ d ∈ u.clauses, ∀ v : Utterance,
      d.addTo (c.addTo v) = c.addTo (d.addTo v) := by
    intro c hc d hd v
    rw [Utterance.mem_clauses] at hc hd
    cases c <;> cases d <;> simp_all [Clause.addTo]
  rw [← h.symm.foldl_eq' hcomm]
  obtain ⟨_, _, condition, trigger, binding, effect, why, _⟩ := u
  cases condition <;> cases trigger <;> cases binding <;> cases effect <;> cases why <;> rfl

/-! ### Where an item ends -/

/-- No condition and no transition is next. -/
structure Ends (s : List Char) : Prop where
  word : EndsWord s
  condition : spaced condition s = .refused
  transition : spaced transition s = .refused

/-- No clause is next, either. -/
structure Closes (s : List Char) : Prop extends Ends s where
  clause : spaced clause s = .refused

theorem Closes.tailClause (h : Closes s) : spaced tailClause s = .refused := by
  obtain ⟨r, htrivia, hclause⟩ := spaced_eq_refused.1 h.clause
  exact spaced_eq_refused.2 ⟨r, htrivia, (orElse_eq_refused.1 (orElse_eq_refused.1 hclause).2).2⟩

theorem ends_of_word (hw : StartsWord w)
    (hcondition : condition (w.toList ++ spell ws s) = .refused)
    (htransition : transition (w.toList ++ spell ws s) = .refused) : Ends (spell (w :: ws) s) :=
  ⟨endsWord_cons.2 rfl, (spaced_spell hw).trans hcondition, (spaced_spell hw).trans htransition⟩

/-! ### Transitions -/

theorem transition_written {a : Arrow} (ht : IsName t) (hs : EndsWord s) :
    spaced transition (spell (a.sign :: t :: ws) s) =
      .read { target := t, arrow := a } (spell ws s) := by
  rw [spaced_spell (startsWord_sign a)]
  have harrow : arrow (a.sign.toList ++ spell (t :: ws) s) = .read a (spell (t :: ws) s) := by
    cases a <;> rfl
  have hname : expectName (t.toList ++ spell ws s) = .read t (spell ws s) :=
    orFail_eq_read.2 (name_written ht (endsWord_spell hs))
  exact bind_eq_read.2 ⟨a, _, harrow, bind_eq_read.2 ⟨(), _, trivia_spell (startsWord_of_isName ht),
    bind_eq_read.2 ⟨t, _, hname, rfl⟩⟩⟩

/-- No clause is in front of an arrow. -/
theorem clause_sign (a : Arrow) : spaced clause (spell (a.sign :: ws) s) = .refused := by
  rw [spaced_spell (startsWord_sign a)]
  cases a <;> rfl

/-- A reason behind the arrow, if there is one. -/
theorem many_tailClause_written {o : Option String}
    (h : Perhaps (fun y => Clause.Written (.why y)) o ws) (hs : spaced tailClause s = .refused) :
    many (spaced tailClause) (spell ws s) = .read (o.toList.map .why) s := by
  cases h with
  | none => exact many_of_refused hs
  | @some y _ hy =>
    cases hy with
    | @why _ w hy =>
      have hread : spaced tailClause (spell ["why:", w] s) = .read (.why y) s :=
        (spaced_spell ⟨_, _, rfl, .inl rfl⟩).trans (tailClause_why hy)
      rw [many_of_read consumes_tailClause.spaced hread, many_of_refused hs]
      rfl

theorem exitOf_written {u : Utterance} {o : Option Transition} (h : Perhaps Transition.Written o ws)
    (ho : ∀ x ∈ o, IsName x.target) (hu : u.transition = none) (hs : Closes s) :
    exitOf u (o.any (·.isPreferred)) (spell ws s) = .read { u with transition := o } s := by
  cases h with
  | none =>
    rw [← hu]
    exact bind_eq_read.2 ⟨none, s, optional_eq_read.2 (.inr ⟨hs.transition, rfl, rfl⟩), rfl⟩
  | @some x ws hx =>
    obtain ⟨target, arrow, isPreferred, why⟩ := x
    cases hx with
    | @intro ws hwhy =>
      have hread : spaced transition (spell (arrow.sign :: target :: ws) s) =
          .read { target, arrow } (spell ws s) := transition_written (ho _ rfl) hs.word
      refine bind_eq_read.2 ⟨_, _, optional_eq_read.2 (.inl ⟨_, hread, rfl⟩), ?_⟩
      refine bind_eq_read.2 ⟨_, s, many_tailClause_written hwhy hs.tailClause, ?_⟩
      cases why <;> simp [Clause.addBehindArrow]

theorem clause_exit {o : Option Transition} (h : Perhaps Transition.Written o ws) (hs : Closes s) :
    spaced clause (spell ws s) = .refused := by
  cases h with
  | none => exact hs.clause
  | some hx =>
    cases hx with
    | intro _ => exact clause_sign _

/-! ### Utterances -/

/-- An utterance behind its speaker. -/
def behindSpeaker (speaker : Speaker) (isPreferred : Bool) : Rule Utterance :=
  spaced expectText >>= fun text => many (spaced clause) >>= fun clauses =>
    exitOf (clauses.foldl Clause.addTo { speaker, text }) isPreferred

theorem behindSpeaker_written {u : Utterance} {cs : List Clause} (hu : u.Proper) (hs : Closes s)
    (htext : Quoted u.text w) (hperm : cs.Perm u.clauses) (hclauses : ClausesWritten cs ws)
    (hexit : Perhaps Transition.Written u.transition ws') :
    behindSpeaker u.speaker u.isPreferred (spell (w :: (ws ++ ws')) s) = .read u s := by
  refine bind_eq_read.2 ⟨u.text, _, expectText_written htext, ?_⟩
  rw [spell_append]
  refine bind_eq_read.2 ⟨cs, _, many_clause_written hclauses (clause_exit hexit hs), ?_⟩
  rw [foldl_addTo hperm]
  exact exitOf_written hexit (fun x hx => (hu.transition x hx).target) rfl hs

theorem speaker_sign (x : Speaker) : speaker (x.sign.toList ++ s) = .read x s := by
  cases x <;> rfl

theorem startsWord_speaker (x : Speaker) : StartsWord x.sign := by
  cases x <;> exact ⟨_, _, rfl, .inl rfl⟩

variable {inner : Rule (List Item)} {x : Speaker} {u : Utterance} {r : List Char}

theorem utterance_preferred (h : behindSpeaker x true (spell ws s) = .read u s) :
    utterance ("preferred".toList ++ spell (x.sign :: ws) s) = .read u s := by
  have hpreferred : (do keyword "preferred"; trivia : Rule Unit)
      ("preferred".toList ++ spell (x.sign :: ws) s) =
      .read () (x.sign.toList ++ spell ws s) :=
    bind_eq_read.2 ⟨(), _, keyword_eq_read.2 ⟨rfl, endsWord_cons.2 rfl⟩,
      trivia_spell (startsWord_speaker x)⟩
  rw [utterance_eq]
  exact bind_eq_read.2 ⟨_, _, optional_eq_read.2 (.inl ⟨(), hpreferred, rfl⟩),
    bind_eq_read.2 ⟨_, _, orFail_eq_read.2 (speaker_sign x), h⟩⟩

theorem utterance_sign (h : behindSpeaker x false (spell ws s) = .read u s) :
    utterance (x.sign.toList ++ spell ws s) = .read u s := by
  have hpreferred : (do keyword "preferred"; trivia : Rule Unit) (x.sign.toList ++ spell ws s) =
      .refused := by
    cases x <;> rfl
  rw [utterance_eq]
  exact bind_eq_read.2 ⟨none, _, optional_eq_read.2 (.inr ⟨hpreferred, rfl, rfl⟩),
    bind_eq_read.2 ⟨_, _, speaker_sign x, h⟩⟩

theorem item_utterance (h : u.Written ws) (hu : u.Proper) (hs : Closes s) :
    spaced (item inner) (spell ws s) = .read (.utterance u) s := by
  cases h with
  | @intro w cs ws ws' htext hperm hclauses hexit =>
    have hspoken := behindSpeaker_written hu hs htext hperm hclauses hexit
    cases hb : u.isPreferred with
    | true =>
      rw [hb] at hspoken
      rw [if_pos rfl, List.singleton_append, spaced_spell ⟨_, _, rfl, .inl rfl⟩]
      exact orElse_eq_read (p := Item.utterance <$> utterance) |>.2
        (.inl (map_eq_read.2 ⟨u, utterance_preferred hspoken, rfl⟩))
    | false =>
      rw [hb] at hspoken
      rw [if_neg Bool.false_ne_true, List.nil_append, spaced_spell (startsWord_speaker _)]
      have hitem : item inner (u.speaker.sign.toList ++ spell (w :: (ws ++ ws')) s) =
          ((Item.utterance <$> utterance) <|> (Item.event <$> event))
            (u.speaker.sign.toList ++ spell (w :: (ws ++ ws')) s) := by
        cases u.speaker <;> rfl
      rw [hitem]
      exact orElse_eq_read.2 (.inl (map_eq_read.2 ⟨u, utterance_sign hspoken, rfl⟩))

/-! ### Other items -/

theorem optional_condition_written {o : Option String}
    (h : Perhaps (fun t => Clause.Written (.condition t)) o ws)
    (hs : spaced condition s = .refused) :
    (spaced condition).optional (spell ws s) = .read o s := by
  cases h with
  | none => exact optional_eq_read.2 (.inr ⟨hs, rfl, rfl⟩)
  | some h => exact optional_eq_read.2 (.inl ⟨_, spaced_condition_written h, rfl⟩)

/-- A bare transition, which has no reason. -/
theorem optional_transition_written {o : Option Transition} (h : Perhaps Transition.Written o ws)
    (ho : ∀ x ∈ o, x.Bare) (hs : Ends s) :
    (spaced transition).optional (spell ws s) = .read o s := by
  cases h with
  | none => exact optional_eq_read.2 (.inr ⟨hs.transition, rfl, rfl⟩)
  | @some x ws hx =>
    obtain ⟨target, arrow, isPreferred, why⟩ := x
    obtain ⟨hname, rfl, rfl⟩ := ho _ rfl
    cases hx with
    | intro hwhy =>
      cases hwhy with
      | none => exact optional_eq_read.2 (.inl ⟨_, transition_written hname hs.word, rfl⟩)

theorem condition_exit {o : Option Transition} (h : Perhaps Transition.Written o ws) (hs : Ends s) :
    spaced condition (spell ws s) = .refused := by
  cases h with
  | none => exact hs.condition
  | @some x ws hx =>
    cases hx with
    | intro _ =>
      rw [spaced_spell (startsWord_sign _)]
      cases x.arrow <;> rfl

theorem item_event {e : Event} (h : e.Written ws) (he : e.Proper) (hs : Ends s) :
    spaced (item inner) (spell ws s) = .read (.event e) s := by
  cases h with
  | @intro w ws ws' htrigger hcondition htransition =>
    rw [spaced_spell ⟨_, _, rfl, .inl rfl⟩]
    have hread : event ("when:".toList ++ spell (w :: (ws ++ ws')) s) = .read e s := by
      refine bind_eq_read.2 ⟨_, _, labelled_written "when:" htrigger, ?_⟩
      rw [spell_append]
      exact bind_eq_read.2 ⟨_, _,
        optional_condition_written hcondition (condition_exit htransition hs),
        bind_eq_read.2 ⟨_, _, optional_transition_written htransition he.transition hs, rfl⟩⟩
    have hitem : item inner ("when:".toList ++ spell (w :: (ws ++ ws')) s) =
        (Item.event <$> event) ("when:".toList ++ spell (w :: (ws ++ ws')) s) := rfl
    rw [hitem]
    exact map_eq_read.2 ⟨e, hread, rfl⟩

theorem startsWord_let {o : String} (ho : o = "let" ∨ o = "let:") : StartsWord o := by
  rcases ho with rfl | rfl <;> exact ⟨_, _, rfl, .inl rfl⟩

/-- A value is a text or a name, and no text starts like a name. -/
theorem value_written {b : Binding} (h : Quoted b.value w ∨ w = b.value ∧ IsName w)
    (hs : EndsWord s) :
    spaced ((text <|> name).orFail .missingName) (spell [w] s) = .read b.value s := by
  rcases h with hvalue | ⟨rfl, hname⟩
  · rw [spaced_spell (startsWord_of_quoted hvalue)]
    exact orFail_eq_read.2 (orElse_eq_read.2 (.inl (text_written hvalue)))
  · rw [spaced_spell (startsWord_of_isName hname)]
    exact orFail_eq_read.2
      (orElse_eq_read.2 (.inr ⟨text_of_isName hname, name_written hname hs⟩))

theorem binding_written {b : Binding} {o : String} (ho : o = "let" ∨ o = "let:")
    (hvalue : Quoted b.value w ∨ w = b.value ∧ IsName w) (hb : b.Proper) (hs : EndsWord s) :
    binding (o.toList ++ spell [b.name, "=", w] s) = .read b s := by
  have hname : spaced name (spell [b.name, "=", w] s) = .read b.name (spell ["=", w] s) :=
    (spaced_spell (startsWord_of_isName hb.name)).trans
      (name_written hb.name (endsWord_cons.2 rfl))
  have hsign : spaced (expectMark '=') (spell ["=", w] s) = .read () (spell [w] s) :=
    (spaced_spell ⟨_, _, rfl, .inl rfl⟩).trans rfl
  have hrest : (do
      let name ← spaced name
      spaced (expectMark '=')
      let value ← spaced ((text <|> Source.name).orFail .missingName)
      pure { name, value } : Rule Binding) (spell [b.name, "=", w] s) = .read b s :=
    bind_eq_read.2 ⟨b.name, _, hname, bind_eq_read.2 ⟨(), _, hsign,
      bind_eq_read.2 ⟨b.value, s, value_written hvalue hs, rfl⟩⟩⟩
  rcases ho with rfl | rfl
  · exact bind_eq_read.2 ⟨(), _, keyword_eq_read.2 ⟨rfl, endsWord_cons.2 rfl⟩,
      bind_eq_read.2 ⟨none, _, rfl, hrest⟩⟩
  · exact bind_eq_read.2 ⟨(), ':' :: spell [b.name, "=", w] s,
      keyword_eq_read.2 ⟨rfl, endsWord_cons.2 rfl⟩, bind_eq_read.2 ⟨some (), _, rfl, hrest⟩⟩

theorem item_binding {b : Binding} (h : b.Written ws) (hb : b.Proper) (hs : EndsWord s) :
    spaced (item inner) (spell ws s) = .read (.binding b) s := by
  cases h with
  | @intro o w ho hvalue =>
    have hitem : ∀ s, item inner (o.toList ++ s) =
        ((Item.binding <$> binding) <|> (Item.why <$> labelled "why:") <|>
          (Item.effect <$> labelled "effect:") <|> flow inner <|> (Item.utterance <$> utterance) <|>
          (Item.event <$> event)) (o.toList ++ s) := by
      intro s
      rcases ho with rfl | rfl <;> rfl
    rw [spaced_spell (startsWord_let ho), hitem]
    exact orElse_eq_read.2 (.inl (map_eq_read.2 ⟨b, binding_written ho hvalue hb hs, rfl⟩))

/-- What each item has behind it. -/
def Leaves : Item → List Char → Prop
  | .utterance _, s => Closes s
  | _, s => Ends s

theorem item_written {i : Item} (h : i.Written ws) (hi : i.Proper) (hs : Leaves i s) :
    spaced (item inner) (spell ws s) = .read i s := by
  cases h with
  | @topic t w ht =>
    rw [spaced_spell ⟨_, _, rfl, .inl rfl⟩]
    exact orElse_eq_read.2 (.inl (map_eq_read.2 ⟨t, labelled_written "topic:" ht, rfl⟩))
  | @subtopic t w ht =>
    rw [spaced_spell ⟨_, _, rfl, .inl rfl⟩]
    exact orElse_eq_read.2 (.inr ⟨rfl, orElse_eq_read.2 (.inl
      (map_eq_read.2 ⟨t, labelled_written "subtopic:" ht, rfl⟩))⟩)
  | binding hb =>
    cases hi with
    | binding hproper => exact item_binding hb hproper hs.word
  | @why t w ht =>
    rw [spaced_spell ⟨_, _, rfl, .inl rfl⟩]
    exact orElse_eq_read.2 (.inr ⟨rfl, orElse_eq_read.2 (.inr ⟨rfl, orElse_eq_read.2 (.inr ⟨rfl,
      orElse_eq_read.2 (.inl (map_eq_read.2 ⟨t, labelled_written "why:" ht, rfl⟩))⟩)⟩)⟩)
  | @effect t w ht =>
    rw [spaced_spell ⟨_, _, rfl, .inl rfl⟩]
    exact orElse_eq_read.2 (.inr ⟨rfl, orElse_eq_read.2 (.inr ⟨rfl, orElse_eq_read.2 (.inr ⟨rfl,
      orElse_eq_read.2 (.inr ⟨rfl, orElse_eq_read.2 (.inl
        (map_eq_read.2 ⟨t, labelled_written "effect:" ht, rfl⟩))⟩)⟩)⟩)⟩)
  | utterance hu =>
    cases hi with
    | utterance hproper => exact item_utterance hu hproper hs
  | event he =>
    cases hi with
    | event hproper => exact item_event he hproper hs

/-! ### Bodies -/

theorem braced_cons_blank {c : Char} (hc : isBlank c = true) (p : Rule α) (s : List Char) :
    braced p (c :: s) = braced p s := by
  show ((trivia (c :: s)).bind _).bind _ = ((trivia s).bind _).bind _
  rw [trivia_cons_blank hc]

theorem braced_written {as : List α} (h : many (spaced p) (spell ws (spell ("\x7d" :: ws') s)) =
    .read as (spell ("\x7d" :: ws') s)) :
    braced p (spell ("\x7b" :: (ws ++ "\x7d" :: ws')) s) = .read as (spell ws' s) := by
  rw [spell_append.symm] at h
  refine bind_eq_read.2 ⟨(), _, (spaced_spell ⟨_, _, rfl, .inl rfl⟩).trans rfl, ?_⟩
  refine bind_eq_read.2 ⟨as, _, h, bind_eq_read.2 ⟨(), _, ?_, rfl⟩⟩
  exact (spaced_spell ⟨_, _, rfl, .inl rfl⟩).trans rfl

/-- A group is read part by part: its word, a name, a condition and the children. -/
theorem flow_of_parts {g : Grouping} {name c : Option String} {children : List Item}
    {r₁ r₂ : List Char} (hw : StartsWord w)
    (hname : (if g = .dialog then Source.name.optional else pure none) (w.toList ++ spell ws s) =
      .read name r₁)
    (hc : (if g = .dialog then pure none else condition.optional) r₁ = .read c r₂)
    (hchildren : inner r₂ = .read children r) :
    flow inner (g.word.toList ++ spell (w :: ws) s) = .read (.flow g name c children) r := by
  have hgroup : grouping (g.word.toList ++ spell (w :: ws) s) = .read g (spell (w :: ws) s) := by
    cases g <;> rfl
  rw [flow_eq]
  exact bind_eq_read.2 ⟨g, _, hgroup, bind_eq_read.2 ⟨(), _, trivia_spell hw,
    bind_eq_read.2 ⟨name, r₁, hname, bind_eq_read.2 ⟨c, r₂, hc,
      bind_eq_read.2 ⟨children, r, hchildren, rfl⟩⟩⟩⟩⟩

/-- Behind the word of a group stand a name, a condition or neither, and the children. -/
theorem flow_written {g : Grouping} {name c : Option String} {children : List Item}
    {cs : List String} (hname : ∀ n ∈ name, g = .dialog ∧ IsName n)
    (hc : ∀ t ∈ c, g ≠ .dialog ∧ IsText t)
    (hcs : Perhaps (fun t => Clause.Written (.condition t)) c cs)
    (hinner : ∀ s, inner (' ' :: s) = inner s)
    (hchildren : inner (spell ("\x7b" :: ws) s) = .read children r) :
    flow inner (g.word.toList ++ spell (name.toList ++ (cs ++ "\x7b" :: ws)) s) =
      .read (.flow g name c children) r := by
  cases name with
  | some n =>
    obtain ⟨rfl, hn⟩ := hname n rfl
    cases hcs with
    | some h => exact absurd rfl (hc _ rfl).1
    | none =>
      have hread : Source.name.optional (n.toList ++ spell ("\x7b" :: ws) s) =
          .read (some n) (spell ("\x7b" :: ws) s) :=
        optional_eq_read.2 (.inl ⟨n, name_written hn (endsWord_cons.2 rfl), rfl⟩)
      exact flow_of_parts (startsWord_of_isName hn) hread rfl hchildren
  | none =>
    cases hcs with
    | @some t cs h =>
      have hg := (hc t rfl).1
      cases h with
      | @condition o _ w ho ht =>
        refine flow_of_parts (startsWord_condition ho) (by rw [if_neg hg]; rfl) ?_ hchildren
        rw [if_neg hg]
        exact optional_eq_read.2 (.inl ⟨t, condition_written ho ht, rfl⟩)
    | none =>
      have hbehind : inner ("\x7b".toList ++ spell ws s) = .read children r :=
        (hinner _).symm.trans hchildren
      have hno : (if g = .dialog then Source.name.optional else pure none)
          ("\x7b".toList ++ spell ws s) = .read none ("\x7b".toList ++ spell ws s) := by
        cases g <;> rfl
      exact flow_of_parts ⟨_, _, rfl, .inl rfl⟩ hno (by cases g <;> rfl) hbehind

theorem item_flow {g : Grouping} {name c : Option String} {children : List Item} {cs : List String}
    (hname : ∀ n ∈ name, g = .dialog ∧ IsName n) (hc : ∀ t ∈ c, g ≠ .dialog ∧ IsText t)
    (hcs : Perhaps (fun t => Clause.Written (.condition t)) c cs)
    (hinner : ∀ s, inner (' ' :: s) = inner s)
    (hchildren : inner (spell ("\x7b" :: ws) s) = .read children r) :
    spaced (item inner) (spell (g.word :: (name.toList ++ (cs ++ "\x7b" :: ws))) s) =
      .read (.flow g name c children) r := by
  have hstart : StartsWord g.word := by
    cases g <;> exact ⟨_, _, rfl, .inl rfl⟩
  have hitem : ∀ s, item inner (g.word.toList ++ s) =
      (flow inner <|> (Item.utterance <$> utterance) <|> (Item.event <$> event))
        (g.word.toList ++ s) := by
    intro s
    cases g <;> rfl
  rw [spaced_spell hstart, hitem]
  exact orElse_eq_read.2 (.inl (flow_written hname hc hcs hinner hchildren))

/-! ### What follows an item -/

theorem ends_of_item {i : Item} (h : i.Written ws) (s : List Char) : Ends (spell ws s) := by
  cases h with
  | topic _ => exact ends_of_word ⟨_, _, rfl, .inl rfl⟩ rfl rfl
  | subtopic _ => exact ends_of_word ⟨_, _, rfl, .inl rfl⟩ rfl rfl
  | binding hb =>
    cases hb with
    | intro ho _ => rcases ho with rfl | rfl <;> exact ends_of_word ⟨_, _, rfl, .inl rfl⟩ rfl rfl
  | why _ => exact ends_of_word ⟨_, _, rfl, .inl rfl⟩ rfl rfl
  | effect _ => exact ends_of_word ⟨_, _, rfl, .inl rfl⟩ rfl rfl
  | @utterance u _ hu =>
    cases hu with
    | intro _ _ _ _ =>
      split
      · exact ends_of_word ⟨_, _, rfl, .inl rfl⟩ rfl rfl
      · cases u.speaker <;> exact ends_of_word ⟨_, _, rfl, .inl rfl⟩ rfl rfl
  | event he =>
    cases he with
    | intro _ _ _ => exact ends_of_word ⟨_, _, rfl, .inl rfl⟩ rfl rfl

/-- A binding with a colon is no clause, because no text is behind the colon. -/
theorem clause_binding {o n : String} (ho : o = "let" ∨ o = "let:") (hn : IsName n) :
    clause (o.toList ++ spell (n :: ws) s) = .refused := by
  rcases ho with rfl | rfl
  · rfl
  · have htext : spaced text (spell (n :: ws) s) = .refused :=
      (spaced_spell (startsWord_of_isName hn)).trans (text_of_isName hn)
    have hlet : (do
        mark "let:"
        let t ← spaced text
        pure (.binding t) : Rule Clause) ("let:".toList ++ spell (n :: ws) s) = .refused :=
      (bind_of_read (r := spell (n :: ws) s) rfl).trans (bind_of_refused htext)
    exact orElse_eq_refused.2 ⟨rfl, orElse_eq_refused.2 ⟨rfl, orElse_eq_refused.2 ⟨hlet, rfl⟩⟩⟩

theorem clause_of_item {i : Item} {u : Utterance} (h : i.Written ws) (hi : i.Proper)
    (hfree : ¬ Item.Attaches (.utterance u) i) : spaced clause (spell ws s) = .refused := by
  cases h with
  | topic _ => exact (spaced_spell ⟨_, _, rfl, .inl rfl⟩).trans rfl
  | subtopic _ => exact (spaced_spell ⟨_, _, rfl, .inl rfl⟩).trans rfl
  | binding hb =>
    cases hi with
    | binding hproper =>
      cases hb with
      | intro ho _ =>
        exact (spaced_spell (startsWord_let ho)).trans (clause_binding ho hproper.name)
  | why _ => exact absurd trivial hfree
  | effect _ => exact absurd trivial hfree
  | @utterance v _ hv =>
    cases hv with
    | intro _ _ _ _ =>
      split
      · exact (spaced_spell ⟨_, _, rfl, .inl rfl⟩).trans rfl
      · cases v.speaker <;> exact (spaced_spell ⟨_, _, rfl, .inl rfl⟩).trans rfl
  | event he =>
    cases he with
    | intro _ _ _ => exact (spaced_spell ⟨_, _, rfl, .inl rfl⟩).trans rfl

theorem ends_of_written {is : List Item} (h : Written is ws) :
    Ends (spell ws (spell ("\x7d" :: ws') s)) := by
  cases h with
  | nil => exact ends_of_word ⟨_, _, rfl, .inl rfl⟩ rfl rfl
  | cons hi _ =>
    rw [spell_append]
    exact ends_of_item hi _
  | @flow g _ _ _ _ _ _ _ _ _ _ =>
    cases g <;> exact ends_of_word ⟨_, _, rfl, .inl rfl⟩ rfl rfl

theorem clause_of_written {is : List Item} {u : Utterance} (h : Written is ws)
    (hproper : ∀ i ∈ is, i.Proper) (hfree : ∀ i ∈ is.head?, ¬ Item.Attaches (.utterance u) i) :
    spaced clause (spell ws (spell ("\x7d" :: ws') s)) = .refused := by
  cases h with
  | nil => exact (spaced_spell ⟨_, _, rfl, .inl rfl⟩).trans rfl
  | @cons i is ws₁ ws₂ hi _ =>
    rw [spell_append]
    exact clause_of_item hi (hproper i List.mem_cons_self) (hfree i rfl)
  | @flow g _ _ _ _ _ _ _ _ _ _ =>
    cases g <;> exact (spaced_spell ⟨_, _, rfl, .inl rfl⟩).trans rfl

theorem leaves_of_written {i : Item} {is : List Item} (h : Written is ws)
    (hproper : ∀ i ∈ is, i.Proper) (hapart : Item.Apart (i :: is)) :
    Leaves i (spell ws (spell ("\x7d" :: ws') s)) := by
  have hends : Ends (spell ws (spell ("\x7d" :: ws') s)) := ends_of_written h
  cases i with
  | utterance u => exact ⟨hends, clause_of_written h hproper (List.isChain_cons.1 hapart).1⟩
  | _ => exact hends

/-! ### Bodies -/

theorem block_cons_blank {c : Char} (hc : isBlank c = true) (levels : Nat) (s : List Char) :
    block (levels + 1) (c :: s) = block (levels + 1) s :=
  braced_cons_blank hc _ s

theorem consumes_spaced_item (levels : Nat) : Consumes (spaced (item (block levels))) :=
  (consumes_item (consumes_block levels).trims).spaced

/-- The items of a body are read one after the other, by induction on how they are written. -/
theorem many_item_written {is : List Item} (h : Written is ws) {levels : Nat}
    (hproper : ∀ i ∈ is, i.Proper) (hapart : Item.Apart is) (hdepth : Item.depthAll is ≤ levels)
    (ws' : List String) (s : List Char) :
    many (spaced (item (block levels))) (spell ws (spell ("\x7d" :: ws') s)) =
      .read is (spell ("\x7d" :: ws') s) := by
  induction h generalizing levels ws' s with
  | nil => exact many_of_refused ((spaced_spell ⟨_, _, rfl, .inl rfl⟩).trans rfl)
  | @cons i is ws₁ ws₂ hi his ih =>
    obtain ⟨hi', his'⟩ := List.forall_mem_cons.1 hproper
    have hrest := ih his' (List.isChain_cons.1 hapart).2 (Nat.max_le.1 hdepth).2 ws' s
    have hleaves : Leaves i (spell ws₂ (spell ("\x7d" :: ws') s)) :=
      leaves_of_written his his' hapart
    rw [spell_append, many_of_read (consumes_spaced_item _) (item_written hi hi' hleaves), hrest]
    rfl
  | @flow g name c children is cs ws₁ ws₂ hcs hchildren his ihchildren ih =>
    obtain ⟨hi', his'⟩ := List.forall_mem_cons.1 hproper
    obtain ⟨hdepth₁, hdepth₂⟩ := Nat.max_le.1 hdepth
    have hrest := ih his' (List.isChain_cons.1 hapart).2 hdepth₂ ws' s
    cases levels with
    | zero => cases hdepth₁
    | succ levels =>
      cases hi' with
      | flow hname hc hchildren' hapart' =>
        have hinner := braced_written (ihchildren hchildren' hapart'
          (Nat.le_of_succ_le_succ hdepth₁) ws₂ (spell ("\x7d" :: ws') s))
        have hread := item_flow hname hc hcs (block_cons_blank rfl levels) hinner
        rw [many_of_read (consumes_spaced_item _) hread, hrest]
        rfl

/-! ### Scenes -/

theorem keyword_ne_failed {v : String} {e : Fault} : keyword v s ≠ .failed e r := by
  intro h
  rcases Outcome.bind_eq_failed.1 h with hmark | ⟨_, r', -, hend⟩
  · unfold mark at hmark
    split at hmark <;> cases hmark
  · unfold wordEnd at hend
    split at hend
    · cases hend
    · split at hend <;> cases hend

/-- A scene may have any name, also that of a keyword. -/
theorem sceneName_written (ht : IsName t) :
    sceneName (t.toList ++ spell ("\x7b" :: ws) s) =
      .read (.normal, t) (spell ("\x7b" :: ws) s) := by
  have hname : name (t.toList ++ spell ("\x7b" :: ws) s) = .read t (spell ("\x7b" :: ws) s) :=
    name_written ht (endsWord_cons.2 rfl)
  have halert : (do
      keyword "alert"
      let id ← spaced name
      pure (.alert, id) : Rule (SceneVariant × String)) (t.toList ++ spell ("\x7b" :: ws) s) =
      .refused := by
    cases hword : keyword "alert" (t.toList ++ spell ("\x7b" :: ws) s) with
    | read _ r =>
      -- The scene is itself called `alert`, and no name is behind that.
      obtain ⟨htext, hr⟩ := keyword_eq_read.1 hword
      have halert : IsName "alert" := by decide
      have hname' := name_eq_read.2 ⟨htext, halert, hr⟩
      rw [hname] at hname'
      cases hname'
      exact (bind_of_read hword).trans
        (bind_of_refused ((spaced_spell ⟨_, _, rfl, .inl rfl⟩).trans rfl))
    | refused => exact bind_of_refused hword
    | failed e r => exact absurd hword keyword_ne_failed
  exact orElse_eq_read.2 (.inr ⟨halert, bind_eq_read.2 ⟨t, _, orFail_eq_read.2 hname, rfl⟩⟩)

theorem scene_written {is : List Item} (ht : IsName t)
    (hbody : body (spell ("\x7b" :: ws) s) = .read is r) :
    scene ("scene".toList ++ spell (t :: "\x7b" :: ws) s) =
      .read { id := t, variant := .normal, isMain := false,
              content := is.filter (! ·.isExit), exits := is.filter (·.isExit) } r := by
  have hname : spaced sceneName (spell (t :: "\x7b" :: ws) s) =
      .read (.normal, t) (spell ("\x7b" :: ws) s) :=
    (spaced_spell (startsWord_of_isName ht)).trans (sceneName_written ht)
  have hparts : sceneBody (spell ("\x7b" :: ws) s) =
      .read (is.filter (! ·.isExit), is.filter (·.isExit)) r :=
    bind_eq_read.2 ⟨is, r, hbody, rfl⟩
  exact bind_eq_read.2 ⟨false, _, rfl, bind_eq_read.2 ⟨_, _, hname,
    bind_eq_read.2 ⟨_, _, hparts, rfl⟩⟩⟩

theorem toList_intercalate (w : String) (ws : List String) :
    (" ".intercalate (w :: ws)).toList = w.toList ++ spell ws [] := by
  induction ws generalizing w with
  | nil => simp [spell]
  | cons v ws ih =>
    rw [String.intercalate_cons_cons, String.toList_append, ih, String.toList_append,
      List.append_assoc]
    rfl

end Source

open Source

/-- Whatever is proper can be written as the body of a scene, and however it is written, it is read
back, parted into the items that lead out of the scene and the others. -/
theorem Diagram.parse_written {x : String} {is : List Item} (hx : IsName x)
    (hproper : ∀ i ∈ is, i.Proper) (hapart : Item.Apart is)
    (hdepth : Item.depthAll is ≤ maxNesting) :
    (∃ ws, Written is ws) ∧ ∀ ws, Written is ws →
      parse (" ".intercalate ("scene" :: x :: "\x7b" :: (ws ++ ["\x7d"]))) =
        .ok ⟨[.scene { id := x, variant := .normal, isMain := false,
                       content := is.filter (! ·.isExit), exits := is.filter (·.isExit) }]⟩ := by
  refine ⟨exists_written hproper, fun ws hws => ?_⟩
  have hbody : body (spell ("\x7b" :: (ws ++ ["\x7d"])) []) = .read is [] :=
    braced_written (many_item_written hws hproper hapart hdepth [] [])
  have hscene := scene_written hx hbody
  have helement : spaced element ("scene".toList ++ spell (x :: "\x7b" :: (ws ++ ["\x7d"])) []) =
      .read _ [] :=
    (spaced_word ⟨_, _, rfl, .inl rfl⟩).trans
      (orElse_eq_read.2 (.inl (map_eq_read.2 ⟨_, hscene, rfl⟩)))
  have hend : many (spaced element) [] = .read [] [] := many_of_refused rfl
  have helements := many_of_read consumes_element.spaced helement
  rw [hend] at helements
  exact parse_eq_ok.2 ⟨[], by
    rw [toList_intercalate]
    exact bind_eq_read.2 ⟨_, [], helements, rfl⟩⟩

/-- An utterance with two clauses and a preferred way out. -/
def wish : Utterance :=
  { speaker := .user, text := "say \"b\"", trigger := some "t", why := some "y",
    transition := some { target := "scene", arrow := .repair, isPreferred := true, why := some "z" } }

/-- A group in which the utterance stands in front of a binding, and an event. -/
def wishes : List Item := [
  .flow .xor none (some "it's") [.utterance wish, .binding { name := "v", value := "let" }],
  .event { trigger := "\x7d", transition := some { target := "B", arrow := .normal } }]

def wishWords : List String := ["xor", "if", "\"it's\"", "\x7b",
  "preferred", "u:", "'say \"b\"'", "why:", "'y'", "when", "\"t\"", "..>", "scene", "why:", "\"z\"",
  "let:", "v", "=", "let", "\x7d", "when:", "'\x7d'", "->", "B"]

theorem parse_written_wishes :
    Diagram.parse (" ".intercalate ("scene" :: "alert" :: "\x7b" :: (wishWords ++ ["\x7d"]))) =
      .ok ⟨[.scene { id := "alert", variant := .normal, isMain := false, content := wishes.take 1,
                     exits := wishes.drop 1 }]⟩ := by
  have halert : IsName "alert" := by decide
  have hscene : IsName "scene" := by decide
  have hv : IsName "v" := by decide
  have hlet : IsName "let" := by decide
  have hB : IsName "B" := by decide
  have hcondition : Quoted "it's" "\"it's\"" := ⟨'"', .inl rfl, by decide, rfl⟩
  have htext : Quoted wish.text "'say \"b\"'" := ⟨'\'', .inr rfl, by decide, rfl⟩
  have hwhy : Quoted "y" "'y'" := ⟨'\'', .inr rfl, by decide, rfl⟩
  have htrigger : Quoted "t" "\"t\"" := ⟨'"', .inl rfl, by decide, rfl⟩
  have hreason : Quoted "z" "\"z\"" := ⟨'"', .inl rfl, by decide, rfl⟩
  have hevent : Quoted "\x7d" "'\x7d'" := ⟨'\'', .inr rfl, by decide, rfl⟩
  have hwish : wish.Proper := by
    constructor <;> simp [wish, hwhy.isText, htrigger.isText]
    · exact htext.isText
    · exact ⟨hscene, by simpa using hreason.isText⟩
  have hproper : ∀ i ∈ wishes, i.Proper := by
    refine List.forall_mem_cons.2 ⟨.flow (by simp) ?_ ?_ (by simp [Item.Apart, Item.Attaches]), ?_⟩
    · rintro _ ⟨⟩
      exact ⟨by decide, hcondition.isText⟩
    · simp only [List.forall_mem_cons, List.not_mem_nil, false_imp_iff, implies_true, and_true]
      exact ⟨.utterance hwish, .binding ⟨hv, isText_of_isName hlet⟩⟩
    · simp only [List.forall_mem_cons, List.not_mem_nil, false_imp_iff, implies_true, and_true]
      exact .event ⟨hevent.isText, by simp, by simpa using ⟨hB, rfl, rfl⟩⟩
  have hclauses := ClausesWritten.cons (.why hwhy) (.cons (.trigger htrigger) .nil)
  have hwritten := Utterance.Written.intro htext (by decide) hclauses
    (.some (.intro (.some (.why hreason))))
  have hchildren := Written.cons (.utterance hwritten)
    (.cons (.binding (.intro (b := ⟨"v", "let"⟩) (.inr rfl) (.inr ⟨rfl, hlet⟩))) .nil)
  have hwishes : Written wishes wishWords :=
    Written.flow (g := .xor) (.some (.condition (.inr rfl) hcondition)) hchildren
      (.cons (.event (.intro (e := ⟨"\x7d", none, _⟩) hevent .none
        (.some (.intro (t := ⟨"B", .normal, false, none⟩) .none)))) .nil)
  have hapart : Item.Apart wishes := by simp [wishes, Item.Apart, Item.Attaches]
  exact (Diagram.parse_written halert hproper hapart (by decide)).2 wishWords hwishes

end Interaction
