import Interaction.Proofs.CutShort
import Interaction.Proofs.Faults

/-!
# A missing last brace

A text is `Clipped` if its last character was a closing brace. Words and trivia read the same from
it (`Word.clipped`, `clipped_trivia`); only a line comment would have taken the brace, too. A rule
with braces may fail, but then for no other reason than the brace that it misses at the end of the
text (`AtMostMisses`). This goes over to what is put together, so it holds of elements
(`atMostMisses_nested`) and of diagrams.
-/

namespace Interaction
open Rule
namespace Source

/-- A text that ends in a closing brace, and the same text without it; or nothing is left of both. -/
inductive Clipped : List Char → List Char → Prop
  | brace (a : List Char) : Clipped (a ++ ['}']) a
  | done : Clipped [] []

variable {α β : Type} {p q : Rule α} {f : α → Rule β} {a r : List Char}

/-- A word that does not end in the brace leaves it. -/
theorem exists_eq_append_brace {w : List Char} (hw : w.getLast? ≠ some '}')
    (h : a ++ ['}'] = w ++ r) : ∃ b, r = b ++ ['}'] ∧ a = w ++ b := by
  rcases List.eq_nil_or_concat r with rfl | ⟨b, c, rfl⟩
  · rw [List.append_nil] at h
    exact absurd (by simp [← h]) hw
  · rw [List.concat_eq_append, ← List.append_assoc] at h
    obtain ⟨rfl, hc⟩ := List.append_inj' h rfl
    cases hc
    exact ⟨b, List.concat_eq_append, rfl⟩

theorem steady_clipped (htrims : Trims p)
    (hread : ∀ ⦃a x r⦄, p (a ++ ['}']) = .read x r → ∃ r', p a = .read x r' ∧ Clipped r r')
    (hrefused : ∀ ⦃a⦄, p (a ++ ['}']) = .refused → p a = .refused) : Steady Clipped p := by
  intro s s' h
  cases h with
  | brace =>
    cases h : p (s' ++ ['}']) with
    | read x r =>
      obtain ⟨r', hr', hclipped⟩ := hread h
      rw [hr']
      exact .read x hclipped
    | refused =>
      rw [hrefused h]
      exact .refused
    | failed e r => exact .failed _
  | done =>
    cases h : p [] with
    | read x r =>
      obtain rfl := List.suffix_nil.1 (htrims h)
      exact .read x .done
    | refused => exact .refused
    | failed e r => exact .failed _

/-! ### Words -/

theorem clipped_mark {w : String} (hw : w.toList.getLast? ≠ some '}') :
    Steady Clipped (mark w) := by
  refine steady_clipped (trims_mark w) (fun a _ r h => ?_) fun a h => ?_
  · obtain ⟨b, rfl, hb⟩ := exists_eq_append_brace hw (mark_eq_read.1 h)
    exact ⟨b, mark_eq_read.2 hb, .brace b⟩
  · rw [mark_eq_refused] at h ⊢
    exact fun hstart => h (hstart.trans (List.prefix_append a _))

theorem clipped_wordEnd : Steady Clipped wordEnd := by
  refine steady_clipped (fun s _ r h => (wordEnd_eq_read.1 h).1 ▸ List.suffix_rfl)
    (fun a _ r h => ?_) fun a h => ?_
  · obtain ⟨rfl, hend⟩ := wordEnd_eq_read.1 h
    exact ⟨a, wordEnd_eq_read.2 ⟨rfl, hend.of_append⟩, .brace a⟩
  · rw [wordEnd_eq_refused] at h ⊢
    refine fun hend => h ?_
    cases a with
    | nil => exact endsWord_cons.2 rfl
    | cons c a => exact endsWord_cons.2 (endsWord_cons.1 hend)

theorem head?_append_brace {c : Char} (hc : c ≠ '}') :
    (a ++ ['}']).head? = some c ↔ a.head? = some c := by
  cases a with
  | nil => simpa using hc.symm
  | cons d a => simp

theorem clipped_notNext {c : Char} (hc : c ≠ '}') : Steady Clipped (notNext c) := by
  refine steady_clipped (trims_notNext c) (fun a _ r h => ?_) fun a h => ?_
  · obtain ⟨rfl, hnext⟩ := notNext_eq_read.1 h
    rw [Ne, head?_append_brace hc] at hnext
    exact ⟨a, notNext_eq_read.2 ⟨rfl, hnext⟩, .brace a⟩
  · rw [notNext_eq_refused] at h ⊢
    exact (head?_append_brace hc).1 h

theorem clipped_isNext {c : Char} (hc : c ≠ '}') : Steady Clipped (isNext c) := by
  refine steady_clipped (trims_isNext c) (fun a _ r h => ?_) fun a h => by cases h
  cases h
  have hnext : ((a ++ ['}']).head? == some c) = (a.head? == some c) := by
    rw [Bool.eq_iff_iff, beq_iff_eq, beq_iff_eq, head?_append_brace hc]
  rw [hnext]
  exact ⟨a, rfl, .brace a⟩

theorem clipped_expectMark {c : Char} (hc : c ≠ '}') : Steady Clipped (expectMark c) := by
  refine steady_clipped (consumes_expectMark c).trims (fun a _ r h => ?_) fun a h => ?_
  · have hlast : [c].getLast? ≠ some '}' := by simpa using hc
    obtain ⟨b, rfl, hb⟩ := exists_eq_append_brace hlast (expectMark_eq_read.1 h)
    exact ⟨b, expectMark_eq_read.2 hb, .brace b⟩
  · exact absurd h (commits_expectMark c _)

theorem clipped_name : Steady Clipped name := by
  refine steady_clipped consumes_name.trims (fun a t r h => ?_) fun a h => ?_
  · obtain ⟨heq, ht, hend⟩ := name_eq_read.1 h
    have hlast : t.toList.getLast? ≠ some '}' := fun hlast =>
      absurd (ht.isNameChar _ (List.mem_of_getLast? hlast)) (by decide)
    obtain ⟨b, rfl, hb⟩ := exists_eq_append_brace hlast heq
    exact ⟨b, name_eq_read.2 ⟨hb, ht, hend.of_append⟩, .brace b⟩
  · rw [name_eq_refused] at h ⊢
    cases a with
    | nil => simp
    | cons c a => exact h

theorem clipped_text : Steady Clipped text := by
  refine steady_clipped consumes_text.trims (fun a t r h => ?_) fun a => text_refused_of_append
  obtain ⟨q, hq, hmem, heq⟩ := text_eq_read.1 h
  have hlast : (q :: (t.toList ++ [q])).getLast? ≠ some '}' := by
    rw [← List.cons_append, List.getLast?_concat]
    rcases hq with rfl | rfl <;> decide
  obtain ⟨b, rfl, rfl⟩ := exists_eq_append_brace (r := r) hlast (by simpa using heq)
  exact ⟨b, text_eq_read.2 ⟨q, hq, hmem, by simp⟩, .brace b⟩

theorem Word.clipped (hp : Word p) : Steady Clipped p := by
  have hne : ∀ {c}, isInner c = true → c ≠ '}' := by
    rintro _ hc rfl
    cases hc
  cases hp with
  | pure x => exact steady_pure x
  | fail e => exact steady_fail e
  | mark hw =>
    exact clipped_mark fun hlast =>
      hne (List.all_eq_true.1 hw _ (List.mem_of_getLast? hlast)) rfl
  | wordEnd => exact clipped_wordEnd
  | notNext hc => exact clipped_notNext (hne hc)
  | isNext hc => exact clipped_isNext (hne hc)
  | expectMark hc => exact clipped_expectMark (hne hc)
  | name => exact clipped_name
  | text => exact clipped_text

/-! ### Trivia -/

theorem clipped_blanks : Steady Clipped blanks := by
  refine steady_clipped consumes_blanks.trims (fun a _ r h => ?_) fun a h => ?_
  · obtain ⟨c, s, heq, hc, rfl⟩ := blanks_eq_read.1 h
    cases a with
    | nil =>
      cases heq
      cases hc
    | cons d a =>
      cases heq
      refine ⟨a.dropWhile isBlank, blanks_eq_read.2 ⟨c, a, rfl, hc, rfl⟩, ?_⟩
      have hdrop : (a ++ ['}']).dropWhile isBlank = a.dropWhile isBlank ++ ['}'] := by
        rw [List.dropWhile_append]
        cases a.dropWhile isBlank <;> rfl
      exact hdrop ▸ .brace _
  · rw [blanks_eq_refused] at h ⊢
    cases a with
    | nil => simp
    | cons c a => exact h

theorem LineEnds.append (h : LineEnds r) (hr : r ≠ []) (s : List Char) : LineEnds (r ++ s) := by
  cases h with
  | nil => exact absurd rfl hr
  | feed r => exact .feed (r ++ s)
  | returnFeed r => exact .returnFeed (r ++ s)

theorem LineEnds.of_append_brace (h : LineEnds (r ++ ['}'])) : LineEnds r := by
  generalize hs : r ++ ['}'] = s at h
  cases h with
  | nil => simp at hs
  | feed s =>
    cases r with
    | nil => cases hs
    | cons c r =>
      cases hs
      exact .feed r
  | returnFeed s =>
    cases r with
    | nil => cases hs
    | cons c r =>
      cases r with
      | nil => cases hs
      | cons d r =>
        cases hs
        exact .returnFeed r

/-- A brace behind a line comment is taken, or its line has ended already. -/
theorem exists_lineComment_brace {u : Unit} (h : lineComment a = .read u r) :
    ∃ r', lineComment (a ++ ['}']) = .read () r' := by
  obtain ⟨m, x, hm, rfl, hx, hr⟩ := lineComment_eq_read.1 h
  by_cases hnil : r = []
  · subst hnil
    have hbrace : OneLine (x ++ ['}']) :=
      List.forall_mem_append.2 ⟨hx, List.forall_mem_singleton.2 rfl⟩
    exact ⟨[], lineComment_eq_read.2 ⟨m, x ++ ['}'], hm, by simp, hbrace, .nil⟩⟩
  · exact ⟨r ++ ['}'], lineComment_eq_read.2 ⟨m, x, hm, by simp, hx, hr.append hnil _⟩⟩

/-- A line comment at the end of the text takes the brace, any other leaves it. -/
theorem clipped_lineComment : Steady Clipped lineComment := by
  refine steady_clipped consumes_lineComment.trims (fun a _ r h => ?_) fun a h => ?_
  · obtain ⟨m, x, hm, heq, hx, hr⟩ := lineComment_eq_read.1 h
    have hmark : m.toList.getLast? ≠ some '}' := by rcases hm with rfl | rfl <;> decide
    obtain ⟨b, hrest, rfl⟩ := exists_eq_append_brace hmark heq
    rcases List.eq_nil_or_concat r with rfl | ⟨r, c, rfl⟩
    · rw [List.append_nil] at hrest
      subst hrest
      have hb : OneLine b := fun c hc => hx c (List.mem_append_left _ hc)
      exact ⟨[], lineComment_eq_read.2 ⟨m, b, hm, by simp, hb, .nil⟩, .done⟩
    · rw [List.concat_eq_append, ← List.append_assoc] at hrest
      obtain ⟨rfl, hc⟩ := List.append_inj' hrest rfl
      cases hc
      rw [List.concat_eq_append] at hr ⊢
      exact ⟨r, lineComment_eq_read.2 ⟨m, x, hm, rfl, hx, hr.of_append_brace⟩, .brace r⟩
  · cases hs : lineComment a with
    | read _ r =>
      obtain ⟨r', hread⟩ := exists_lineComment_brace hs
      rw [h] at hread
      cases hread
    | refused => rfl
    | failed e r => exact ((blames_lineComment (P := fun _ => False)).failed hs).2.elim

theorem clipped_blockComment : Steady Clipped blockComment := by
  refine steady_clipped consumes_blockComment.trims (fun a _ r h => ?_) fun a h => ?_
  · obtain ⟨x, heq, hx⟩ := blockComment_eq_read.1 h
    have hlast : (('/' :: '*' :: (x ++ ['*'])) ++ ['/']).getLast? ≠ some '}' := by
      rw [List.getLast?_concat]
      decide
    obtain ⟨b, rfl, rfl⟩ := exists_eq_append_brace (r := r) hlast (by simpa using heq)
    exact ⟨b, blockComment_eq_read.2 ⟨x, by simp, hx⟩, .brace b⟩
  · rw [blockComment_eq_refused, mark_eq_refused] at h ⊢
    exact fun hstart => h (hstart.trans (List.prefix_append a _))

theorem clipped_trivia : Steady Clipped trivia :=
  ((clipped_blanks.orElse (clipped_lineComment.orElse clipped_blockComment)).many
    consumes_triviaUnit).bind fun _ => steady_pure ()

/-! ### Rules with braces -/

/-- What comes of a clipped text, the second one, is the same, or the brace is missed at its end. -/
inductive MissesBrace : Outcome α → Outcome α → Prop
  | read (x : α) {r r' : List Char} (h : Clipped r r') : MissesBrace (.read x r) (.read x r')
  | refused : MissesBrace .refused .refused
  | failed {e : Fault} {r : List Char} (o : Outcome α) : MissesBrace (.failed e r) o
  | missing (o : Outcome α) : MissesBrace o (.failed (.missing '}') [])

namespace MissesBrace

theorem of_agrees {o o' : Outcome α} (h : Agrees Clipped o o') : MissesBrace o o' := by
  cases h with
  | read x h => exact .read x h
  | refused => exact .refused
  | failed o => exact .failed _

theorem bind {o o' : Outcome α} {f : α → List Char → Outcome β} (h : MissesBrace o o')
    (hf : ∀ x ⦃r r'⦄, Clipped r r' → MissesBrace (f x r) (f x r')) :
    MissesBrace (o.bind f) (o'.bind f) := by
  cases h with
  | read x h => exact hf x h
  | refused => exact .refused
  | failed o => exact .failed _
  | missing o => exact .missing _

theorem orElse {o o' : Outcome α} {q q' : Unit → Outcome α} (h : MissesBrace o o')
    (hq : MissesBrace (q ()) (q' ())) : MissesBrace (o.orElse q) (o'.orElse q') := by
  cases h with
  | read x h => exact .read x h
  | refused => exact hq
  | failed o => exact .failed _
  | missing o => exact .missing _

end MissesBrace

/-- At most, the rule misses the brace at the end of a clipped text. -/
def AtMostMisses (p : Rule α) : Prop := ∀ ⦃s s'⦄, Clipped s s' → MissesBrace (p s) (p s')

namespace AtMostMisses

theorem of_steady (hp : Steady Clipped p) : AtMostMisses p := fun _ _ h => .of_agrees (hp h)

theorem bind (hp : AtMostMisses p) (hf : ∀ x, AtMostMisses (f x)) : AtMostMisses (p >>= f) :=
  fun _ _ h => (hp h).bind hf

theorem orElse (hp : AtMostMisses p) (hq : AtMostMisses q) : AtMostMisses (p <|> q) := by
  intro s s' h
  rw [orElse_apply, orElse_apply]
  exact (hp h).orElse (hq h)

theorem spaced (hp : AtMostMisses p) : AtMostMisses (spaced p) :=
  (of_steady clipped_trivia).bind fun _ => hp

theorem many (hp : AtMostMisses p) (hc : Consumes p) : AtMostMisses (many p) := by
  intro s s' h
  have hstep := hp h
  cases hs : p s with
  | read x r =>
    rw [hs] at hstep
    generalize hs' : p s' = o at hstep
    cases hstep with
    | read _ hr =>
      have hlt := (hc hs).2
      rw [many_of_read hc hs, many_of_read hc hs']
      exact (many hp hc hr).bind fun xs _ _ hr => .read (x :: xs) hr
    | missing =>
      rw [many_of_failed hs']
      exact .missing _
  | refused =>
    rw [hs] at hstep
    generalize hs' : p s' = o at hstep
    cases hstep with
    | refused =>
      rw [many_of_refused hs, many_of_refused hs']
      exact .read [] h
    | missing =>
      rw [many_of_failed hs']
      exact .missing _
  | failed e r =>
    rw [many_of_failed hs]
    exact .failed _
termination_by s => s.length

end AtMostMisses

theorem atMostMisses_closingBrace : AtMostMisses (expectMark '}') := by
  intro s s' h
  cases h with
  | brace =>
    cases s' with
    | nil => exact .missing _
    | cons c a =>
      rw [List.cons_append, expectMark, expectMark]
      split
      · exact .read () (.brace a)
      · exact .failed _
  | done => exact .failed _

theorem atMostMisses_braced (hp : AtMostMisses p) (hc : Consumes p) : AtMostMisses (braced p) := by
  have hopen : AtMostMisses (spaced (expectMark '{')) :=
    .spaced (.of_steady (clipped_expectMark (by decide)))
  refine hopen.bind fun _ => (hp.spaced.many hc.spaced).bind fun _ => ?_
  exact atMostMisses_closingBrace.spaced.bind fun _ => .of_steady (steady_pure _)

theorem atMostMisses_nested (hp : Nested p) : AtMostMisses p := by
  induction hp with
  | flat hp => exact .of_steady (hp.steady Word.clipped clipped_trivia)
  | bind _ _ ihp ihf => exact ihp.bind ihf
  | orElse _ _ ihp ihq => exact ihp.orElse ihq
  | braced _ hc ihp => exact atMostMisses_braced ihp hc

theorem atMostMisses_diagram : AtMostMisses diagram := by
  have hend : Steady Clipped (atEnd.orFail .notAnElement) := by
    intro s s' h
    cases h with
    | brace a =>
      have hfailed : atEnd.orFail .notAnElement (s' ++ ['}']) =
          .failed .notAnElement (s' ++ ['}']) := by
        cases s' <;> rfl
      rw [hfailed]
      exact .failed _
    | done => exact .read () .done
  refine ((atMostMisses_nested nested_element).spaced.many consumes_element.spaced).bind fun _ => ?_
  exact (AtMostMisses.of_steady hend).spaced.bind fun _ => .of_steady (steady_pure _)

end Source

open Source

namespace Diagram

/-- If a source is rejected that is a diagram with one more closing brace at its end, then for that
brace and at its end. -/
theorem parse_missing_lastBrace {source : String} {d : Diagram} {e : SyntaxError}
    (hd : parse (source ++ "\x7d") = .ok d) (he : parse source = .error e) :
    e.message = "expected `\x7d`" ∧ e.place.position = source.length ∧
      e.place.line = 1 + source.toList.count '\n' := by
  obtain ⟨r, hread⟩ := parse_eq_ok.1 hd
  obtain ⟨fault, r', hfailed, rfl⟩ := parse_eq_error_iff.1 he
  have hclipped : Clipped (source ++ "\x7d").toList source.toList := by
    rw [String.toList_append]
    exact .brace source.toList
  have hmisses := atMostMisses_diagram hclipped
  rw [hread, hfailed] at hmisses
  cases hmisses with
  | missing =>
    have hmessage : (Fault.missing '}').message = "expected `\x7d`" := by decide +kernel
    refine ⟨hmessage, ?_, ?_⟩
    · simp [SyntaxError.before, Place.after, String.length_toList]
    · simp [SyntaxError.before, Place.after, Nat.add_comm]

/-- The braces in quotes and in comments close nothing, and only the scene is left open. -/
def unfinished : String :=
  "contact C \x7b u: '\x7d' \x7d\nscene A \x7b seq \x7b let x = y\n\x7d /* \x7d */ \n% c\n"

theorem parse_missing_lastBrace_unfinished : ∃ d e, parse (unfinished ++ "\x7d") = .ok d ∧
    d.elements.map Element.id = ["C", "A"] ∧ parse unfinished = .error e ∧
    e.message = "expected `\x7d`" ∧ e.place.position = unfinished.length ∧
    e.place.line = 1 + unfinished.toList.count '\n' := by
  have hids : (parse (unfinished ++ "\x7d")).toOption.map (·.elements.map Element.id) =
      some ["C", "A"] := by
    decide +kernel
  have hrejected : (parse unfinished).toOption.isNone = true := by decide +kernel
  cases hd : parse (unfinished ++ "\x7d") with
  | error e => rw [hd] at hids; cases hids
  | ok d =>
    cases he : parse unfinished with
    | ok d' => rw [he] at hrejected; cases hrejected
    | error e =>
      rw [hd] at hids
      exact ⟨d, e, rfl, Option.some.inj hids, rfl, parse_missing_lastBrace hd he⟩

end Diagram
end Interaction
