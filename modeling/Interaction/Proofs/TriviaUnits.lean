import Mathlib.Logic.Relation
import Interaction.Proofs.Faults
import Interaction.Proofs.Trivia

/-!
# Trivia is skipped unit by unit

`TriviaStep` goes over one unit of trivia at the front of a text, `TriviaRun` over any number of
them. The ways through a run of blanks are many, but they make no difference to what `trivia` does
(`TriviaStep.trivia_eq`, `TriviaRun.trivia_eq`). So what is skipped is a run of units that cannot go
on, and the one way to fail is a comment behind such a run that is opened and not closed
(`trivia_exact`).
-/

namespace Interaction
open Rule
namespace Source

/-- The second text is what is left of the first one behind a unit of trivia: some blanks, a line
comment up to the end of its line, or a comment up to the first mark that closes it. -/
inductive TriviaStep : List Char → List Char → Prop
  | blanks {t r : List Char} (ht : t ≠ []) (hblank : ∀ c ∈ t, isBlank c = true) :
    TriviaStep (t ++ r) r
  | line {m : String} {x r : List Char} (hm : IsLineMark m) (hx : OneLine x) (hr : LineEnds r) :
    TriviaStep (m.toList ++ (x ++ r)) r
  | block {x r : List Char} (hx : Unclosed x) : TriviaStep ('/' :: '*' :: (x ++ '*' :: '/' :: r)) r

/-- Units of trivia, one behind the other, in front of the second text. -/
abbrev TriviaRun : List Char → List Char → Prop := Relation.ReflTransGen TriviaStep

variable {s r : List Char} {u : Unit}

theorem trivia_append_blanks {t : List Char} (ht : ∀ c ∈ t, isBlank c = true) (s : List Char) :
    trivia (t ++ s) = trivia s := by
  induction t with
  | nil => rfl
  | cons c t ih =>
    obtain ⟨hc, ht⟩ := List.forall_mem_cons.1 ht
    rw [List.cons_append, trivia_cons_blank hc, ih ht]

theorem TriviaStep.trivia_eq (h : TriviaStep s r) : trivia s = trivia r := by
  cases h with
  | blanks _ hblank => exact trivia_append_blanks hblank r
  | line hm hx hr =>
    exact trivia_of_read (u := ())
      (triviaUnit_of_lineComment (lineComment_eq_read.2 ⟨_, _, hm, rfl, hx, hr⟩))
  | block hx =>
    exact trivia_of_read (u := ()) (triviaUnit_of_blockComment (blockComment_eq_read.2 ⟨_, rfl, hx⟩))

theorem TriviaRun.trivia_eq (h : TriviaRun s r) : trivia s = trivia r := by
  induction h with
  | refl => rfl
  | tail _ hstep ih => exact ih.trans hstep.trivia_eq

/-- Every unit that is read is one. -/
theorem triviaStep_of_triviaUnit (h : triviaUnit s = .read u r) : TriviaStep s r := by
  rcases orElse_eq_read.1 h with hblanks | ⟨-, h⟩
  · obtain ⟨c, s, rfl, hc, rfl⟩ := blanks_eq_read.1 hblanks
    have hsplit : c :: s = (c :: s.takeWhile isBlank) ++ s.dropWhile isBlank := by
      rw [List.cons_append, List.takeWhile_append_dropWhile]
    rw [hsplit]
    exact .blanks (by simp) (List.forall_mem_cons.2 ⟨hc, of_mem_takeWhile⟩)
  rcases orElse_eq_read.1 h with hline | ⟨-, hblock⟩
  · obtain ⟨m, x, hm, rfl, hx, hr⟩ := lineComment_eq_read.1 hline
    exact .line hm hx hr
  · obtain ⟨x, rfl, hx⟩ := blockComment_eq_read.1 hblock
    exact .block hx

theorem blockComment_eq_failed {e : Fault} :
    blockComment s = .failed e r ↔ e = .unclosedComment ∧ s = '/' :: '*' :: r ∧ Unclosed r := by
  refine bind_eq_failed.trans ?_
  constructor
  · rintro (h | ⟨_, s', hmark, h⟩)
    · unfold mark at h
      split at h <;> cases h
    · split at h
      · cases h
      · rename_i hclose
        cases h
        exact ⟨rfl, mark_eq_read.1 hmark, behindClose?_eq_none.1 hclose⟩
  · rintro ⟨rfl, rfl, hr⟩
    refine .inr ⟨(), r, rfl, ?_⟩
    simp only [behindClose?_eq_none.2 hr]

theorem triviaUnit_eq_failed {e : Fault} :
    triviaUnit s = .failed e r ↔ e = .unclosedComment ∧ s = '/' :: '*' :: r ∧ Unclosed r := by
  refine ⟨fun h => ?_, fun h => ?_⟩
  · rcases orElse_eq_failed.1 h with h | ⟨-, h⟩
    · exact ((blames_blanks (P := fun _ => False)).failed h).2.elim
    rcases orElse_eq_failed.1 h with h | ⟨-, h⟩
    · exact ((blames_lineComment (P := fun _ => False)).failed h).2.elim
    · exact blockComment_eq_failed.1 h
  · obtain ⟨-, rfl, -⟩ := id h
    exact blockComment_eq_failed.2 h

/-- All units are skipped, up to a comment that is not closed or to where none starts. -/
theorem exists_triviaRun (s : List Char) :
    (∃ r, trivia s = .failed .unclosedComment r ∧ TriviaRun s ('/' :: '*' :: r) ∧ Unclosed r) ∨
      ∃ r, trivia s = .read () r ∧ TriviaRun s r ∧ triviaUnit r = .refused := by
  cases hs : triviaUnit s with
  | read _ s' =>
    have hlt := (consumes_triviaUnit hs).2
    have hstep := triviaStep_of_triviaUnit hs
    rw [hstep.trivia_eq]
    rcases exists_triviaRun s' with ⟨r, hr, hrun, hopen⟩ | ⟨r, hr, hrun, hend⟩
    · exact .inl ⟨r, hr, .head hstep hrun, hopen⟩
    · exact .inr ⟨r, hr, .head hstep hrun, hend⟩
  | refused => exact .inr ⟨s, trivia_of_refused hs, .refl, hs⟩
  | failed e r =>
    obtain ⟨rfl, rfl, hopen⟩ := triviaUnit_eq_failed.1 hs
    exact .inl ⟨r, bind_of_failed (many_of_failed hs), .refl, hopen⟩
termination_by s.length

/-- No unit of trivia stands at the front: no blank, no comment between marks, and no line comment,
unless a carriage return alone spoils it. -/
structure Untrivial (s : List Char) : Prop where
  blank : ∀ c ∈ s.head?, isBlank c = false
  block : ¬ ['/', '*'] <+: s
  line : ∀ m x, IsLineMark m → s = m.toList ++ x → ∃ y r, x = y ++ r ∧ OneLine y ∧ LoneReturn r

theorem untrivial_of_refused (h : triviaUnit s = .refused) : Untrivial s := by
  obtain ⟨hblank, h⟩ := orElse_eq_refused.1 h
  obtain ⟨hline, hblock⟩ := orElse_eq_refused.1 h
  refine ⟨blanks_eq_refused.1 hblank, ?_, ?_⟩
  · rintro ⟨r, rfl⟩
    have hmark : mark "/*" (['/', '*'] ++ r) = .read () r := mark_eq_read.2 rfl
    rw [blockComment_eq_refused.1 hblock] at hmark
    cases hmark
  · rintro m x hm rfl
    obtain ⟨y, r, rfl, hy, hr | hr⟩ := exists_oneLine x
    · have hread : lineComment _ = .read () r := lineComment_eq_read.2 ⟨m, y, hm, rfl, hy, hr⟩
      rw [hline] at hread
      cases hread
    · exact ⟨y, r, rfl, hy, hr⟩

/-- Trivia is skipped as far as it goes, and not at all a second time; the only fault is a comment
that is opened behind trivia and not closed, and it is right behind the opening. -/
theorem trivia_exact (s : List Char) :
    (∀ e r, trivia s = .failed e r ↔
      e = .unclosedComment ∧ TriviaRun s ('/' :: '*' :: r) ∧ Unclosed r) ∧
    ((∃ r, TriviaRun s ('/' :: '*' :: r) ∧ Unclosed r) ∨ ∃ r, trivia s = .read () r) ∧
    ∀ r, trivia s = .read () r → TriviaRun s r ∧ Untrivial r ∧ trivia r = .read () r := by
  refine ⟨fun e r => ⟨fun h => ?_, ?_⟩, ?_, fun r h => ?_⟩
  · rcases exists_triviaRun s with ⟨r', hr, hrun, hopen⟩ | ⟨r', hr, -⟩
    · rw [hr] at h
      cases h
      exact ⟨rfl, hrun, hopen⟩
    · rw [hr] at h
      cases h
  · rintro ⟨rfl, hrun, hopen⟩
    have hunit := triviaUnit_eq_failed.2 ⟨rfl, rfl, hopen⟩
    rw [hrun.trivia_eq]
    exact bind_of_failed (many_of_failed hunit)
  · rcases exists_triviaRun s with ⟨r, -, hrun, hopen⟩ | ⟨r, hr, -⟩
    · exact .inl ⟨r, hrun, hopen⟩
    · exact .inr ⟨r, hr⟩
  · rcases exists_triviaRun s with ⟨r', hr, -⟩ | ⟨r', hr, hrun, hend⟩
    · rw [hr] at h
      cases h
    · rw [hr] at h
      cases h
      exact ⟨hrun, untrivial_of_refused hend, trivia_of_refused hend⟩

/-- The first comment between marks is not closed by its own opening, and the last line comment is
none. -/
theorem trivia_exact_spoiled :
    trivia "\t% a\r\n/*/ *///b\rc".toList = .read () "//b\rc".toList ∧
      TriviaRun "\t% a\r\n/*/ *///b\rc".toList "//b\rc".toList ∧ Untrivial "//b\rc".toList ∧
      trivia "/* /*/".toList = .read () [] ∧
      trivia "//*\n/*/".toList = .failed .unclosedComment ['/'] := by
  have hread : trivia "\t% a\r\n/*/ *///b\rc".toList = .read () "//b\rc".toList := by
    decide +kernel
  obtain ⟨hrun, hrest, -⟩ := (trivia_exact _).2.2 _ hread
  have hfail : TriviaRun "//*\n/*/".toList ('/' :: '*' :: ['/']) ∧ Unclosed ['/'] := by
    refine ⟨.head (.line (m := "//") (x := ['*']) (.inl rfl) ?_ (.feed _)) (.single ?_), ?_⟩
    · exact List.forall_mem_singleton.2 rfl
    · exact .blanks (t := ['\n']) (by simp) (List.forall_mem_singleton.2 rfl)
    · rw [Unclosed]; decide
  exact ⟨hread, hrun, hrest, by decide +kernel, ((trivia_exact _).1 _ _).2 ⟨rfl, hfail⟩⟩

end Source
end Interaction
