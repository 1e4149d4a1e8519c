import Interaction.Proofs.Progress

/-!
# What the rules for trivia read

The three kinds of trivia, each with the texts that its rule reads. `trivia` takes one after the
other (`trivia_of_read`) and is indifferent to how blanks are grouped (`trivia_cons_blank`), so all
trivia in front of a text can be taken away (`trivia_append`).
-/

namespace Interaction
open Rule
namespace Source
variable {s r x : List Char} {u : Unit}

theorem blanks_eq_read :
    blanks s = .read u r ↔ ∃ c s', s = c :: s' ∧ isBlank c = true ∧ r = s'.dropWhile isBlank := by
  cases s with
  | nil => simp [blanks]
  | cons c s =>
    rw [blanks]
    split
    · rename_i hc
      constructor
      · rintro ⟨⟩
        exact ⟨c, s, rfl, hc, rfl⟩
      · rintro ⟨_, _, ⟨⟩, -, rfl⟩
        rfl
    · simp_all

/-- No line break is in the text. -/
def OneLine (x : List Char) : Prop := ∀ c ∈ x, isBreak c = false

/-- A line ends in front of the text. -/
inductive LineEnds : List Char → Prop
  | nil : LineEnds []
  | feed (s : List Char) : LineEnds ('\n' :: s)
  | returnFeed (s : List Char) : LineEnds ('\r' :: '\n' :: s)

theorem eq_of_isBreak {c : Char} (h : isBreak c = true) : c = '\r' ∨ c = '\n' := by
  simpa [isBreak] using h

theorem dropWhile_oneLine (hx : OneLine x) (hr : ∀ c ∈ r.head?, isBreak c = true) :
    (x ++ r).dropWhile (! isBreak ·) = r :=
  (span_append (fun c hc => by simp [hx c hc]) fun c hc => by simp [hr c hc]).2

/-- A carriage return alone, which spoils a line comment. -/
def LoneReturn (s : List Char) : Prop := ∃ r, s = '\r' :: r ∧ ∀ c ∈ r.head?, c ≠ '\n'

/-- Any text goes up to the end of its first line or to a carriage return alone. -/
theorem exists_oneLine (s : List Char) :
    ∃ x r, s = x ++ r ∧ OneLine x ∧ (LineEnds r ∨ LoneReturn r) := by
  have hparts := (List.takeWhile_append_dropWhile (p := (! isBreak ·)) (l := s)).symm
  have hline : OneLine (s.takeWhile (! isBreak ·)) := by
    intro c hc
    simpa using of_mem_takeWhile c hc
  refine ⟨_, _, hparts, hline, ?_⟩
  cases hrest : s.dropWhile (! isBreak ·) with
  | nil => exact .inl .nil
  | cons c r =>
    have hc : (! isBreak c) = false := head?_dropWhile c (by rw [hrest]; rfl)
    rcases eq_of_isBreak (by simpa using hc) with rfl | rfl
    · cases r with
      | nil => exact .inr ⟨[], rfl, by simp⟩
      | cons d r =>
        by_cases hd : d = '\n'
        · subst hd
          exact .inl (.returnFeed r)
        · exact .inr ⟨d :: r, rfl, by simpa using hd⟩
    · exact .inl (.feed r)

theorem lineRest_of_lineEnds (hx : OneLine x) (hr : LineEnds r) :
    lineRest (x ++ r) = .read () r := by
  rw [lineRest, dropWhile_oneLine hx]
  · cases hr <;> rfl
  · cases hr <;> simp [isBreak]

theorem lineRest_of_loneReturn (hx : OneLine x) (hr : LoneReturn r) :
    lineRest (x ++ r) = .refused := by
  obtain ⟨r, rfl, hr⟩ := hr
  rw [lineRest, dropWhile_oneLine hx (by simp [isBreak])]
  cases r with
  | nil => rfl
  | cons c r => exact if_neg (hr c rfl)

theorem lineRest_eq_read :
    lineRest s = .read u r ↔ ∃ x, s = x ++ r ∧ OneLine x ∧ LineEnds r := by
  constructor
  · intro h
    obtain ⟨x, r', rfl, hx, hr | hr⟩ := exists_oneLine s
    · rw [lineRest_of_lineEnds hx hr] at h
      cases h
      exact ⟨x, rfl, hx, hr⟩
    · rw [lineRest_of_loneReturn hx hr] at h
      cases h
  · rintro ⟨x, rfl, hx, hr⟩
    exact lineRest_of_lineEnds hx hr

/-- The text closes no comment. -/
def Unclosed (x : List Char) : Prop := ¬ ['*', '/'] <:+: x

theorem Unclosed.tail {c : Char} (h : Unclosed (c :: x)) : Unclosed x :=
  fun hx => h (hx.trans (List.suffix_cons c x).isInfix)

theorem Unclosed.cons {c : Char} (hopen : ∀ r, c = '*' → x = '/' :: r → False) (hx : Unclosed x) :
    Unclosed (c :: x) := by
  intro hclosed
  rcases List.infix_cons_iff.1 hclosed with ⟨y, hy⟩ | hinner
  · cases hy
    exact hopen _ rfl rfl
  · exact hx hinner

/-- No comment is closed half by the text and half by a mark behind it. -/
theorem Unclosed.front {c : Char} {r' : List Char} (hx : Unclosed (c :: x)) (hc : c = '*')
    (h : x ++ '*' :: r = '/' :: r') : False := by
  subst hc
  cases x with
  | nil => cases h
  | cons d x =>
    cases h
    exact hx ⟨[], x, rfl⟩

theorem behindClose?_append (hx : Unclosed x) (r : List Char) :
    behindClose? (x ++ '*' :: '/' :: r) = some r := by
  induction x with
  | nil => rfl
  | cons c x ih =>
    rw [List.cons_append, behindClose?]
    · exact ih hx.tail
    · exact fun r' => hx.front

theorem behindClose?_eq_some :
    behindClose? s = some r ↔ ∃ x, s = x ++ '*' :: '/' :: r ∧ Unclosed x := by
  constructor
  · intro h
    fun_induction behindClose? s with
    | case1 r' =>
      cases h
      exact ⟨[], rfl, by simp [Unclosed]⟩
    | case2 c s hopen ih =>
      obtain ⟨x, rfl, hx⟩ := ih h
      exact ⟨c :: x, rfl, hx.cons fun y hc heq => hopen _ hc (by rw [heq]; rfl)⟩
    | case3 => cases h
  · rintro ⟨x, rfl, hx⟩
    exact behindClose?_append hx r

theorem behindClose?_eq_none : behindClose? s = none ↔ Unclosed s := by
  constructor
  · intro h
    fun_induction behindClose? s with
    | case1 => cases h
    | case2 c s hopen ih => exact (ih h).cons hopen
    | case3 => simp [Unclosed]
  · intro h
    cases hclose : behindClose? s with
    | none => rfl
    | some r =>
      obtain ⟨x, rfl, -⟩ := behindClose?_eq_some.1 hclose
      exact absurd ⟨x, r, by simp⟩ h

theorem blockComment_eq_read :
    blockComment s = .read u r ↔ ∃ x, s = '/' :: '*' :: (x ++ '*' :: '/' :: r) ∧ Unclosed x := by
  refine bind_eq_read.trans ?_
  constructor
  · rintro ⟨_, s', hmark, h⟩
    obtain rfl := mark_eq_read.1 hmark
    split at h
    · rename_i hclose
      cases h
      obtain ⟨x, rfl, hx⟩ := behindClose?_eq_some.1 hclose
      exact ⟨x, rfl, hx⟩
    · cases h
  · rintro ⟨x, rfl, hx⟩
    refine ⟨(), x ++ '*' :: '/' :: r, rfl, ?_⟩
    simp only [behindClose?_append hx]

theorem blockComment_eq_refused : blockComment s = .refused ↔ mark "/*" s = .refused := by
  refine bind_eq_refused.trans ?_
  constructor
  · rintro (h | ⟨_, s', -, h⟩)
    · exact h
    · split at h <;> cases h
  · exact .inl

/-! ### One after the other -/

theorem trivia_of_read (h : triviaUnit s = .read u r) : trivia s = trivia r := by
  show (many triviaUnit s).bind _ = (many triviaUnit r).bind _
  rw [many_of_read consumes_triviaUnit h]
  cases many triviaUnit r <;> rfl

theorem trivia_of_refused (h : triviaUnit s = .refused) : trivia s = .read () s := by
  show (many triviaUnit s).bind _ = _
  rw [many_of_refused h]
  rfl

theorem triviaUnit_of_blanks (h : blanks s = .read u r) : triviaUnit s = .read u r :=
  orElse_eq_read.2 (.inl h)

theorem blanks_cons {c : Char} (hc : isBlank c = true) (s : List Char) :
    blanks (c :: s) = .read () (s.dropWhile isBlank) := blanks_eq_read.2 ⟨c, s, rfl, hc, rfl⟩

theorem trivia_dropWhile (s : List Char) : trivia (s.dropWhile isBlank) = trivia s := by
  cases s with
  | nil => rfl
  | cons c s =>
    by_cases hc : isBlank c = true
    · rw [List.dropWhile_cons_of_pos hc]
      exact (trivia_of_read (triviaUnit_of_blanks (blanks_cons hc s))).symm
    · rw [List.dropWhile_cons_of_neg hc]

/-- It does not matter whether a blank stands alone. -/
theorem trivia_cons_blank {c : Char} (hc : isBlank c = true) (s : List Char) :
    trivia (c :: s) = trivia s := by
  rw [trivia_of_read (triviaUnit_of_blanks (blanks_cons hc s)), trivia_dropWhile]

theorem blanks_eq_refused : blanks s = .refused ↔ ∀ c ∈ s.head?, isBlank c = false := by
  cases s with
  | nil => simp [blanks]
  | cons c s =>
    rw [blanks]
    split <;> simp_all

/-- No comment starts here. -/
def Uncommented (s : List Char) : Prop := ∀ c ∈ s.head?, c ≠ '/' ∧ c ≠ '%'

/-- Trivia starts with a blank or a comment. -/
theorem trivia_of_uncommented {c : Char} (hblank : isBlank c = false)
    (hc : Uncommented (c :: s)) : trivia (c :: s) = .read () (c :: s) := by
  obtain ⟨hslash, hpercent⟩ := hc c rfl
  refine trivia_of_refused (orElse_eq_refused.2 ⟨blanks_eq_refused.2 (by simpa using hblank), ?_⟩)
  refine orElse_eq_refused.2 ⟨bind_of_refused (orElse_eq_refused.2 ⟨?_, ?_⟩), bind_of_refused ?_⟩
  · exact mark_of_ne rfl hslash.symm s
  · exact mark_of_ne rfl hpercent.symm s
  · exact mark_of_ne rfl hslash.symm s

/-- The marks that start a line comment. -/
def IsLineMark (m : String) : Prop := m = "//" ∨ m = "%"

theorem lineComment_eq_read : lineComment s = .read u r ↔
    ∃ m x, IsLineMark m ∧ s = m.toList ++ (x ++ r) ∧ OneLine x ∧ LineEnds r := by
  constructor
  · intro h
    obtain ⟨_, s', hmark, hrest⟩ := bind_eq_read.1 h
    obtain ⟨x, rfl, hx, hr⟩ := lineRest_eq_read.1 hrest
    rcases orElse_eq_read.1 hmark with hslashes | ⟨-, hpercent⟩
    · exact ⟨_, x, .inl rfl, mark_eq_read.1 hslashes, hx, hr⟩
    · exact ⟨_, x, .inr rfl, mark_eq_read.1 hpercent, hx, hr⟩
  · rintro ⟨m, x, hm, rfl, hx, hr⟩
    refine bind_eq_read.2 ⟨(), x ++ r, ?_, lineRest_eq_read.2 ⟨x, rfl, hx, hr⟩⟩
    rcases hm with rfl | rfl <;> rfl

theorem triviaUnit_of_lineComment (h : lineComment s = .read u r) : triviaUnit s = .read u r := by
  obtain ⟨m, x, hm, rfl, -⟩ := lineComment_eq_read.1 h
  refine orElse_eq_read.2 (.inr ⟨?_, orElse_eq_read.2 (.inl h)⟩)
  rcases hm with rfl | rfl <;> rfl

theorem triviaUnit_of_blockComment (h : blockComment s = .read u r) : triviaUnit s = .read u r := by
  obtain ⟨x, rfl, -⟩ := blockComment_eq_read.1 h
  exact h

/-- Blanks and comments that are closed, line comments by the end of their line. -/
inductive IsTrivia : List Char → Prop
  | nil : IsTrivia []
  | blank {c : Char} {t : List Char} (hc : isBlank c = true) (ht : IsTrivia t) : IsTrivia (c :: t)
  | line {m e : String} {x t : List Char} (hm : IsLineMark m) (hx : OneLine x)
      (he : e = "\n" ∨ e = "\r\n") (ht : IsTrivia t) :
      IsTrivia (m.toList ++ (x ++ (e.toList ++ t)))
  | block {x t : List Char} (hx : Unclosed x) (ht : IsTrivia t) :
      IsTrivia ('/' :: '*' :: (x ++ '*' :: '/' :: t))

/-- Trivia in front of a text is as good as none. -/
theorem trivia_append {t : List Char} (ht : IsTrivia t) (s : List Char) :
    trivia (t ++ s) = trivia s := by
  induction ht with
  | nil => rfl
  | blank hc _ ih => rw [List.cons_append, trivia_cons_blank hc, ih]
  | @line m e x t hm hx he _ ih =>
    have hend : LineEnds (e.toList ++ (t ++ s)) ∧ trivia (e.toList ++ (t ++ s)) = trivia s := by
      rcases he with rfl | rfl
      · exact ⟨.feed _, (trivia_cons_blank rfl _).trans ih⟩
      · exact ⟨.returnFeed _, (trivia_cons_blank rfl _).trans ((trivia_cons_blank rfl _).trans ih)⟩
    have hread : lineComment _ = .read () (e.toList ++ (t ++ s)) :=
      lineComment_eq_read.2 ⟨m, x, hm, rfl, hx, hend.1⟩
    simp only [List.append_assoc]
    rw [trivia_of_read (triviaUnit_of_lineComment hread), hend.2]
  | @block x t hx _ ih =>
    have hread : blockComment _ = .read () (t ++ s) := blockComment_eq_read.2 ⟨x, rfl, hx⟩
    simp only [List.cons_append, List.append_assoc]
    rw [trivia_of_read (triviaUnit_of_blockComment hread), ih]

theorem IsTrivia.append {t t' : List Char} (ht : IsTrivia t) (ht' : IsTrivia t') :
    IsTrivia (t ++ t') := by
  induction ht with
  | nil => exact ht'
  | blank hc _ ih => exact .blank hc ih
  | line hm hx he _ ih => simpa only [List.append_assoc] using IsTrivia.line hm hx he ih
  | block hx _ ih => simpa only [List.cons_append, List.append_assoc] using IsTrivia.block hx ih

/-- Trivia stops where no unit of it starts. -/
theorem triviaUnit_refused_of_trivia (h : trivia s = .read u r) : triviaUnit r = .refused := by
  obtain ⟨_, r', hmany, heq⟩ := bind_eq_read.1 h
  cases heq
  exact refused_of_many consumes_triviaUnit hmany

theorem trivia_idem (h : trivia s = .read u r) : trivia r = .read () r :=
  trivia_of_refused (triviaUnit_refused_of_trivia h)

/-- What a unit of trivia leaves is behind trivia, or a line comment ends with the text. -/
theorem triviaUnit_eq_read (h : triviaUnit s = .read u r) :
    (∃ t r', IsTrivia t ∧ s = t ++ r' ∧ trivia r = trivia r' ∧ r'.length < s.length) ∨
      r = [] ∧ ∃ m x, IsLineMark m ∧ OneLine x ∧ s = m.toList ++ x := by
  rcases orElse_eq_read.1 h with hblanks | ⟨-, h⟩
  · obtain ⟨c, s', rfl, hc, rfl⟩ := blanks_eq_read.1 hblanks
    exact .inl ⟨[c], s', .blank hc .nil, rfl, trivia_dropWhile s', by simp⟩
  rcases orElse_eq_read.1 h with hline | ⟨-, hblock⟩
  · obtain ⟨m, x, hm, rfl, hx, hr⟩ := lineComment_eq_read.1 hline
    cases hr with
    | nil => exact .inr ⟨rfl, m, x, hm, hx, by simp⟩
    | feed r =>
      refine .inl ⟨_, r, .line (e := "\n") hm hx (.inl rfl) .nil, by simp, ?_, ?_⟩
      · exact trivia_cons_blank rfl r
      · simp only [List.length_append, List.length_cons]; omega
    | returnFeed r =>
      refine .inl ⟨_, r, .line (e := "\r\n") hm hx (.inr rfl) .nil, by simp, ?_, ?_⟩
      · exact (trivia_cons_blank rfl _).trans (trivia_cons_blank rfl r)
      · simp only [List.length_append, List.length_cons]; omega
  · obtain ⟨x, rfl, hx⟩ := blockComment_eq_read.1 hblock
    refine .inl ⟨_, r, .block hx .nil, by simp, rfl, ?_⟩
    simp only [List.length_cons, List.length_append]; omega

/-- What is read as trivia is trivia, and at the end of the text perhaps a line comment without an
end of its line. -/
theorem trivia_eq_read {s r : List Char} (h : trivia s = .read u r) : ∃ t, IsTrivia t ∧
    (s = t ++ r ∨ r = [] ∧ ∃ m x, IsLineMark m ∧ OneLine x ∧ s = t ++ (m.toList ++ x)) := by
  cases hs : triviaUnit s with
  | read _ r₁ =>
    rw [trivia_of_read hs] at h
    rcases triviaUnit_eq_read hs with ⟨t, r', ht, rfl, hr', hlt⟩ | ⟨rfl, m, x, hm, hx, rfl⟩
    · rw [hr'] at h
      obtain ⟨t', ht', hend⟩ := trivia_eq_read h
      refine ⟨t ++ t', ht.append ht', ?_⟩
      rcases hend with rfl | ⟨rfl, m, x, hm, hx, rfl⟩
      · exact .inl (by simp)
      · exact .inr ⟨rfl, m, x, hm, hx, by simp⟩
    · cases h
      exact ⟨[], .nil, .inr ⟨rfl, m, x, hm, hx, rfl⟩⟩
  | refused =>
    rw [trivia_of_refused hs] at h
    cases h
    exact ⟨[], .nil, .inl rfl⟩
  | failed e r₁ =>
    have hfailed : trivia s = .failed e r₁ := bind_of_failed (many_of_failed hs)
    rw [hfailed] at h
    cases h
termination_by s.length

end Source
end Interaction
