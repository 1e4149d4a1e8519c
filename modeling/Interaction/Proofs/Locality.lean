import Interaction.Proofs.Trivia

/-!
# Words end in front of blanks and closing braces

`Mode.behind` goes through a source text and knows what it is in: a text in quotes, a comment, or
neither. A blank or a closing brace that is in neither (`Outside`) ends every word, every text in
quotes and every comment that was begun in front of it. So all rules but those that take such a
character settle what they read before they come to it (`Local`), and what is behind it is of no
interest to them. Trivia is settled too, or goes on behind a blank (`trivia_cases`).
-/

namespace Interaction
open Rule
namespace Source

/-- What a place of a source text is in. -/
inductive Mode where
  | plain
  | line
  | block
  | quoted (q : Char)
deriving DecidableEq, Repr

/-- What the place behind a text is in, if the place in front of it is in `m`. -/
def Mode.behind : Mode → List Char → Mode
  | m, [] => m
  | .plain, '/' :: '/' :: a => behind .line a
  | .plain, '/' :: '*' :: a => behind .block a
  | .plain, '%' :: a => behind .line a
  | .plain, c :: a => behind (if c = '"' ∨ c = '\'' then .quoted c else .plain) a
  | .line, c :: a => behind (if c = '\n' then .plain else .line) a
  | .block, '*' :: '/' :: a => behind .plain a
  | .block, _ :: a => behind .block a
  | .quoted q, c :: a => behind (if c = q then .plain else .quoted q) a

/-- The character `w` is in `m` or ends it: a line feed is not in the comment that it ends. -/
def Mode.Leaves (m : Mode) (w : Char) : Prop := m = .plain ∨ m = .line ∧ w = '\n'

/-- Behind the text `a`, the character `w` is in no text and in no comment. -/
def Outside (a : List Char) (w : Char) : Prop := (Mode.plain.behind a).Leaves w

instance (a : List Char) (w : Char) : Decidable (Outside a w) := by
  unfold Outside Mode.Leaves
  infer_instance

/-- The character starts neither trivia nor a text. -/
def isSolid (c : Char) : Bool :=
  ! (isBlank c || c == '/' || c == '%' || c == '"' || c == '\'')

/-- Blanks and closing braces: every word ends in front of one. -/
def isStop (c : Char) : Bool := isBlank c || c == '}'

/-- The character stands in words. -/
def isInner (c : Char) : Bool := isSolid c && c != '}'

namespace Mode
variable {x a : List Char}

theorem behind_plain_cons {c : Char} (hslash : c ≠ '/') (hpercent : c ≠ '%')
    (hquote : ¬ IsQuote c) : plain.behind (c :: a) = plain.behind a := by
  rw [behind, if_neg (show ¬ (c = '"' ∨ c = '\'') from hquote)]
  · exact fun _ h => absurd h hslash
  · exact fun _ h => absurd h hslash
  · exact hpercent

theorem behind_plain_blank {c : Char} (hc : isBlank c = true) :
    plain.behind (c :: a) = plain.behind a := by
  refine behind_plain_cons ?_ ?_ ?_
  · rintro rfl; exact absurd hc (by decide)
  · rintro rfl; exact absurd hc (by decide)
  · rintro (rfl | rfl) <;> exact absurd hc (by decide)

theorem behind_plain_solid (hx : ∀ c ∈ x, isSolid c = true) :
    plain.behind (x ++ a) = plain.behind a := by
  induction x with
  | nil => rfl
  | cons c x ih =>
    obtain ⟨hc, hx⟩ := List.forall_mem_cons.1 hx
    rw [List.cons_append, behind_plain_cons, ih hx]
    · rintro rfl; exact absurd hc (by decide)
    · rintro rfl; exact absurd hc (by decide)
    · rintro (rfl | rfl) <;> exact absurd hc (by decide)

theorem behind_line (hx : OneLine x) : line.behind (x ++ a) = line.behind a := by
  induction x with
  | nil => rfl
  | cons c x ih =>
    obtain ⟨hc, hx⟩ := List.forall_mem_cons.1 hx
    rw [List.cons_append, behind, if_neg, ih hx]
    rintro rfl
    exact absurd hc (by decide)

theorem behind_block (hx : Unclosed x) : block.behind x = block := by
  induction x with
  | nil => rfl
  | cons c x ih =>
    rw [behind, ih hx.tail]
    rintro a rfl rfl
    exact hx ⟨[], a, rfl⟩

theorem behind_block_close (hx : Unclosed x) :
    block.behind (x ++ '*' :: '/' :: a) = plain.behind a := by
  induction x with
  | nil => rfl
  | cons c x ih =>
    rw [List.cons_append, behind, ih hx.tail]
    exact fun r => hx.front

theorem behind_quoted {q : Char} (hx : q ∉ x) : (quoted q).behind x = quoted q := by
  induction x with
  | nil => rfl
  | cons c x ih =>
    rw [List.mem_cons, not_or] at hx
    rw [behind, if_neg (Ne.symm hx.1), ih hx.2]

theorem behind_quoted_close {q : Char} (hx : q ∉ x) :
    (quoted q).behind (x ++ q :: a) = plain.behind a := by
  induction x with
  | nil => rw [List.nil_append, behind, if_pos rfl]
  | cons c x ih =>
    rw [List.mem_cons, not_or] at hx
    rw [List.cons_append, behind, if_neg (Ne.symm hx.1), ih hx.2]

theorem behind_quote {q : Char} (hq : IsQuote q) : plain.behind (q :: a) = (quoted q).behind a := by
  rcases hq with rfl | rfl <;> rfl

end Mode

/-! ### Rules that look no further than a stop -/

theorem not_isBlank_of_isSolid {c : Char} (hc : isSolid c = true) : isBlank c = false := by
  simp_all [isSolid]

theorem isStop_of_isBlank {w : Char} (hw : isBlank w = true) : isStop w = true := by
  simp [isStop, hw]

theorem isSolid_of_isInner {c : Char} (hc : isInner c = true) : isSolid c = true := by
  simp_all [isInner]

theorem not_isStop_of_isInner {c : Char} (hc : isInner c = true) : isStop c = false := by
  have hblank := not_isBlank_of_isSolid (isSolid_of_isInner hc)
  simp_all [isInner, isStop]

theorem ne_of_isStop_of_isInner {w c : Char} (hw : isStop w = true) (hc : isInner c = true) :
    w ≠ c := by
  rintro rfl
  rw [not_isStop_of_isInner hc] at hw
  cases hw

theorem isInner_of_isNameChar {c : Char} (hc : isNameChar c = true) : isInner c = true := by
  cases hinner : isInner c with
  | true => rfl
  | false =>
    simp only [isInner, isSolid, isBlank, Bool.and_eq_false_iff, Bool.not_eq_false',
      Bool.or_eq_true, beq_iff_eq, bne_eq_false_iff_eq] at hinner
    obtain (((((((rfl | rfl) | rfl) | rfl) | rfl) | rfl) | rfl) | rfl) | rfl := hinner <;>
      exact absurd hc (by decide)

theorem isSolid_of_isNameChar {c : Char} (hc : isNameChar c = true) : isSolid c = true :=
  isSolid_of_isInner (isInner_of_isNameChar hc)

theorem isNameChar_of_isStop {w : Char} (hw : isStop w = true) : isNameChar w = false := by
  cases h : isNameChar w with
  | false => rfl
  | true => exact absurd rfl (ne_of_isStop_of_isInner hw (isInner_of_isNameChar h))

variable {α : Type} {p q : Rule α} {a : List Char} {w : Char}

/-- What comes of `p` is settled by the text in front of `w`. -/
inductive Settles (p : Rule α) (a : List Char) (w : Char) : Prop
  | read (x : α) (a' : List Char) (hout : Outside a' w)
      (h : ∀ b, p (a ++ w :: b) = .read x (a' ++ w :: b))
  | refused (h : ∀ b, p (a ++ w :: b) = .refused)
  | failed (h : ∀ b, ∃ e r, p (a ++ w :: b) = .failed e r)

/-- What comes of `p` is settled in front of any stop outside. -/
def Local (p : Rule α) : Prop :=
  ∀ ⦃a w⦄, isStop w = true → Outside a w → Settles p a w

theorem local_pure (x : α) : Local (pure x : Rule α) := fun a _ _ ha => .read x a ha fun _ => rfl

theorem local_fail (e : Fault) : Local (fail e : Rule α) :=
  fun _ _ _ _ => .failed fun _ => ⟨e, _, rfl⟩

theorem Local.orElse (hp : Local p) (hq : Local q) : Local (p <|> q) := by
  intro a w hw ha
  cases hp hw ha with
  | read x a' ha' h => exact .read x a' ha' fun b => orElse_of_read (h b)
  | refused h =>
    cases hq hw ha with
    | read x a' ha' h' =>
      exact .read x a' ha' fun b => (orElse_of_refused (h b)).trans (h' b)
    | refused h' => exact .refused fun b => (orElse_of_refused (h b)).trans (h' b)
    | failed h' =>
      refine .failed fun b => ?_
      obtain ⟨e, r, hb⟩ := h' b
      exact ⟨e, r, (orElse_of_refused (h b)).trans hb⟩
  | failed h =>
    refine .failed fun b => ?_
    obtain ⟨e, r, hb⟩ := h b
    exact ⟨e, r, orElse_of_failed hb⟩

/-- A mark without a stop stands in front of the stop, or not at all. -/
theorem mark_cases {m : String} (hm : m.toList.all (! isStop ·) = true) (hw : isStop w = true)
    (a : List Char) : (∃ a', a = m.toList ++ a') ∨ ∀ b, mark m (a ++ w :: b) = .refused := by
  by_cases ha : ∃ a', a = m.toList ++ a'
  · exact .inl ha
  · refine .inr fun b => ?_
    rw [mark]
    cases hb : behind? m.toList (a ++ w :: b) with
    | none => rfl
    | some r =>
      rcases List.append_eq_append_iff.1 (behind?_eq_some.1 hb) with ⟨c, hc, hr⟩ | ⟨c, hc, -⟩
      · cases c with
        | nil => exact absurd ⟨[], by simpa using hc.symm⟩ ha
        | cons d c =>
          cases hr
          have hw' := List.all_eq_true.1 hm w (by simp [hc])
          simp [hw] at hw'
      · exact absurd ⟨c, hc⟩ ha

theorem local_mark {m : String} (hm : m.toList.all isInner = true) : Local (mark m) := by
  intro a w hw ha
  rw [List.all_eq_true] at hm
  have hstop : m.toList.all (! isStop ·) = true :=
    List.all_eq_true.2 fun c hc => by simp [not_isStop_of_isInner (hm c hc)]
  rcases mark_cases hstop hw a with ⟨a', rfl⟩ | hrefused
  · refine .read () a' ?_ fun b => mark_eq_read.2 (List.append_assoc ..)
    rwa [Outside, Mode.behind_plain_solid fun c hc => isSolid_of_isInner (hm c hc)] at ha
  · exact .refused hrefused

theorem local_wordEnd : Local wordEnd := by
  intro a w hw ha
  cases a with
  | nil =>
    exact .read () [] ha
      fun b => wordEnd_eq_read.2 ⟨rfl, endsWord_cons.2 (isNameChar_of_isStop hw)⟩
  | cons c a =>
    cases hc : isNameChar c with
    | true => exact .refused fun b => if_pos hc
    | false =>
      exact .read () (c :: a) ha
        fun b => wordEnd_eq_read.2 ⟨rfl, endsWord_cons.2 hc⟩

theorem local_notNext {c : Char} (hc : isInner c = true) : Local (notNext c) := by
  intro a w hw ha
  have hne : w ≠ c := ne_of_isStop_of_isInner hw hc
  cases a with
  | nil => exact .read () [] ha fun b => if_neg hne
  | cons d a =>
    by_cases hd : d = c
    · exact .refused fun b => if_pos hd
    · exact .read () (d :: a) ha fun b => if_neg hd

theorem local_isNext (c : Char) : Local (isNext c) := by
  intro a w hw ha
  cases a with
  | nil => exact .read _ [] ha fun b => rfl
  | cons d a => exact .read _ (d :: a) ha fun b => rfl

theorem local_atEnd : Local atEnd := by
  intro a w _ _
  refine .refused fun b => if_neg ?_
  cases a <;> simp

theorem settles_expectMark {c : Char} (hc : isSolid c = true) (hne : w ≠ c) (ha : Outside a w) :
    Settles (expectMark c) a w := by
  cases a with
  | nil => exact .failed fun b => ⟨_, _, if_neg hne⟩
  | cons d a =>
    by_cases hd : d = c
    · subst hd
      refine .read () a ?_ fun b => if_pos rfl
      rwa [Outside, ← List.singleton_append, Mode.behind_plain_solid (by simpa using hc)] at ha
    · exact .failed fun b => ⟨_, _, if_neg hd⟩

theorem local_expectMark {c : Char} (hc : isInner c = true) : Local (expectMark c) := fun _ _ hw =>
  settles_expectMark (isSolid_of_isInner hc) (ne_of_isStop_of_isInner hw hc)

theorem endsWord_dropWhile (hw : isStop w = true) (a b : List Char) :
    EndsWord (a.dropWhile isNameChar ++ w :: b) := by
  intro d hd
  cases hrest : a.dropWhile isNameChar with
  | nil =>
    rw [hrest] at hd
    cases hd
    exact isNameChar_of_isStop hw
  | cons d' r =>
    rw [hrest] at hd
    cases hd
    exact head?_dropWhile d (by rw [hrest]; rfl)

theorem local_name : Local name := by
  intro a w hw ha
  cases a with
  | nil =>
    refine .refused fun b => if_neg fun hletter => ?_
    have hchar := isNameChar_of_isLetter hletter
    rw [isNameChar_of_isStop hw] at hchar
    cases hchar
  | cons c a =>
    by_cases hc : isLetter c = true
    · have hsolid : ∀ d ∈ c :: a.takeWhile isNameChar, isSolid d = true := by
        refine List.forall_mem_cons.2 ⟨isSolid_of_isNameChar (isNameChar_of_isLetter hc), ?_⟩
        exact fun d hd => isSolid_of_isNameChar (of_mem_takeWhile d hd)
      have hparts : c :: a = (c :: a.takeWhile isNameChar) ++ a.dropWhile isNameChar := by
        rw [List.cons_append, List.takeWhile_append_dropWhile]
      refine .read (String.ofList (c :: a.takeWhile isNameChar)) (a.dropWhile isNameChar) ?_ ?_
      · rwa [Outside, hparts, Mode.behind_plain_solid hsolid] at ha
      · intro b
        have hname : IsName (String.ofList (c :: a.takeWhile isNameChar)) :=
          ⟨c, _, String.toList_ofList, hc, of_mem_takeWhile⟩
        refine name_eq_read.2 ⟨?_, hname, endsWord_dropWhile hw a b⟩
        rw [String.toList_ofList, hparts, List.append_assoc]
    · exact .refused fun b => if_neg hc

/-- A text in front of the stop is closed in front of it. -/
theorem mem_of_outside_quoted {q : Char} (ha : ((Mode.quoted q).behind a).Leaves w) : q ∈ a := by
  refine Classical.byContradiction fun hq => ?_
  rw [Mode.behind_quoted hq] at ha
  rcases ha with h | ⟨h, -⟩ <;> cases h

theorem local_text : Local text := by
  intro a w hw ha
  cases a with
  | nil =>
    refine .refused fun b => ?_
    rw [List.nil_append, text] <;> rintro r ⟨⟩ <;> cases hw
  | cons q a =>
    by_cases hq : IsQuote q
    · rw [Outside, Mode.behind_quote hq] at ha
      obtain ⟨x, a', rfl, hx⟩ := List.eq_append_cons_of_mem (mem_of_outside_quoted ha)
      rw [Mode.behind_quoted_close hx] at ha
      refine .read (String.ofList x) a' ha fun b => ?_
      exact text_eq_read.2 ⟨q, hq, by simpa using hx, by simp⟩
    · refine .refused fun b => ?_
      rw [List.cons_append, text]
      · rintro r ⟨⟩
        exact hq (.inl rfl)
      · rintro r ⟨⟩
        exact hq (.inr rfl)

theorem local_blockComment : Local blockComment := by
  intro a w hw ha
  rcases mark_cases (m := "/*") (by decide) hw a with ⟨a', rfl⟩ | hrefused
  · change (Mode.block.behind a').Leaves w at ha
    cases hclose : behindClose? a' with
    | none =>
      rw [Mode.behind_block (behindClose?_eq_none.1 hclose)] at ha
      rcases ha with h | ⟨h, -⟩ <;> cases h
    | some r =>
      obtain ⟨x, rfl, hx⟩ := behindClose?_eq_some.1 hclose
      rw [Mode.behind_block_close hx] at ha
      exact .read () r ha fun b => blockComment_eq_read.2 ⟨x, by simp, hx⟩
  · exact .refused fun b => blockComment_eq_refused.2 (hrefused b)

theorem settles_lineRest (ha : (Mode.line.behind a).Leaves w) :
    Settles lineRest a w := by
  obtain ⟨x, r, rfl, hx, hr | ⟨r, rfl, hr⟩⟩ := exists_oneLine a
  · rw [Mode.behind_line hx] at ha
    cases hr with
    | nil =>
      rcases ha with h | ⟨-, rfl⟩
      · cases h
      · exact .read () [] (.inl rfl) fun b => lineRest_eq_read.2 ⟨x, by simp, hx, .feed b⟩
    | feed r => exact .read () ('\n' :: r) ha fun b => lineRest_eq_read.2 ⟨x, by simp, hx, .feed _⟩
    | returnFeed r =>
      exact .read () ('\r' :: '\n' :: r) ha
        fun b => lineRest_eq_read.2 ⟨x, by simp, hx, .returnFeed _⟩
  · rw [Mode.behind_line hx] at ha
    cases r with
    | nil =>
      rcases ha with h | ⟨-, rfl⟩
      · cases h
      · exact .read () ['\r'] (.inl rfl)
          fun b => lineRest_eq_read.2 ⟨x, by simp, hx, .returnFeed b⟩
    | cons d r =>
      refine .refused fun b => ?_
      rw [List.append_assoc]
      exact lineRest_of_loneReturn hx ⟨d :: r ++ w :: b, rfl, by simpa using hr⟩

/-- What is settled behind a part that was read is settled from its beginning. -/
theorem Settles.behind {f : Rule Unit} {x : List Char} (h : Settles p a w)
    (hf : ∀ b, f (x ++ a ++ w :: b) = .read () (a ++ w :: b)) :
    Settles (f >>= fun _ => p) (x ++ a) w := by
  cases h with
  | read v a' ha' h =>
    exact .read v a' ha' fun b => (bind_of_read (hf b)).trans (h b)
  | refused h => exact .refused fun b => (bind_of_read (hf b)).trans (h b)
  | failed h =>
    refine .failed fun b => ?_
    obtain ⟨e, r, hb⟩ := h b
    exact ⟨e, r, (bind_of_read (hf b)).trans hb⟩

theorem local_lineComment : Local lineComment := by
  intro a w hw ha
  rcases mark_cases (m := "//") (by decide) hw a with ⟨a', rfl⟩ | hslashes
  · exact (settles_lineRest ha).behind fun b => rfl
  · rcases mark_cases (m := "%") (by decide) hw a with ⟨a', rfl⟩ | hpercent
    · exact (settles_lineRest ha).behind fun b => rfl
    · exact .refused fun b =>
        bind_of_refused ((orElse_of_refused (hslashes b)).trans (hpercent b))

/-- Trivia ends in front of the stop, or goes on at it, or fails. -/
theorem trivia_cases {a : List Char} (hw : isStop w = true) (ha : Outside a w) :
    (∃ a', Outside a' w ∧ ∀ b, trivia (a ++ w :: b) = .read () (a' ++ w :: b)) ∨
      (∀ b, trivia (a ++ w :: b) = trivia (w :: b)) ∨
      ∀ b, ∃ e r, trivia (a ++ w :: b) = .failed e r := by
  -- By the length of `a`: the units of trivia in front of `w` are read off one by one.
  match a, ha with
  | [], _ => exact .inr (.inl fun b => rfl)
  | c :: a, ha =>
    by_cases hc : isBlank c = true
    · rw [Outside, Mode.behind_plain_blank hc] at ha
      have hrest := trivia_cases hw ha
      simp only [List.cons_append, trivia_cons_blank hc]
      exact hrest
    · have hunit : ∀ s, triviaUnit (c :: s) = (lineComment <|> blockComment) (c :: s) :=
        fun s => orElse_of_refused (blanks_eq_refused.2 (by simpa using hc))
      cases (local_lineComment.orElse local_blockComment) hw ha with
      | read x a' ha' h =>
        have hread : ∀ b, triviaUnit (c :: a ++ w :: b) = .read () (a' ++ w :: b) :=
          fun b => (hunit _).trans (h b)
        have hlt : a'.length < a.length + 1 := by
          have := (consumes_triviaUnit (hread [])).2
          simp only [List.length_append, List.length_cons] at this
          omega
        have hrest := trivia_cases hw ha'
        simp only [trivia_of_read (hread _)]
        exact hrest
      | refused h => exact .inl ⟨c :: a, ha, fun b => trivia_of_refused ((hunit _).trans (h b))⟩
      | failed h =>
        refine .inr (.inr fun b => ?_)
        obtain ⟨e, r, hfailed⟩ := h b
        exact ⟨e, r, bind_of_failed (many_of_failed ((hunit _).trans hfailed))⟩
termination_by a.length

end Source
end Interaction
