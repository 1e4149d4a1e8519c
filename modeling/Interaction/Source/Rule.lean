import Interaction.Source.SyntaxError

/-! # Rules that read a source text

A rule reads something from the front of a text, or refuses the text, or fails. A refusal lets the
next alternative try at the same place; a failure ends the reading, because the text had already
been recognised as something that then turned out wrong. -/

namespace Interaction

/-- What comes of a rule: a value and the text behind it, a refusal, or a fault in front of the
text that is left. -/
inductive Outcome (α : Type) where
  | read (value : α) (rest : List Char)
  | refused
  | failed (fault : Fault) (rest : List Char)
deriving DecidableEq, Repr

namespace Outcome
variable {α β : Type}

/-- Goes on with `f` behind what was read. -/
def bind (o : Outcome α) (f : α → List Char → Outcome β) : Outcome β :=
  match o with
  | .read a r => f a r
  | .refused => .refused
  | .failed e r => .failed e r

/-- Tries `q` after a refusal. -/
def orElse (o : Outcome α) (q : Unit → Outcome α) : Outcome α :=
  match o with
  | .refused => q ()
  | o => o

variable {a : α} {e : Fault} {r : List Char} {f : α → List Char → Outcome β} {q : Unit → Outcome α}

@[simp] theorem bind_read : (read a r).bind f = f a r := rfl

@[simp] theorem bind_refused : refused.bind f = refused := rfl

@[simp] theorem bind_failed : (failed e r).bind f = failed e r := rfl

@[simp] theorem orElse_read : (read a r).orElse q = read a r := rfl

@[simp] theorem orElse_refused : refused.orElse q = q () := rfl

@[simp] theorem orElse_failed : (failed e r).orElse q = failed e r := rfl

theorem bind_eq_read {o : Outcome α} {b : β} :
    o.bind f = .read b r ↔ ∃ a r', o = .read a r' ∧ f a r' = .read b r := by
  cases o <;> simp [and_assoc]

theorem bind_eq_failed {o : Outcome α} :
    o.bind f = .failed e r ↔
      o = .failed e r ∨ ∃ a r', o = .read a r' ∧ f a r' = .failed e r := by
  cases o <;> simp [and_assoc]

theorem orElse_eq_read {o : Outcome α} :
    o.orElse q = .read a r ↔ o = .read a r ∨ o = .refused ∧ q () = .read a r := by
  cases o <;> simp

theorem orElse_eq_failed {o : Outcome α} :
    o.orElse q = .failed e r ↔ o = .failed e r ∨ o = .refused ∧ q () = .failed e r := by
  cases o <;> simp

end Outcome

/-- A way to read an `α` from the front of a text. -/
def Rule (α : Type) := List Char → Outcome α

namespace Rule
variable {α β : Type}

protected def pure (a : α) : Rule α := fun s => .read a s

/-- First `p`, then what `f` makes of its value. A refusal of either refuses the whole. -/
protected def bind (p : Rule α) (f : α → Rule β) : Rule β := fun s => (p s).bind f

instance : Monad Rule where
  pure := Rule.pure
  bind := Rule.bind

/-- `p`, or `q` where `p` refuses. -/
protected def orElse (p q : Rule α) : Rule α := fun s => (p s).orElse fun _ => q s

instance : OrElse (Rule α) where
  orElse p q := Rule.orElse p (q ())

@[simp] theorem pure_apply (a : α) (s : List Char) : (pure a : Rule α) s = .read a s := rfl

@[simp] theorem bind_apply (p : Rule α) (f : α → Rule β) (s : List Char) :
    (p >>= f) s = (p s).bind f := rfl

@[simp] theorem map_apply (f : α → β) (p : Rule α) (s : List Char) :
    (f <$> p) s = (p s).bind fun a r => .read (f a) r := rfl

@[simp] theorem orElse_apply (p q : Rule α) (s : List Char) :
    (p <|> q) s = (p s).orElse fun _ => q s := rfl

instance : LawfulMonad Rule := LawfulMonad.mk' Rule
  (fun p => funext fun s => by rw [map_apply]; cases p s <;> rfl)
  (fun _ _ => rfl)
  (fun p f g => funext fun s => by simp only [bind_apply]; cases p s <;> rfl)

/-- Fails at the front of any text. -/
def fail (e : Fault) : Rule α := fun s => .failed e s

/-- `p`, or a failure where `p` refuses. -/
def orFail (p : Rule α) (e : Fault) : Rule α := p <|> fail e

/-- `p`, or nothing where `p` refuses. -/
def optional (p : Rule α) : Rule (Option α) := (some <$> p) <|> pure none

@[simp] theorem fail_apply (e : Fault) (s : List Char) : (fail e : Rule α) s = .failed e s := rfl

theorem orFail_apply (p : Rule α) (e : Fault) (s : List Char) :
    p.orFail e s = (p s).orElse fun _ => .failed e s := rfl

theorem orFail_ne_refused (p : Rule α) (e : Fault) (s : List Char) : p.orFail e s ≠ .refused := by
  rw [orFail_apply]; cases p s <;> simp

theorem optional_apply (p : Rule α) (s : List Char) :
    p.optional s = ((p s).bind fun a r => .read (some a) r).orElse fun _ => .read none s := rfl

theorem optional_ne_refused (p : Rule α) (s : List Char) : p.optional s ≠ .refused := by
  rw [optional_apply]; cases p s <;> simp

/-- `p` as often as it goes, but after the first time only once for each entry of `clock`. -/
def manyWithin (p : Rule α) : List Char → Rule (List α)
  | clock, s =>
    match p s with
    | .read a r =>
      match clock with
      | [] => .read [a] r
      | _ :: clock => (manyWithin p clock r).bind fun as r => .read (a :: as) r
    | .refused => .read [] s
    | .failed e r => .failed e r

/-- `p` as often as it goes. A text with `n` characters cannot be read from more than `n` times. -/
def many (p : Rule α) : Rule (List α) := fun s => manyWithin p s s

theorem manyWithin_of_refused {p : Rule α} {s : List Char} (h : p s = .refused)
    (clock : List Char) : manyWithin p clock s = .read [] s := by
  rw [manyWithin, h]

theorem manyWithin_of_failed {p : Rule α} {s r : List Char} {e : Fault} (h : p s = .failed e r)
    (clock : List Char) : manyWithin p clock s = .failed e r := by
  rw [manyWithin, h]

theorem manyWithin_ne_refused (p : Rule α) (clock s : List Char) :
    manyWithin p clock s ≠ .refused := by
  fun_induction manyWithin p clock s with
  | case1 => simp
  | case2 _ _ _ _ c clock ih =>
    cases h : manyWithin p clock _ <;> simp_all
  | case3 => simp
  | case4 => simp

/-- The text behind `w`, if `s` starts with `w`. -/
def behind? : List Char → List Char → Option (List Char)
  | [], s => some s
  | _ :: _, [] => none
  | c :: w, d :: s => if c = d then behind? w s else none

theorem behind?_append (w s : List Char) : behind? w (w ++ s) = some s := by
  induction w with
  | nil => rfl
  | cons c w ih => simp [behind?, ih]

theorem behind?_eq_some {w s r : List Char} : behind? w s = some r ↔ s = w ++ r := by
  refine ⟨fun h => ?_, fun h => h ▸ behind?_append w r⟩
  fun_induction behind? w s with
  | case1 => simp_all
  | case2 => simp at h
  | case3 _ _ _ ih => simp [ih h]
  | case4 => simp at h

/-- Exactly the characters `w`. -/
def mark (w : String) : Rule Unit := fun s =>
  match behind? w.toList s with
  | some r => .read () r
  | none => .refused

theorem mark_eq_read {w : String} {s r : List Char} :
    mark w s = .read () r ↔ s = w.toList ++ r := by
  rw [← behind?_eq_some, mark]
  cases behind? w.toList s <;> simp

/-- The end of the text. -/
def atEnd : Rule Unit := fun s => if s.isEmpty then .read () s else .refused

end Rule
end Interaction
