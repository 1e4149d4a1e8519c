import Mathlib.Data.List.Chain
import Interaction.Proofs.Progress

/-!
# What can come out of a source text

`Element.Proper` says what every element looks like that was read from a source: its names are
names, its texts can stand in quotes, and its items fit where they are. The rules give only such
values (`Gives`); a body needs besides that where a repetition stops, no clause follows, so that no
reason or effect stands behind an utterance that would have taken it (`apart_of_many_item`).
-/

namespace Interaction
open Source Rule

/-- Not both quotes are in the text, so it can stand in one of them. -/
def IsText (t : String) : Prop := ¬ ('"' ∈ t.toList ∧ '\'' ∈ t.toList)

theorem isText_iff {t : String} : IsText t ↔ ∃ q, IsQuote q ∧ q ∉ t.toList := by
  constructor
  · intro h
    by_cases hdouble : '"' ∈ t.toList
    · exact ⟨'\'', .inr rfl, fun hsingle => h ⟨hdouble, hsingle⟩⟩
    · exact ⟨'"', .inl rfl, hdouble⟩
  · rintro ⟨q, rfl | rfl, hq⟩ ⟨hdouble, hsingle⟩
    · exact hq hdouble
    · exact hq hsingle

theorem isText_of_isName {t : String} (h : IsName t) : IsText t :=
  fun ⟨hdouble, _⟩ => absurd (h.isNameChar _ hdouble) (by decide)

theorem isText_empty : IsText "" := by simp [IsText]

structure Transition.Proper (t : Transition) : Prop where
  target : IsName t.target
  why : ∀ w ∈ t.why, IsText w

/-- The transition is an arrow and a name, and nothing else. -/
structure Transition.Bare (t : Transition) : Prop where
  target : IsName t.target
  isPreferred : t.isPreferred = false
  why : t.why = none

theorem Transition.Bare.proper {t : Transition} (h : t.Bare) : t.Proper :=
  ⟨h.target, by simp [h.why]⟩

structure Utterance.Proper (u : Utterance) : Prop where
  text : IsText u.text
  condition : ∀ t ∈ u.condition, IsText t
  trigger : ∀ t ∈ u.trigger, IsText t
  binding : ∀ t ∈ u.binding, IsText t
  effect : ∀ t ∈ u.effect, IsText t
  why : ∀ t ∈ u.why, IsText t
  transition : ∀ t ∈ u.transition, t.Proper

structure Event.Proper (e : Event) : Prop where
  trigger : IsText e.trigger
  condition : ∀ t ∈ e.condition, IsText t
  transition : ∀ t ∈ e.transition, t.Bare

structure Binding.Proper (b : Binding) : Prop where
  name : IsName b.name
  value : IsText b.value

namespace Item

/-- Behind the utterance, the reason or effect would be a clause of it. -/
def Attaches : Item → Item → Prop
  | .utterance _, .why _ | .utterance _, .effect _ => True
  | _, _ => False

/-- No reason or effect directly behind an utterance. -/
def Apart (is : List Item) : Prop := is.IsChain (¬ Attaches · ·)

inductive Proper : Item → Prop
  | topic {t : String} (text : IsText t) : Proper (.topic t)
  | subtopic {t : String} (text : IsText t) : Proper (.subtopic t)
  | binding {b : Binding} (binding : b.Proper) : Proper (.binding b)
  | why {t : String} (text : IsText t) : Proper (.why t)
  | effect {t : String} (text : IsText t) : Proper (.effect t)
  | flow {g : Grouping} {name condition : Option String} {children : List Item}
      (hname : ∀ n ∈ name, g = .dialog ∧ IsName n)
      (hcondition : ∀ c ∈ condition, g ≠ .dialog ∧ IsText c)
      (hchildren : ∀ i ∈ children, Proper i) (apart : Apart children) :
      Proper (.flow g name condition children)
  | utterance {u : Utterance} (utterance : u.Proper) : Proper (.utterance u)
  | event {e : Event} (event : e.Proper) : Proper (.event e)

mutual

/-- How deep flow groups nest in the item, itself included. -/
def depth : Item → Nat
  | .flow _ _ _ is => depthAll is + 1
  | _ => 0

def depthAll : List Item → Nat
  | [] => 0
  | i :: is => max i.depth (depthAll is)

end

theorem depthAll_le {is : List Item} {n : Nat} : depthAll is ≤ n ↔ ∀ i ∈ is, i.depth ≤ n := by
  induction is with
  | nil => simp [depthAll]
  | cons i is ih => rw [depthAll, Nat.max_le, ih, List.forall_mem_cons]

/-- An utterance, and a proper one. -/
def Spoken (i : Item) : Prop := ∃ u, i = .utterance u ∧ u.Proper

end Item

/-- Proper items in which flow groups nest at most `levels` deep. -/
structure ProperItems (levels : Nat) (is : List Item) : Prop where
  proper : ∀ i ∈ is, i.Proper
  depth : Item.depthAll is ≤ levels

namespace ProperItems
variable {levels : Nat} {is : List Item}

theorem filter (h : ProperItems levels is) (p : Item → Bool) :
    ProperItems levels (is.filter p) := by
  refine ⟨fun i hi => h.proper i (List.mem_of_mem_filter hi), Item.depthAll_le.2 fun i hi => ?_⟩
  exact Item.depthAll_le.1 h.depth i (List.mem_of_mem_filter hi)

end ProperItems

/-- The items of a body, parted into those that stay and those that lead out. -/
structure ProperParts (staying leaving : List Item) : Prop where
  content : ProperItems maxNesting staying
  exits : ProperItems maxNesting leaving
  stay : ∀ i ∈ staying, i.isExit = false
  leave : ∀ i ∈ leaving, i.isExit = true

structure Terminal.Proper (t : Terminal) : Prop where
  id : IsName t.id
  content : ∀ i ∈ t.content, i.Spoken
  target : ∀ x ∈ t.target, t.kind = .start ∧
    ∃ a, t.content = [.utterance (.redirect { target := x, arrow := a })]
  ending : t.kind ≠ .start → t.target = none ∧ t.content = []

structure Process.Proper (p : Process) : Prop where
  id : IsName p.id
  action : ∀ a ∈ p.action, IsText a
  content : ProperItems maxNesting p.content
  apart : Item.Apart p.content

structure Contact.Proper (c : Contact) : Prop where
  id : IsName c.id
  name : IsText c.name
  content : ∀ i ∈ c.content, i.Spoken

def Element.Proper : Element → Prop
  | .scene s => IsName s.id ∧ ProperParts s.content s.exits
  | .global g => IsName g.id ∧ ProperParts g.content g.exits
  | .terminal t => t.Proper
  | .fork f => IsName f.id ∧ ∀ i ∈ f.content, i.Spoken
  | .process p => p.Proper
  | .external id => IsName id
  | .contact c => c.Proper

/-! ### What a rule gives -/

namespace Rule

/-- Whatever `p` reads satisfies `P`. -/
def Gives {α : Type} (p : Rule α) (P : α → Prop) : Prop := ∀ ⦃s a r⦄, p s = .read a r → P a

namespace Gives
variable {α β : Type} {p q : Rule α} {f : α → Rule β} {P Q : α → Prop} {R : β → Prop}

theorem imp (hp : Gives p P) (h : ∀ a, P a → Q a) : Gives p Q := fun _ _ _ hs => h _ (hp hs)

theorem pure {a : α} (h : P a) : Gives (Pure.pure a) P := by
  rintro s b r ⟨⟩
  exact h

theorem fail (e : Fault) : Gives (fail e) P := by
  rintro s a r ⟨⟩

theorem bind (hp : Gives p P) (hf : ∀ a, P a → Gives (f a) R) : Gives (p >>= f) R := by
  intro s b r h
  obtain ⟨a, r', ha, hb⟩ := bind_eq_read.1 h
  exact hf a (hp ha) hb

/-- The value of `p` does not matter. -/
theorem after (hf : ∀ a, Gives (f a) R) : Gives (p >>= f) R := by
  intro s b r h
  obtain ⟨a, r', ha, hb⟩ := bind_eq_read.1 h
  exact hf a hb

theorem map {g : α → β} (hp : Gives p P) (h : ∀ a, P a → R (g a)) : Gives (g <$> p) R := by
  intro s b r hs
  obtain ⟨a, ha, rfl⟩ := map_eq_read.1 hs
  exact h a (hp ha)

theorem orElse (hp : Gives p P) (hq : Gives q P) : Gives (p <|> q) P := by
  intro s a r h
  rcases orElse_eq_read.1 h with h | ⟨-, h⟩
  · exact hp h
  · exact hq h

theorem orFail (hp : Gives p P) (e : Fault) : Gives (p.orFail e) P := hp.orElse (fail e)

theorem optional (hp : Gives p P) : Gives p.optional fun o => ∀ a ∈ o, P a := by
  intro s o r h
  rcases optional_eq_read.1 h with ⟨a, ha, rfl⟩ | ⟨-, rfl, -⟩
  · simpa using hp ha
  · simp

theorem ite {c : Prop} [Decidable c] (hp : c → Gives p P) (hq : ¬ c → Gives q P) :
    Gives (if c then p else q) P := by
  split
  · exact hp ‹_›
  · exact hq ‹_›

theorem many (hp : Gives p P) : Gives (many p) fun as => ∀ a ∈ as, P a := by
  suffices h : ∀ clock, Gives (manyWithin p clock) fun as => ∀ a ∈ as, P a from
    fun s _ _ hs => h s hs
  intro clock s as r h
  fun_induction manyWithin p clock s generalizing as with
  | case1 s a r' hread =>
    cases h
    simpa using hp hread
  | case2 s a r' hread _ clock ih =>
    obtain ⟨bs, r'', hrest, heq⟩ := Outcome.bind_eq_read.1 h
    cases heq
    exact List.forall_mem_cons.2 ⟨hp hread, ih hrest⟩
  | case3 => cases h; simp
  | case4 => cases h

theorem spaced (hp : Gives p P) : Gives (spaced p) P := after fun _ => hp

end Gives

end Rule

/-! ### Words and clauses -/

namespace Source

/-- The text of a clause. -/
def Clause.text : Clause → String
  | .condition t | .trigger t | .binding t | .effect t | .why t => t

end Source

namespace Utterance.Proper
variable {u : Utterance}

theorem addTo (h : u.Proper) {c : Clause} (hc : IsText c.text) : (c.addTo u).Proper := by
  cases c with
  | condition t => exact { h with condition := by rintro _ ⟨⟩; exact hc }
  | trigger t => exact { h with trigger := by rintro _ ⟨⟩; exact hc }
  | binding t => exact { h with binding := by rintro _ ⟨⟩; exact hc }
  | effect t => exact { h with effect := by rintro _ ⟨⟩; exact hc }
  | why t => exact { h with why := by rintro _ ⟨⟩; exact hc }

theorem addBehindArrow (h : u.Proper) {c : Clause} (hc : IsText c.text) :
    (c.addBehindArrow u).Proper := by
  cases c with
  | why t =>
    refine { h with transition := fun t' ht' => ?_ }
    simp only [Clause.addBehindArrow, Option.mem_def, Option.map_eq_some_iff] at ht'
    obtain ⟨x, hx, rfl⟩ := ht'
    exact ⟨(h.transition x hx).target, by rintro _ ⟨⟩; exact hc⟩
  | condition t => exact h.addTo hc
  | trigger t => exact h.addTo hc
  | binding t => exact h.addTo hc
  | effect t => exact h.addTo hc

theorem foldl {add : Utterance → Clause → Utterance}
    (hadd : ∀ {u c}, Utterance.Proper u → IsText c.text → (add u c).Proper) {cs : List Clause}
    (hcs : ∀ c ∈ cs, IsText c.text) (h : u.Proper) : (cs.foldl add u).Proper := by
  induction cs generalizing u with
  | nil => exact h
  | cons c cs ih =>
    obtain ⟨hc, hcs⟩ := List.forall_mem_cons.1 hcs
    exact ih hcs (hadd h hc)

theorem redirect {t : Transition} (h : t.Proper) : (Utterance.redirect t).Proper := by
  constructor <;> simp [Utterance.redirect, isText_empty, h]

end Utterance.Proper

/-! ### Items -/

namespace Source

theorem trivia_ne_refused (s : List Char) : trivia s ≠ .refused := by
  intro h
  rcases bind_eq_refused.1 h with hmany | ⟨_, _, -, ⟨⟩⟩
  exact manyWithin_ne_refused _ _ _ hmany

theorem spaced_eq_refused {α : Type} {p : Rule α} {s : List Char} :
    spaced p s = .refused ↔ ∃ r, trivia s = .read () r ∧ p r = .refused := by
  constructor
  · intro h
    rcases bind_eq_refused.1 h with htrivia | ⟨_, r, htrivia, hp⟩
    · exact absurd htrivia (trivia_ne_refused s)
    · exact ⟨r, htrivia, hp⟩
  · rintro ⟨r, htrivia, hp⟩
    exact bind_eq_refused.2 (.inr ⟨(), r, htrivia, hp⟩)

theorem Gives.braced {α : Type} {p : Rule α} {P : List α → Prop} (h : Gives (many (spaced p)) P) :
    Gives (braced p) P :=
  .after fun _ => h.bind fun _ has => .after fun _ => .pure has

end Source

end Interaction
