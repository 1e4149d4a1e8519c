import Interaction.Diagram.Json
import Interaction.Proofs.Proper

/-!
# How a body is written

`Written is ws` says that the words `ws` write the items `is`. There are choices: the quotes of a
text, the order of an utterance's clauses, a colon behind `if` and `let`. Everything proper can be
written (`exists_written`).
-/

namespace Interaction
open Source

/-- The word is the text between two quotes that are not in it. -/
def Quoted (t w : String) : Prop :=
  ∃ q, IsQuote q ∧ q ∉ t.toList ∧ w.toList = q :: (t.toList ++ [q])

theorem IsText.exists_quoted {t : String} (h : IsText t) : ∃ w, Quoted t w := by
  obtain ⟨q, hq, hmem⟩ := isText_iff.1 h
  exact ⟨String.ofList (q :: (t.toList ++ [q])), q, hq, hmem, String.toList_ofList⟩

theorem Quoted.isText {t w : String} (h : Quoted t w) : IsText t := by
  obtain ⟨q, hq, hmem, -⟩ := h
  exact isText_iff.2 ⟨q, hq, hmem⟩

/-- A part that need not be there. -/
inductive Perhaps {α : Type} (W : α → List String → Prop) : Option α → List String → Prop
  | none : Perhaps W none []
  | some {a : α} {ws : List String} (h : W a ws) : Perhaps W (some a) ws

theorem exists_perhaps {α : Type} {W : α → List String → Prop} {o : Option α}
    (h : ∀ a ∈ o, ∃ ws, W a ws) : ∃ ws, Perhaps W o ws := by
  cases o with
  | none => exact ⟨[], .none⟩
  | some a =>
    obtain ⟨ws, hws⟩ := h a rfl
    exact ⟨ws, .some hws⟩

def Arrow.sign : Arrow → String
  | .normal => "->"
  | .repair => "..>"
  | .simultaneous => "=>"

def Speaker.sign : Speaker → String
  | .user => "u:"
  | .system => "d:"
  | .mixed => "du:"
  | .anonymous => "anon:"

namespace Source

inductive Clause.Written : Clause → List String → Prop
  | condition {o t w : String} (ho : o = "if:" ∨ o = "if") (ht : Quoted t w) :
      Written (.condition t) [o, w]
  | trigger {t w : String} (ht : Quoted t w) : Written (.trigger t) ["when", w]
  | binding {t w : String} (ht : Quoted t w) : Written (.binding t) ["let:", w]
  | effect {t w : String} (ht : Quoted t w) : Written (.effect t) ["effect:", w]
  | why {t w : String} (ht : Quoted t w) : Written (.why t) ["why:", w]

theorem Clause.exists_written {c : Clause} (h : IsText c.text) : ∃ ws, c.Written ws := by
  obtain ⟨w, hw⟩ := h.exists_quoted
  cases c with
  | condition t => exact ⟨_, .condition (.inl rfl) hw⟩
  | trigger t => exact ⟨_, .trigger hw⟩
  | binding t => exact ⟨_, .binding hw⟩
  | effect t => exact ⟨_, .effect hw⟩
  | why t => exact ⟨_, .why hw⟩

inductive ClausesWritten : List Clause → List String → Prop
  | nil : ClausesWritten [] []
  | cons {c : Clause} {cs : List Clause} {ws ws' : List String} (hc : c.Written ws)
      (hcs : ClausesWritten cs ws') : ClausesWritten (c :: cs) (ws ++ ws')

theorem exists_clausesWritten {cs : List Clause} (h : ∀ c ∈ cs, IsText c.text) :
    ∃ ws, ClausesWritten cs ws := by
  induction cs with
  | nil => exact ⟨[], .nil⟩
  | cons c cs ih =>
    obtain ⟨hc, hcs⟩ := List.forall_mem_cons.1 h
    obtain ⟨ws, hws⟩ := Clause.exists_written hc
    obtain ⟨ws', hws'⟩ := ih hcs
    exact ⟨ws ++ ws', .cons hws hws'⟩

end Source

/-- The arrow, the target, and a reason if there is one. -/
inductive Transition.Written (t : Transition) : List String → Prop
  | intro {ws : List String} (hwhy : Perhaps (fun y => Clause.Written (.why y)) t.why ws) :
      Written t (t.arrow.sign :: t.target :: ws)

theorem Transition.Proper.exists_written {t : Transition} (h : t.Proper) : ∃ ws, t.Written ws := by
  obtain ⟨ws, hws⟩ := exists_perhaps fun y hy => Clause.exists_written (c := .why y) (h.why y hy)
  exact ⟨_, .intro hws⟩

namespace Utterance

/-- The clauses of the utterance, each sort at most once. -/
def clauses (u : Utterance) : List Clause :=
  (u.condition.map .condition).toList ++ (u.trigger.map .trigger).toList ++
    (u.binding.map .binding).toList ++ (u.effect.map .effect).toList ++ (u.why.map .why).toList

/-- The transition of the utterance is preferred. -/
def isPreferred (u : Utterance) : Bool := u.transition.any (·.isPreferred)

/-- The clauses stand in front of the arrow in any order. -/
inductive Written (u : Utterance) : List String → Prop
  | intro {w : String} {cs : List Clause} {ws ws' : List String} (htext : Quoted u.text w)
      (hperm : cs.Perm u.clauses) (hclauses : ClausesWritten cs ws)
      (htransition : Perhaps Transition.Written u.transition ws') :
      Written u ((if u.isPreferred then ["preferred"] else []) ++
        u.speaker.sign :: w :: (ws ++ ws'))

theorem mem_clauses {u : Utterance} {c : Clause} : c ∈ u.clauses ↔
    match c with
    | .condition t => u.condition = some t
    | .trigger t => u.trigger = some t
    | .binding t => u.binding = some t
    | .effect t => u.effect = some t
    | .why t => u.why = some t := by
  cases c <;> simp [clauses]

theorem Proper.exists_written {u : Utterance} (h : u.Proper) : ∃ ws, u.Written ws := by
  obtain ⟨w, htext⟩ := h.text.exists_quoted
  have hclauses : ∀ c ∈ u.clauses, IsText c.text := by
    intro c hc
    rw [mem_clauses] at hc
    cases c with
    | condition t => exact h.condition t hc
    | trigger t => exact h.trigger t hc
    | binding t => exact h.binding t hc
    | effect t => exact h.effect t hc
    | why t => exact h.why t hc
  obtain ⟨ws, hws⟩ := exists_clausesWritten hclauses
  obtain ⟨ws', hws'⟩ := exists_perhaps fun t ht => (h.transition t ht).exists_written
  exact ⟨_, .intro htext (.refl _) hws hws'⟩

end Utterance

inductive Event.Written (e : Event) : List String → Prop
  | intro {w : String} {ws ws' : List String} (htrigger : Quoted e.trigger w)
      (hcondition : Perhaps (fun t => Clause.Written (.condition t)) e.condition ws)
      (htransition : Perhaps Transition.Written e.transition ws') :
      Written e ("when:" :: w :: (ws ++ ws'))

theorem Event.Proper.exists_written {e : Event} (h : e.Proper) : ∃ ws, e.Written ws := by
  obtain ⟨w, hw⟩ := h.trigger.exists_quoted
  obtain ⟨ws, hws⟩ := exists_perhaps fun t ht =>
    Clause.exists_written (c := .condition t) (h.condition t ht)
  obtain ⟨ws', hws'⟩ := exists_perhaps fun t ht => (h.transition t ht).proper.exists_written
  exact ⟨_, .intro hw hws hws'⟩

inductive Binding.Written (b : Binding) : List String → Prop
  | intro {o w : String} (ho : o = "let" ∨ o = "let:")
      (hvalue : Quoted b.value w ∨ w = b.value ∧ IsName w) : Written b [o, b.name, "=", w]

/-- The items that hold no others. -/
inductive Item.Written : Item → List String → Prop
  | topic {t w : String} (ht : Quoted t w) : Written (.topic t) ["topic:", w]
  | subtopic {t w : String} (ht : Quoted t w) : Written (.subtopic t) ["subtopic:", w]
  | binding {b : Binding} {ws : List String} (hb : b.Written ws) : Written (.binding b) ws
  | why {t w : String} (ht : Quoted t w) : Written (.why t) ["why:", w]
  | effect {t w : String} (ht : Quoted t w) : Written (.effect t) ["effect:", w]
  | utterance {u : Utterance} {ws : List String} (hu : u.Written ws) : Written (.utterance u) ws
  | event {e : Event} {ws : List String} (he : e.Written ws) : Written (.event e) ws

/-- The words write the items one after the other. -/
inductive Written : List Item → List String → Prop
  | nil : Written [] []
  | cons {i : Item} {is : List Item} {ws ws' : List String} (hi : i.Written ws)
      (his : Written is ws') : Written (i :: is) (ws ++ ws')
  | flow {g : Grouping} {name condition : Option String} {children is : List Item}
      {cs ws ws' : List String}
      (hcondition : Perhaps (fun t => Clause.Written (.condition t)) condition cs)
      (hchildren : Written children ws) (his : Written is ws') :
      Written (.flow g name condition children :: is)
        (g.word :: (name.toList ++ (cs ++ "\x7b" :: (ws ++ "\x7d" :: ws'))))

theorem exists_written : ∀ {is : List Item}, (∀ i ∈ is, i.Proper) → ∃ ws, Written is ws
  | [], _ => ⟨[], .nil⟩
  | i :: is, h => by
    obtain ⟨hi, his⟩ := List.forall_mem_cons.1 h
    obtain ⟨ws', hws'⟩ := exists_written his
    cases hi with
    | topic ht =>
      obtain ⟨w, hw⟩ := ht.exists_quoted
      exact ⟨_, .cons (.topic hw) hws'⟩
    | subtopic ht =>
      obtain ⟨w, hw⟩ := ht.exists_quoted
      exact ⟨_, .cons (.subtopic hw) hws'⟩
    | binding hb =>
      obtain ⟨w, hw⟩ := hb.value.exists_quoted
      exact ⟨_, .cons (.binding (.intro (.inl rfl) (.inl hw))) hws'⟩
    | why ht =>
      obtain ⟨w, hw⟩ := ht.exists_quoted
      exact ⟨_, .cons (.why hw) hws'⟩
    | effect ht =>
      obtain ⟨w, hw⟩ := ht.exists_quoted
      exact ⟨_, .cons (.effect hw) hws'⟩
    | flow hname hcondition hchildren _ =>
      obtain ⟨ws, hws⟩ := exists_written hchildren
      obtain ⟨cs, hcs⟩ := exists_perhaps fun t ht =>
        Clause.exists_written (c := .condition t) (hcondition t ht).2
      exact ⟨_, .flow hcs hws hws'⟩
    | utterance hu =>
      obtain ⟨ws, hws⟩ := hu.exists_written
      exact ⟨_, .cons (.utterance hws) hws'⟩
    | event he =>
      obtain ⟨ws, hws⟩ := he.exists_written
      exact ⟨_, .cons (.event hws) hws'⟩

end Interaction
