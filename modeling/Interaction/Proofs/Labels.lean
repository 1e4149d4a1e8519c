import Mathlib.Data.List.Forall2
import Interaction.Proofs.Departures
import Interaction.Proofs.Restore

/-!
# What the labels of edges say

`Departure.Says` lists what a way out has to say and the words for it. The label of its edge says
all of that and nothing else, each in a line of its own and in a fixed order (`Departure.Labels`).
There is no label where nothing is to be said (`Departure.Silent`) and none on simultaneous edges:
labels go by the arrow, but an edge is simultaneous exactly if its arrow is
(`EdgeKind.eq_simultaneous_iff`). All graphs of a diagram have these labels (`edges_labelled`).
-/

namespace Interaction

/-! ### Lines -/

namespace LabelLine
variable {line : LabelLine} {role : LineRole} {mark : String} {part : Option String}

theorem mem_clause :
    line ∈ clause role mark part ↔ ∃ t, part = some t ∧ line = ⟨role, mark ++ t⟩ := by
  cases part <;> simp [clause]

theorem clause_eq_nil : clause role mark part = [] ↔ part = none := by
  cases part <;> simp [clause]

theorem map_role_clause : ((clause role mark part).map LabelLine.role).Sublist [role] := by
  cases part <;> simp [clause]

end LabelLine

namespace EdgeLabel
variable {lines : List LabelLine} {l : EdgeLabel}

theorem ofLines?_eq_none : ofLines? lines = none ↔ lines = [] := by
  cases lines <;> simp [ofLines?]

theorem lines_of_ofLines? (h : ofLines? lines = some l) : l.lines = lines := by
  cases lines with
  | nil => cases h
  | cons line lines =>
    cases h
    rfl

end EdgeLabel

namespace Utterance
variable (u : Utterance) (contact : Option String)

theorem spoken_eq_empty :
    u.spoken contact = "" ↔ contact = none ∧ u.speaker = .anonymous ∧ u.text = "" := by
  cases contact with
  | none =>
    show u.speaker.mark ++ u.text = "" ↔ _
    rw [String.append_eq_empty_iff]
    cases u.speaker <;> simp [Speaker.mark]
  | some name => simp [spoken]

/-- The line of the words, if there are any. -/
def mainLine : List LabelLine :=
  if (u.spoken contact).isEmpty then [] else [⟨.main, u.spoken contact⟩]

theorem mainLine_eq_nil : u.mainLine contact = [] ↔ u.spoken contact = "" := by
  simp [mainLine]

theorem mem_mainLine {line : LabelLine} :
    line ∈ u.mainLine contact ↔ u.spoken contact ≠ "" ∧ line = ⟨.main, u.spoken contact⟩ := by
  unfold mainLine
  split <;> simp_all

theorem map_role_mainLine : ((u.mainLine contact).map LabelLine.role).Sublist [.main] := by
  unfold mainLine
  split <;> simp

theorem labelLines_eq : u.labelLines contact =
    LabelLine.clause .trigger "when: " u.trigger ++ LabelLine.clause .condition "if: " u.condition ++
    u.mainLine contact ++ LabelLine.clause .binding "let: " u.binding ++
    LabelLine.clause .effect "effect: " u.effect ++ LabelLine.clause .why "why: " u.reason := rfl

theorem map_role_labelLines : ((u.labelLines contact).map LabelLine.role).Sublist
    [.trigger, .condition, .main, .binding, .effect, .why] := by
  show List.Sublist _
    ([.trigger] ++ [.condition] ++ [.main] ++ [.binding] ++ [.effect] ++ [LineRole.why])
  simp only [labelLines_eq, List.map_append]
  have hclause := @LabelLine.map_role_clause
  exact (((((hclause.append hclause).append (u.map_role_mainLine contact)).append hclause).append
    hclause).append hclause)

theorem labelLines_eq_nil : u.labelLines contact = [] ↔
    u.trigger = none ∧ u.condition = none ∧ u.spoken contact = "" ∧ u.binding = none ∧
      u.effect = none ∧ u.reason = none := by
  simp only [labelLines_eq, List.append_eq_nil_iff, LabelLine.clause_eq_nil, mainLine_eq_nil,
    and_assoc]

theorem reason_eq_none : u.reason = none ↔ u.transition.bind (·.why) = none ∧ u.why = none := by
  simp [reason]

theorem reason_eq_some {t : String} : u.reason = some t ↔
    u.transition.bind (·.why) = some t ∨ u.transition.bind (·.why) = none ∧ u.why = some t := by
  rw [reason, Option.or_eq_some_iff]

end Utterance

namespace Event

theorem map_role_labelLines (e : Event) : (e.labelLines.map LabelLine.role).Sublist
    [.trigger, .condition, .main, .binding, .effect, .why] := by
  show List.Sublist _ (.trigger :: ([.condition] ++ [.main, .binding, .effect, LineRole.why]))
  have hwhy : [LineRole.why].Sublist [.main, .binding, .effect, LineRole.why] := by decide
  simp only [labelLines, List.map_cons, List.map_append]
  exact (LabelLine.map_role_clause.append (LabelLine.map_role_clause.trans hwhy)).cons_cons _

end Event

/-! ### What is to be said -/

/-- What an item that leaves `e` by the transition `t` has to say, with the words for it. A contact
speaks under its name, anybody else under the mark of the speaker. The reason of an utterance is not
given if its transition has one. -/
inductive Item.Says (e : Element) (t : Transition) : Item → LabelLine → Prop
  | trigger {u s} (h : u.trigger = some s) : Says e t (.utterance u) ⟨.trigger, "when: " ++ s⟩
  | condition {u s} (h : u.condition = some s) : Says e t (.utterance u) ⟨.condition, "if: " ++ s⟩
  | contact {u c} (h : e = .contact c) : Says e t (.utterance u) ⟨.main, c.name ++ ": " ++ u.text⟩
  | speaker {u} (h : e.kind ≠ .contact) (hwords : ¬ (u.speaker = .anonymous ∧ u.text = "")) :
    Says e t (.utterance u) ⟨.main, u.speaker.mark ++ u.text⟩
  | binding {u s} (h : u.binding = some s) : Says e t (.utterance u) ⟨.binding, "let: " ++ s⟩
  | effect {u s} (h : u.effect = some s) : Says e t (.utterance u) ⟨.effect, "effect: " ++ s⟩
  | why {u s} (h : u.why = some s) (hnone : t.why = none) :
    Says e t (.utterance u) ⟨.why, "why: " ++ s⟩
  | transitionWhy {i s} (h : t.why = some s) : Says e t i ⟨.why, "why: " ++ s⟩
  | event {x} : Says e t (.event x) ⟨.trigger, "when: " ++ x.trigger⟩
  | eventCondition {x s} (h : x.condition = some s) :
    Says e t (.event x) ⟨.condition, "if: " ++ s⟩

/-- The utterance is one of nobody, without words and without any clause. -/
structure Utterance.Silent (u : Utterance) : Prop where
  speaker : u.speaker = .anonymous
  text : u.text = ""
  trigger : u.trigger = none
  condition : u.condition = none
  binding : u.binding = none
  effect : u.effect = none
  why : u.why = none
  transitionWhy : ∀ t ∈ u.transition, t.why = none

/-- The label of an edge of this kind says what the way out has to say, each thing in a line of its
own and in this order. -/
structure Departure.Labels (p : Departure) (kind : EdgeKind) (label : Option EdgeLabel) :
    Prop where
  eq_none : label = none ↔ kind = .simultaneous ∨
    p.element.kind ≠ .contact ∧ ∃ u, p.item = .utterance u ∧ u.Silent
  roles : ∀ l ∈ label, (l.lines.map LabelLine.role).Sublist
    [.trigger, .condition, .main, .binding, .effect, .why]
  lines : ∀ l ∈ label, ∀ line, line ∈ l.lines ↔ p.item.Says p.element p.transition line

theorem Element.role_eq_none {e : Element} : e.role = none ↔ e.kind ≠ .contact := by
  cases e with
  | terminal t => cases hk : t.kind <;> simp [role, kind, TerminalKind.node, hk]
  | _ => simp [role, kind]

theorem Element.role_eq_some {e : Element} {name : String} :
    e.role = some name ↔ ∃ c, e = .contact c ∧ c.name = name := by
  cases e <;> simp [role]

section
variable {e : Element} {t : Transition} {u : Utterance} {x : Event} {line : LabelLine}

theorem Utterance.mem_mainLine_role : line ∈ u.mainLine e.role ↔
    (∃ c, e = .contact c ∧ line = ⟨.main, c.name ++ ": " ++ u.text⟩) ∨
      e.kind ≠ .contact ∧ ¬ (u.speaker = .anonymous ∧ u.text = "") ∧
        line = ⟨.main, u.speaker.mark ++ u.text⟩ := by
  rw [mem_mainLine, Ne, spoken_eq_empty, ← Element.role_eq_none]
  cases hrole : e.role with
  | none =>
    have hcontact : ∀ c, e ≠ .contact c := by
      rintro c rfl
      cases hrole
    simp [hcontact, spoken]
  | some name =>
    obtain ⟨c, rfl, rfl⟩ := Element.role_eq_some.1 hrole
    simp [spoken]

theorem Utterance.mem_labelLines (ht : u.transition = some t) :
    line ∈ u.labelLines e.role ↔ (Item.utterance u).Says e t line := by
  simp only [labelLines_eq, List.mem_append, LabelLine.mem_clause, mem_mainLine_role,
    reason_eq_some, ht, Option.bind_some, or_assoc]
  constructor
  · rintro (⟨s, h, rfl⟩ | ⟨s, h, rfl⟩ | ⟨c, h, rfl⟩ | ⟨h, hwords, rfl⟩ | ⟨s, h, rfl⟩ | ⟨s, h, rfl⟩ |
      ⟨s, h | ⟨hnone, h⟩, rfl⟩)
    · exact .trigger h
    · exact .condition h
    · exact .contact h
    · exact .speaker h hwords
    · exact .binding h
    · exact .effect h
    · exact .transitionWhy h
    · exact .why h hnone
  · intro h
    cases h with
    | trigger h => exact .inl ⟨_, h, rfl⟩
    | condition h => exact .inr (.inl ⟨_, h, rfl⟩)
    | contact h => exact .inr (.inr (.inl ⟨_, h, rfl⟩))
    | speaker h hwords => exact .inr (.inr (.inr (.inl ⟨h, hwords, rfl⟩)))
    | binding h => exact .inr (.inr (.inr (.inr (.inl ⟨_, h, rfl⟩))))
    | effect h => exact .inr (.inr (.inr (.inr (.inr (.inl ⟨_, h, rfl⟩)))))
    | transitionWhy h => exact .inr (.inr (.inr (.inr (.inr (.inr ⟨_, .inl h, rfl⟩)))))
    | why h hnone => exact .inr (.inr (.inr (.inr (.inr (.inr ⟨_, .inr ⟨hnone, h⟩, rfl⟩)))))

theorem Event.mem_labelLines (ht : x.transition = some t) :
    line ∈ x.labelLines ↔ (Item.event x).Says e t line := by
  simp only [labelLines, List.mem_cons, List.mem_append, LabelLine.mem_clause, ht,
    Option.bind_some]
  constructor
  · rintro (rfl | ⟨s, h, rfl⟩ | ⟨s, h, rfl⟩)
    · exact .event
    · exact .eventCondition h
    · exact .transitionWhy h
  · intro h
    cases h with
    | event => exact .inl rfl
    | eventCondition h => exact .inr (.inl ⟨_, h, rfl⟩)
    | transitionWhy h => exact .inr (.inr ⟨_, h, rfl⟩)

theorem Utterance.labelLines_role_eq_nil :
    u.labelLines e.role = [] ↔ e.kind ≠ .contact ∧ u.Silent := by
  rw [labelLines_eq_nil, spoken_eq_empty, reason_eq_none, Element.role_eq_none,
    Option.bind_eq_none_iff]
  constructor
  · rintro ⟨htrigger, hcondition, ⟨hcontact, hspeaker, htext⟩, hbinding, heffect, ht, hwhy⟩
    exact ⟨hcontact, hspeaker, htext, htrigger, hcondition, hbinding, heffect, hwhy, ht⟩
  · rintro ⟨hcontact, h⟩
    exact ⟨h.trigger, h.condition, ⟨hcontact, h.speaker, h.text⟩, h.binding, h.effect,
      h.transitionWhy, h.why⟩

end

/-! ### Labels of items -/

namespace Item
variable {i : Item} {e : Element} {t : Transition} {line : LabelLine}

/-- The lines of the label of an item, if it has one. -/
def labelLines (i : Item) (contact : Option String) : List LabelLine :=
  match i with
  | .utterance u => u.labelLines contact
  | .event x => x.labelLines
  | _ => []

theorem label?_eq (ht : i.transition? = some t) (contact : Option String) :
    i.label? contact = if t.arrow = .simultaneous then none
      else EdgeLabel.ofLines? (i.labelLines contact) := by
  unfold label?
  rw [ht, Option.any_some]
  simp only [decide_eq_true_eq]
  cases i <;> rfl

theorem mem_labelLines (ht : i.transition? = some t) :
    line ∈ i.labelLines e.role ↔ i.Says e t line := by
  cases i with
  | utterance u => exact Utterance.mem_labelLines ht
  | event x => exact Event.mem_labelLines ht
  | _ => cases ht

theorem map_role_labelLines (i : Item) (contact : Option String) :
    ((i.labelLines contact).map LabelLine.role).Sublist
      [.trigger, .condition, .main, .binding, .effect, .why] := by
  cases i with
  | utterance u => exact u.map_role_labelLines contact
  | event x => exact x.map_role_labelLines
  | _ => exact List.nil_sublist _

theorem labelLines_eq_nil (ht : i.transition? = some t) :
    i.labelLines e.role = [] ↔ e.kind ≠ .contact ∧ ∃ u, i = .utterance u ∧ u.Silent := by
  cases i with
  | utterance u =>
    have hnil := Utterance.labelLines_role_eq_nil (e := e) (u := u)
    simpa [labelLines] using hnil
  | event x => simp [labelLines, Event.labelLines]
  | _ => cases ht

end Item

/-! ### Edges -/

/-- A simultaneous arrow makes a simultaneous edge or none. -/
theorem EdgeKind.eq_simultaneous_iff {a : Arrow} {source : NodeKind} {target : Option NodeKind}
    {kind : EdgeKind} (h : resolve? a source target = some kind) :
    kind = .simultaneous ↔ a = .simultaneous := by
  cases a with
  | simultaneous =>
    simp only [resolve?] at h
    split at h <;> simp_all
  | normal =>
    rw [resolve?] at h
    split at h <;> cases h <;> simp
  | repair =>
    rw [resolve?] at h
    split at h <;> cases h <;> simp

theorem Departure.labels_label? {p : Departure} (ht : p.item.transition? = some p.transition)
    {target : Option NodeKind} {kind : EdgeKind}
    (hkind : EdgeKind.resolve? p.transition.arrow p.element.kind target = some kind) :
    p.Labels kind (p.item.label? p.element.role) := by
  have hsimultaneous := EdgeKind.eq_simultaneous_iff hkind
  by_cases harrow : p.transition.arrow = .simultaneous
  · rw [Item.label?_eq ht, if_pos harrow]
    exact ⟨iff_of_true rfl (.inl (hsimultaneous.2 harrow)), by simp, by simp⟩
  · have hne : kind ≠ .simultaneous := mt hsimultaneous.1 harrow
    rw [Item.label?_eq ht, if_neg harrow]
    refine ⟨?_, fun l hl => ?_, fun l hl line => ?_⟩
    · rw [EdgeLabel.ofLines?_eq_none, Item.labelLines_eq_nil ht, or_iff_right hne]
    · rw [EdgeLabel.lines_of_ofLines? hl]
      exact p.item.map_role_labelLines _
    · rw [EdgeLabel.lines_of_ofLines? hl]
      exact Item.mem_labelLines ht

/-- What is picked out of a list stands beside the entries that it is picked from. -/
theorem forall₂_filter_filterMap {α β : Type} {R : α → β → Prop} {f : α → Option β}
    {as : List α} (h : ∀ a ∈ as, ∀ b, f a = some b → R a b) :
    List.Forall₂ R (as.filter fun a => (f a).isSome) (as.filterMap f) := by
  induction as with
  | nil => exact .nil
  | cons a as ih =>
    have hrest := ih fun a ha => h a (List.mem_cons_of_mem _ ha)
    cases hf : f a with
    | none => simpa [hf] using hrest
    | some b =>
      have hb := h a List.mem_cons_self b hf
      simpa [hf, hb] using hrest

/-- The edges of the graph are the ways out that become edges, in their order, and labelled with
what they say. -/
def Diagram.Labels (d : Diagram) (g : Graph) : Prop :=
  List.Forall₂ (fun p e => d.edgeKind? p = some e.kind ∧ e.source = p.element.id ∧
    e.target = p.transition.target ∧ p.Labels e.kind e.label)
    (d.departures.filter fun p => (d.edgeKind? p).isSome) g.edges

namespace Graph.Shows
variable {d : Diagram} {g : Graph}

theorem map_route (h : g.Shows d) : g.edges.map Edge.route =
    d.departures.filterMap fun p => (d.edgeKind? p).map p.route :=
  calc g.edges.map Edge.route
    _ = (g.edges.map Edge.loose).map Edge.route := by rw [List.map_map]; rfl
    _ = ((d.edges []).map Edge.loose).map Edge.route := by rw [h.edges, d.map_loose_edges]
    _ = (d.edges []).map Edge.route := by rw [List.map_map]; rfl
    _ = _ := d.map_route_edges []

theorem labels (h : g.Shows d) : d.Labels g := by
  have hrow : List.Forall₂ (fun p (x : Route) => d.edgeKind? p = some x.kind ∧
      x.source = p.element.id ∧ x.target = p.transition.target ∧ p.Labels x.kind x.label)
      (d.departures.filter fun p => ((d.edgeKind? p).map p.route).isSome)
      (g.edges.map Edge.route) := by
    rw [h.map_route]
    refine forall₂_filter_filterMap fun p hp x hx => ?_
    obtain ⟨kind, hkind, rfl⟩ := Option.map_eq_some_iff.1 hx
    obtain ⟨e, -, hp⟩ := List.mem_flatMap.1 hp
    have ht := Element.transition?_of_mem_departures hp
    exact ⟨hkind, rfl, rfl, Departure.labels_label? ht hkind⟩
  simp only [Option.isSome_map] at hrow
  exact List.forall₂_map_right_iff.1 hrow

end Graph.Shows

/-- In every graph of a diagram, under any pins and under any arrangement, the labels of the edges
are complete and in order, and are left out only where the edge is simultaneous or nothing is to be
said. -/
theorem Diagram.edges_labelled (d : Diagram) :
    (∀ pins, d.Labels (d.toGraph pins)) ∧ ∀ saved, d.Labels (d.draw saved) :=
  ⟨fun pins => (Graph.Shows.toGraph d pins).labels, fun saved => (Graph.Shows.draw d saved).labels⟩

end Interaction
