import Mathlib.Data.List.Basic
import Mathlib.Data.List.Induction
import Interaction.Proofs.Edges

/-!
# What becomes of the ways out of a diagram

`Diagram.departures` lists every item that leaves an element, one kind of element after the other.
The loops of `Diagram.census` and `Diagram.draft` account for each of them: `outline_draft` says
which become plans and of what kind, `diagnostics_eq` which diagnostics there are, and
`toGraph_accounts` carries both to the graph. The state of a loop is projected to a list that only
grows at its end (`foldl_appends`), so that each loop is settled by what one of its steps appends.
-/

namespace Interaction

/-- A fold whose steps append to a list that is read off the state. -/
theorem foldl_appends {σ α β : Type} (view : σ → List β) {step : σ → α → σ} {f : α → List β}
    (h : ∀ s a, view (step s a) = view s ++ f a) (s : σ) (as : List α) :
    view (as.foldl step s) = view s ++ as.flatMap f := by
  induction as generalizing s with
  | nil => simp
  | cons a as ih => rw [List.foldl_cons, ih, h, List.flatMap_cons, List.append_assoc]

namespace Element

/-- The ways out of an element, if its items were `is`. An utterance and an event may have one each;
what stands in a flow group is no way out. -/
def departuresOf (e : Element) (is : List Item) : List Departure :=
  is.filterMap fun
    | .utterance u => u.transition.map (⟨e, .utterance u, ·⟩)
    | .event v => v.transition.map (⟨e, .event v, ·⟩)
    | .topic _ | .subtopic _ | .binding _ | .why _ | .effect _ | .flow .. => none

/-- The items that leave an element, in order: they are among the exits of a scene and of what can
be said in every scene, and among all items of the others. -/
def departures (e : Element) : List Departure :=
  match e with
  | .scene s => e.departuresOf s.exits
  | .global g => e.departuresOf g.exits
  | .terminal t => e.departuresOf t.content
  | .fork f => e.departuresOf f.content
  | .process p => e.departuresOf p.content
  | .external _ => []
  | .contact c => e.departuresOf c.content

theorem departuresOf_eq (e : Element) (is : List Item) :
    e.departuresOf is = is.filterMap fun i => i.transition?.map fun t => ⟨e, i, t⟩ := by
  unfold departuresOf
  congr 1
  funext i
  cases i <;> rfl

theorem departures_eq (e : Element) : e.departures = e.departuresOf e.outgoing := by
  cases e <;> rfl

theorem mem_departures {e : Element} {p : Departure} :
    p ∈ e.departures ↔ p.element = e ∧ p.item ∈ e.outgoing ∧
      p.item.transition? = some p.transition := by
  rw [departures_eq, departuresOf_eq, List.mem_filterMap]
  constructor
  · rintro ⟨i, hi, hp⟩
    obtain ⟨t, ht, rfl⟩ := Option.map_eq_some_iff.1 hp
    exact ⟨rfl, hi, ht⟩
  · rintro ⟨rfl, hi, ht⟩
    exact ⟨p.item, hi, by rw [ht]; rfl⟩

theorem element_of_mem_departures {e : Element} {p : Departure} (h : p ∈ e.departures) :
    p.element = e := (mem_departures.1 h).1

theorem transition?_of_mem_departures {e : Element} {p : Departure} (h : p ∈ e.departures) :
    p.item.transition? = some p.transition := (mem_departures.1 h).2.2

end Element

/-- The elements whose id another element had before. -/
def redeclared (es : List Element) : List Element :=
  (es.zipIdx.filter fun (e, n) => (es.take n).any (·.id = e.id)).map (·.1)

theorem redeclared_concat (es : List Element) (e : Element) :
    redeclared (es ++ [e]) = redeclared es ++ if es.any (·.id = e.id) then [e] else [] := by
  have hfront : (es.zipIdx.filter fun (x, n) => ((es ++ [e]).take n).any (·.id = x.id)) =
      es.zipIdx.filter fun (x, n) => (es.take n).any (·.id = x.id) := by
    refine List.filter_congr fun ⟨x, n⟩ hx => ?_
    have hn : n < es.length := by simpa using List.snd_lt_of_mem_zipIdx hx
    simp only [List.take_append_of_le_length (Nat.le_of_lt hn)]
  rw [redeclared, redeclared, List.zipIdx_append, List.filter_append, hfront, List.map_append]
  congr 1
  simp only [List.zipIdx_singleton, Nat.zero_add, List.filter_cons, List.filter_nil,
    List.take_left]
  split <;> rfl

namespace Diagram

/-- The kind of the first element called `id`. -/
def kindOf? (d : Diagram) (id : String) : Option NodeKind :=
  (d.elements.find? (·.id = id)).map Element.kind

/-- All ways out, in the order of the elements and then of their items. -/
def departures (d : Diagram) : List Departure := d.elements.flatMap Element.departures

/-- The kind of edge that a way out becomes, unless it is not acceptable. -/
def edgeKind? (d : Diagram) (p : Departure) : Option EdgeKind :=
  EdgeKind.resolve? p.transition.arrow p.element.kind (d.kindOf? p.transition.target)

/-- The way out becomes an edge. -/
def accepts (d : Diagram) (p : Departure) : Bool := (d.edgeKind? p).isSome

/-- The ways out of an element that become edges. -/
def kept (d : Diagram) (e : Element) : List Departure := e.departures.filter d.accepts

/-- What is wrong with a way out: it is not acceptable, or it leads to no element. -/
def flaw? (d : Diagram) (p : Departure) : Option Diagnostic :=
  if d.edgeKind? p = none then
    some (.invalidSimultaneous p.element.id p.transition.target p.element.kind
      (d.kindOf? p.transition.target))
  else if p.transition.target ∈ d.elements.map Element.id then none
  else some (.danglingTarget p.element.id p.transition.target)

theorem kindOf?_eq_none {d : Diagram} {id : String} :
    d.kindOf? id = none ↔ id ∉ d.elements.map Element.id := by
  simp [kindOf?]

/-! What becomes of a way out depends on the kinds of the ids only. -/

section
variable {d d' : Diagram} (h : d'.kindOf? = d.kindOf?)
include h

theorem edgeKind?_congr : d'.edgeKind? = d.edgeKind? := by
  funext p
  rw [edgeKind?, edgeKind?, h]

theorem flaw?_congr : d'.flaw? = d.flaw? := by
  funext p
  have hmem : p.transition.target ∈ d'.elements.map Element.id ↔
      p.transition.target ∈ d.elements.map Element.id := by
    rw [← not_iff_not, ← kindOf?_eq_none, ← kindOf?_eq_none, h]
  simp only [flaw?, edgeKind?_congr h, h, hmem]

end

end Diagram

/-! ### The census -/

namespace Census

theorem kindOf?_enter (c : Census) (e : Element) (id : String) :
    (c.enter e).kindOf? id = (c.kindOf? id).or (if e.id = id then some e.kind else none) := by
  unfold enter
  split
  · rename_i hknown
    by_cases hid : e.id = id
    · subst hid
      obtain ⟨k, hk⟩ := Option.isSome_iff_exists.1 hknown
      simp [hk]
    · simp [hid]
  · by_cases hid : e.id = id
    · subst hid; simp_all
    · simp [hid, Ne.symm hid]

theorem diagnostics_enter (c : Census) (e : Element) :
    (c.enter e).diagnostics.toList =
      c.diagnostics.toList ++ if (c.kindOf? e.id).isSome then [.duplicateElement e.id] else [] := by
  unfold enter
  split <;> simp

/-- The first element of an id decides what it is. -/
theorem kindOf?_foldl (es : List Element) (id : String) :
    (es.foldl enter empty).kindOf? id = (es.find? (·.id = id)).map Element.kind := by
  induction es using List.reverseRecOn with
  | nil => rfl
  | append_singleton es e ih =>
    rw [List.foldl_concat, kindOf?_enter, ih, List.find?_append, Option.map_or]
    congr 1
    by_cases hid : e.id = id <;> simp [hid]

theorem diagnostics_foldl (es : List Element) :
    (es.foldl enter empty).diagnostics.toList =
      (redeclared es).map fun e => .duplicateElement e.id := by
  induction es using List.reverseRecOn with
  | nil => rfl
  | append_singleton es e ih =>
    rw [List.foldl_concat, diagnostics_enter, ih, redeclared_concat, List.map_append,
      kindOf?_foldl]
    have hseen : ((es.find? (·.id = e.id)).map Element.kind).isSome = es.any (·.id = e.id) := by
      rw [Option.isSome_map, List.isSome_find?]
    simp only [hseen]
    split <;> simp

end Census

theorem Diagram.kindOf?_census (d : Diagram) : d.census.kindOf? = d.kindOf? :=
  funext fun id => Census.kindOf?_foldl d.elements id

/-! ### The draft -/

namespace Plan

/-- A plan without its id and its number. -/
def outline (p : Plan) : Departure × EdgeKind × Option NodeKind :=
  (p.departure, p.kind, p.targetKind)

end Plan

namespace Draft

def outline (s : Draft) : List (Departure × EdgeKind × Option NodeKind) :=
  s.plans.toList.map Plan.outline

end Draft

/-- The outline of the plan that a way out becomes. -/
def Diagram.outline? (d : Diagram) (p : Departure) :
    Option (Departure × EdgeKind × Option NodeKind) :=
  (d.edgeKind? p).map (p, ·, d.kindOf? p.transition.target)

namespace Draft
variable (d : Diagram) (s : Draft)

@[simp] theorem outline_report (x : Diagnostic) : (s.report x).outline = s.outline := rfl

@[simp] theorem outline_add (p : Departure) (kind : EdgeKind) (targetKind : Option NodeKind) :
    (s.add p kind targetKind).outline = s.outline ++ [(p, kind, targetKind)] := by
  simp [add, outline, Plan.outline]

theorem outline_depart (p : Departure) :
    (s.depart d.kindOf? p).outline = s.outline ++ (d.outline? p).toList := by
  unfold depart
  dsimp only
  split
  · rename_i hkind
    have : d.edgeKind? p = none := hkind
    simp [Diagram.outline?, this]
  · rename_i kind hkind
    have : d.edgeKind? p = some kind := hkind
    split <;> simp [Diagram.outline?, this]

theorem diagnostics_depart (p : Departure) :
    (s.depart d.kindOf? p).diagnostics.toList = s.diagnostics.toList ++ (d.flaw? p).toList := by
  unfold depart
  dsimp only
  split
  · rename_i hkind
    have : d.edgeKind? p = none := hkind
    simp [report, Diagram.flaw?, this]
  · rename_i kind hkind
    have hsome : d.edgeKind? p = some kind := hkind
    by_cases hdangling : d.kindOf? p.transition.target = none
    · have := Diagram.kindOf?_eq_none.1 hdangling
      simp [report, add, Diagram.flaw?, hsome, hdangling, this]
    · have := mt Diagram.kindOf?_eq_none.2 hdangling
      simp_all [add, Diagram.flaw?, Option.isNone_iff_eq_none]

theorem foldl_item (kindOf? : String → Option NodeKind) (e : Element) :
    e.outgoing.foldl (item kindOf? e) s = e.departures.foldl (depart kindOf?) s := by
  rw [Element.departures_eq, Element.departuresOf_eq, List.foldl_filterMap]
  congr 1
  funext s i
  unfold item
  cases i.transition? <;> rfl

theorem outline_foldl_depart (ps : List Departure) :
    (ps.foldl (depart d.kindOf?) s).outline = s.outline ++ ps.filterMap d.outline? := by
  rw [List.filterMap_eq_flatMap_toList]
  exact foldl_appends outline (fun s p => outline_depart d s p) s ps

theorem outline_element (e : Element) :
    (s.element d.kindOf? e).outline = s.outline ++ e.departures.filterMap d.outline? := by
  have hown := outline_foldl_depart d { s with plans := #[] } e.departures
  rw [← foldl_item] at hown
  simp only [element, outline, Array.toList_append, Array.toList_map, List.map_append,
    List.map_map] at hown ⊢
  exact congrArg _ hown

theorem diagnostics_element (e : Element) :
    (s.element d.kindOf? e).diagnostics.toList =
      s.diagnostics.toList ++ e.departures.filterMap d.flaw? := by
  rw [List.filterMap_eq_flatMap_toList, element, foldl_item]
  exact foldl_appends (·.diagnostics.toList) (fun s p => diagnostics_depart d s p)
    { s with plans := #[] } e.departures

end Draft

namespace Diagram
variable (d : Diagram)

theorem outline_draft : d.draft.outline = d.departures.filterMap d.outline? := by
  rw [draft, kindOf?_census, foldl_appends Draft.outline (Draft.outline_element d)]
  simp [Draft.outline, departures, List.filterMap_flatMap]

/-- A plan knows what its target is. -/
theorem targetKind_of_mem_plans {d : Diagram} {p : Plan} (hp : p ∈ d.plans) :
    p.targetKind = d.kindOf? p.target := by
  have hmem : p.outline ∈ d.draft.outline := List.mem_map_of_mem hp
  rw [outline_draft] at hmem
  obtain ⟨q, -, hq⟩ := List.mem_filterMap.1 hmem
  obtain ⟨kind, -, heq⟩ := Option.map_eq_some_iff.1 hq
  simp only [Plan.outline, Prod.mk.injEq] at heq
  obtain ⟨rfl, -, htarget⟩ := heq
  exact htarget.symm

theorem diagnostics_eq :
    d.diagnostics = (redeclared d.elements).map (fun e => .duplicateElement e.id) ++
      d.departures.filterMap d.flaw? := by
  have hrun := foldl_appends (fun s : Draft => s.diagnostics.toList) (Draft.diagnostics_element d)
    ⟨#[], d.census.diagnostics, fun _ => 0⟩ d.elements
  rw [diagnostics, draft, kindOf?_census, departures, List.filterMap_flatMap,
    ← Census.diagnostics_foldl]
  exact hrun

end Diagram

/-! ### The graph -/

/-- What an edge tells of the way out that it is: all but its id and its anchors. -/
structure Route where
  source : String
  target : String
  kind : EdgeKind
  label : Option EdgeLabel
  isPreferred : Bool
deriving DecidableEq, Repr

def Edge.route (e : Edge) : Route := ⟨e.source, e.target, e.kind, e.label, e.isPreferred⟩

def Departure.route (p : Departure) (kind : EdgeKind) : Route :=
  ⟨p.element.id, p.transition.target, kind, p.item.label? p.element.role,
    p.transition.isPreferred⟩

/-- A way out was refused. -/
def Diagnostic.isRefusal : Diagnostic → Bool
  | .invalidSimultaneous .. => true
  | .duplicateElement _ | .danglingTarget .. => false

namespace Diagram
variable (d : Diagram)

theorem map_route_edges (pins : Pins) :
    (d.edges pins).map Edge.route =
      d.departures.filterMap fun p => (d.edgeKind? p).map p.route := by
  have hplans : d.plans.map (fun p => p.loose.route) =
      d.draft.outline.map fun x => x.1.route x.2.1 := by
    rw [Draft.outline, List.map_map]
    rfl
  rw [d.map_edges pins (f := Edge.route) fun _ => rfl, hplans, outline_draft, List.map_filterMap]
  congr 1
  funext p
  rw [outline?, Option.map_map]
  rfl

theorem isRefusal_flaw? (p : Departure) :
    ((d.flaw? p).map Diagnostic.isRefusal).getD false = (d.edgeKind? p).isNone := by
  unfold flaw?
  split
  · simp_all [Diagnostic.isRefusal]
  · rename_i hkind
    rw [Option.isNone_eq_false_iff.2 (Option.isSome_iff_ne_none.2 hkind)]
    split <;> rfl

theorem length_edges_add_refusals (pins : Pins) :
    (d.edges pins).length + d.diagnostics.countP Diagnostic.isRefusal = d.departures.length := by
  have hedges : (d.edges pins).length = d.departures.countP fun p => (d.edgeKind? p).isSome := by
    rw [← List.length_map Edge.route, map_route_edges, List.length_filterMap_eq_countP]
    simp only [Option.isSome_map]
  have hrepeated : ((redeclared d.elements).map fun e => Diagnostic.duplicateElement e.id).countP
      Diagnostic.isRefusal = 0 := by
    simp [List.countP_map, Function.comp_def, Diagnostic.isRefusal]
  have hrefused : d.diagnostics.countP Diagnostic.isRefusal =
      d.departures.countP fun p => (d.edgeKind? p).isNone := by
    rw [diagnostics_eq, List.countP_append, hrepeated, Nat.zero_add, List.countP_filterMap]
    simp only [isRefusal_flaw?]
  rw [hedges, hrefused, List.length_eq_countP_add_countP fun p => (d.edgeKind? p).isSome]
  exact congrArg (_ + ·) (List.countP_congr fun p _ => by simp)

/-- Every element is a node. Every way out that is acceptable is an edge of its kind, every other
one is refused, and nothing else becomes an edge or is reported but repeated ids and missing
targets. -/
theorem toGraph_accounts (pins : Pins) :
    (d.toGraph pins).nodes.map (fun n => (n.id, n.kind)) =
      d.elements.map (fun e => (e.id, e.kind)) ∧
    (d.toGraph pins).edges.map Edge.route =
      d.departures.filterMap (fun p => (d.edgeKind? p).map p.route) ∧
    (d.toGraph pins).diagnostics =
      (redeclared d.elements).map (fun e => .duplicateElement e.id) ++
        d.departures.filterMap d.flaw? ∧
    (d.toGraph pins).edges.length + (d.toGraph pins).diagnostics.countP Diagnostic.isRefusal =
      d.departures.length :=
  ⟨Element.map_nodes (fun _ _ => rfl) _ _, d.map_route_edges pins, d.diagnostics_eq,
    d.length_edges_add_refusals pins⟩

end Diagram
end Interaction
