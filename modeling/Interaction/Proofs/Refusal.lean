import Interaction.Proofs.Departures

/-!
# A refused way out leaves a diagnostic and nothing else

A simultaneous transition that is not possible is refused. Two drafts are `Alike` if they have
planned the same edges, whatever else the elements hold from which the edges come; a refused way out
takes a draft to one that is alike (`Alike.refused`), and so do all ways out that are the same up to
such elements (`Alike.foldl`). Edges see no more of a draft than that (`edges_bare`). So if a
refused item is put among the items of an element, the graph gets one more diagnostic and stays as
it is (`toGraph_insert_refused`).
-/

namespace Interaction

namespace Element

/-- The element with other items to lead out of it. An external diagram has none. -/
def withOutgoing (is : List Item) : Element → Element
  | .scene s => .scene { s with exits := is }
  | .global g => .global { g with exits := is }
  | .terminal t => .terminal { t with content := is }
  | .fork f => .fork { f with content := is }
  | .process p => .process { p with content := is }
  | .external id => .external id
  | .contact c => .contact { c with content := is }

section
variable (e : Element) (is : List Item)

@[simp] theorem id_withOutgoing : (e.withOutgoing is).id = e.id := by cases e <;> rfl

@[simp] theorem kind_withOutgoing : (e.withOutgoing is).kind = e.kind := by cases e <;> rfl

@[simp] theorem role_withOutgoing : (e.withOutgoing is).role = e.role := by cases e <;> rfl

@[simp] theorem withOutgoing_withOutgoing (is' : List Item) :
    (e.withOutgoing is).withOutgoing is' = e.withOutgoing is' := by cases e <;> rfl

theorem outgoing_withOutgoing (h : e.kind ≠ .external) : (e.withOutgoing is).outgoing = is := by
  cases e with
  | external id => exact absurd rfl h
  | _ => rfl

/-- What leads out of an element is not shown in its node. -/
theorem nodes_withOutgoing (c : Cursor) (l r : List Element) :
    nodes c (l ++ e.withOutgoing is :: r) = nodes c (l ++ e :: r) := by
  induction l generalizing c with
  | nil => cases e <;> rfl
  | cons x l ih => simp only [List.cons_append, nodes, ih]

end

end Element

/-! ### Ways out without what they stand among -/

namespace Departure

/-- The way out, as if it were of an element with no other. -/
def bare (p : Departure) : Departure := { p with element := p.element.withOutgoing [] }

variable {p p' : Departure}

theorem id_of_bare (h : p.bare = p'.bare) : p.element.id = p'.element.id := by
  simpa [bare] using congrArg (·.element.id) h

theorem kind_of_bare (h : p.bare = p'.bare) : p.element.kind = p'.element.kind := by
  simpa [bare] using congrArg (·.element.kind) h

theorem item_of_bare (h : p.bare = p'.bare) : p.item = p'.item := congrArg (·.item) h

theorem transition_of_bare (h : p.bare = p'.bare) : p.transition = p'.transition :=
  congrArg (·.transition) h

theorem base_of_bare (h : p.bare = p'.bare) : p.base = p'.base := by
  rw [base, base, id_of_bare h, item_of_bare h, transition_of_bare h]

end Departure

def Plan.bare (p : Plan) : Plan := { p with departure := p.departure.bare }

namespace Berths
variable (pins : Pins)

theorem reserve_bare (b : Berths) (p : Plan) : reserve pins b p.bare = reserve pins b p := by
  simp [reserve, Plan.bare, Departure.bare, Plan.sourceEnd, Plan.targetEnd, Plan.source,
    Plan.target]

theorem connect_bare (b : Berths) (p : Plan) : connect pins b p.bare = connect pins b p := by
  simp [connect, Plan.bare, Departure.bare, Plan.sourceEnd, Plan.targetEnd, Plan.source,
    Plan.target, Plan.edge]

theorem connectAll_bare (b : Berths) (ps : List Plan) :
    connectAll pins b (ps.map Plan.bare) = connectAll pins b ps := by
  induction ps generalizing b with
  | nil => rfl
  | cons p ps ih => simp only [List.map_cons, connectAll, connect_bare, ih]

/-- Neither anchors nor labels look at what else leads out of an element. -/
theorem edges_bare (ps : List Plan) : edges pins (ps.map Plan.bare) = edges pins ps := by
  rw [edges, edges, List.foldl_map, connectAll_bare]
  simp only [reserve_bare]

end Berths

/-! ### Drafts with the same edges -/

namespace Draft

/-- The same edges are planned, with the same numbers. -/
structure Alike (s s' : Draft) : Prop where
  plans : s.plans.toList.map Plan.bare = s'.plans.toList.map Plan.bare
  count : s.count = s'.count

namespace Alike
variable {s s' s'' : Draft} {p p' : Departure} {ps ps' : List Departure}
  {kindOf? : String → Option NodeKind}

theorem refl (s : Draft) : Alike s s := ⟨rfl, rfl⟩

theorem size (h : Alike s s') : s.plans.size = s'.plans.size := by
  simpa using congrArg List.length h.plans

theorem add (h : Alike s s') (hp : p.bare = p'.bare) (k : EdgeKind) (target : Option NodeKind) :
    Alike (s.add p k target) (s'.add p' k target) := by
  have hbase := Departure.base_of_bare hp
  refine ⟨?_, ?_⟩
  · simp only [Draft.add, Array.toList_push, List.map_append, h.plans]
    simp [Plan.bare, hp, hbase, h.count, h.size]
  · simp only [Draft.add, hbase, h.count]

theorem depart (h : Alike s s') (hp : p.bare = p'.bare) :
    Alike (s.depart kindOf? p) (s'.depart kindOf? p') := by
  unfold Draft.depart
  rw [Departure.kind_of_bare hp, Departure.id_of_bare hp, Departure.transition_of_bare hp]
  dsimp only
  split
  · exact ⟨h.plans, h.count⟩
  · split
    · have hreport : ∀ x, Alike (s.report x) (s'.report x) := fun _ => ⟨h.plans, h.count⟩
      exact (hreport _).add hp _ _
    · exact h.add hp _ _

/-- The draft does not notice what is refused. -/
theorem refused (h : Alike s s') (hp : EdgeKind.resolve? p.transition.arrow p.element.kind
    (kindOf? p.transition.target) = none) : Alike (s.depart kindOf? p) s' := by
  unfold Draft.depart
  dsimp only
  rw [hp]
  exact ⟨h.plans, h.count⟩

theorem foldl (h : Alike s s') (hps : ps.map Departure.bare = ps'.map Departure.bare) :
    Alike (ps.foldl (Draft.depart kindOf?) s) (ps'.foldl (Draft.depart kindOf?) s') := by
  induction ps generalizing ps' s s' with
  | nil =>
    cases ps' with
    | nil => exact h
    | cons p' ps' => cases hps
  | cons p ps ih =>
    cases ps' with
    | nil => cases hps
    | cons p' ps' =>
      obtain ⟨hp, hps⟩ := List.cons.inj hps
      rw [List.foldl_cons, List.foldl_cons]
      exact ih (h.depart hp) hps

theorem element {e e' : Element} (h : Alike s s')
    (hown : Alike (e.departures.foldl (Draft.depart kindOf?) { s with plans := #[] })
      (e'.departures.foldl (Draft.depart kindOf?) { s' with plans := #[] })) :
    Alike (s.element kindOf? e) (s'.element kindOf? e') := by
  have htotal : ∀ (n : Nat) (ps : List Plan), (ps.map ({ · with total := n })).map Plan.bare =
      (ps.map Plan.bare).map ({ · with total := n }) := by
    intro n ps
    rw [List.map_map, List.map_map]
    rfl
  unfold Draft.element
  rw [foldl_item, foldl_item]
  refine ⟨?_, hown.count⟩
  simp only [Array.toList_append, Array.toList_map, List.map_append, htotal, h.plans, hown.plans,
    hown.size]

theorem foldl_element (h : Alike s s') (es : List Element) :
    Alike (es.foldl (Draft.element kindOf?) s) (es.foldl (Draft.element kindOf?) s') := by
  induction es generalizing s s' with
  | nil => exact h
  | cons e es ih => exact ih (h.element (.foldl ⟨rfl, h.count⟩ rfl))

end Alike

end Draft

/-! ### One more item -/

namespace Element

theorem departures_eq_append {e : Element} {front back : List Item}
    (h : e.outgoing = front ++ back) :
    e.departures = e.departuresOf front ++ e.departuresOf back := by
  rw [departures_eq, h, departuresOf, List.filterMap_append]
  rfl

theorem departuresOf_cons (e : Element) {i : Item} {t : Transition} (hi : i.transition? = some t)
    (is : List Item) : e.departuresOf (i :: is) = ⟨e, i, t⟩ :: e.departuresOf is := by
  rw [departuresOf_eq, departuresOf_eq, List.filterMap_cons_some (by rw [hi]; rfl)]

theorem map_bare_departuresOf (e : Element) (is is' : List Item) :
    ((e.withOutgoing is').departuresOf is).map Departure.bare =
      (e.departuresOf is).map Departure.bare := by
  have hbare : ∀ i t, Departure.bare ⟨e.withOutgoing is', i, t⟩ = Departure.bare ⟨e, i, t⟩ := by
    intro i t
    simp [Departure.bare]
  simp [departuresOf_eq, List.map_filterMap, Function.comp_def, hbare]

end Element

namespace Diagram
variable {l r : List Element} {e : Element} {front back : List Item} {i : Item} {t : Transition}

theorem census_withOutgoing (is : List Item) :
    (⟨l ++ e.withOutgoing is :: r⟩ : Diagram).census = (⟨l ++ e :: r⟩ : Diagram).census := by
  have henter : ∀ c : Census, c.enter (e.withOutgoing is) = c.enter e := by
    intro c
    simp [Census.enter]
  rw [census, census, List.foldl_append, List.foldl_append, List.foldl_cons, List.foldl_cons,
    henter]

theorem kindOf?_withOutgoing (is : List Item) :
    (⟨l ++ e.withOutgoing is :: r⟩ : Diagram).kindOf? = (⟨l ++ e :: r⟩ : Diagram).kindOf? := by
  rw [← kindOf?_census, ← kindOf?_census, census_withOutgoing]

theorem diagnostics_eq_census (d : Diagram) :
    d.diagnostics = d.census.diagnostics.toList ++ d.departures.filterMap d.flaw? := by
  rw [diagnostics_eq, ← Census.diagnostics_foldl]
  rfl

/-- What is wrong with the ways out of an element does not depend on its other items. -/
theorem filterMap_flaw?_departuresOf (d : Diagram) (e : Element) (is is' : List Item) :
    ((e.withOutgoing is').departuresOf is).filterMap d.flaw? =
      (e.departuresOf is).filterMap d.flaw? := by
  have hbare : d.flaw? ∘ Departure.bare = d.flaw? := by
    funext p
    simp [flaw?, edgeKind?, Departure.bare]
  rw [← hbare, ← List.filterMap_map, ← List.filterMap_map, Element.map_bare_departuresOf]

section
variable (hkind : e.kind ≠ .external) (hout : e.outgoing = front ++ back)
  (hi : i.transition? = some t)
include hkind hout hi

theorem edges_insert_refused
    (hrefused : (⟨l ++ e :: r⟩ : Diagram).edgeKind? ⟨e, i, t⟩ = none) (pins : Pins) :
    (⟨l ++ e.withOutgoing (front ++ i :: back) :: r⟩ : Diagram).edges pins =
      (⟨l ++ e :: r⟩ : Diagram).edges pins := by
  set e' := e.withOutgoing (front ++ i :: back) with he'
  set k := (⟨l ++ e :: r⟩ : Diagram).kindOf? with hk
  have hrefused' : EdgeKind.resolve? t.arrow e'.kind (k t.target) = none := by
    rw [he', Element.kind_withOutgoing]
    exact hrefused
  -- The items in front, the one that is refused, and the items behind.
  have hown : ∀ {s s' : Draft}, s.Alike s' → Draft.Alike (e'.departures.foldl (Draft.depart k) s)
      (e.departures.foldl (Draft.depart k) s') := by
    intro s s' h
    rw [Element.departures_eq_append hout,
      Element.departures_eq_append (e.outgoing_withOutgoing _ hkind), e'.departuresOf_cons hi,
      List.foldl_append, List.foldl_append, List.foldl_cons]
    have hfront : Draft.Alike ((e'.departuresOf front).foldl (Draft.depart k) s)
        ((e.departuresOf front).foldl (Draft.depart k) s') :=
      h.foldl (e.map_bare_departuresOf front (front ++ i :: back))
    exact (hfront.refused hrefused').foldl (e.map_bare_departuresOf back (front ++ i :: back))
  have hdraft : Draft.Alike (⟨l ++ e' :: r⟩ : Diagram).draft (⟨l ++ e :: r⟩ : Diagram).draft := by
    rw [draft, draft, he', census_withOutgoing, List.foldl_append, List.foldl_append,
      List.foldl_cons, List.foldl_cons, kindOf?_census]
    exact .foldl_element (.element (.refl _) (hown (.refl _))) r
  rw [edges, edges, ← Berths.edges_bare, ← Berths.edges_bare pins (⟨l ++ e :: r⟩ : Diagram).plans]
  exact congrArg _ hdraft.plans

theorem diagnostics_insert_refused
    (hrefused : (⟨l ++ e :: r⟩ : Diagram).edgeKind? ⟨e, i, t⟩ = none) :
    ∃ before behind, (⟨l ++ e :: r⟩ : Diagram).diagnostics = before ++ behind ∧
      (⟨l ++ e.withOutgoing (front ++ i :: back) :: r⟩ : Diagram).diagnostics =
        before ++ .invalidSimultaneous e.id t.target e.kind
          ((⟨l ++ e :: r⟩ : Diagram).kindOf? t.target) :: behind := by
  set d : Diagram := ⟨l ++ e :: r⟩ with hd
  set e' := e.withOutgoing (front ++ i :: back) with he'
  have hflaw : (⟨l ++ e' :: r⟩ : Diagram).flaw? = d.flaw? := flaw?_congr (kindOf?_withOutgoing _)
  have hitem : d.flaw? ⟨e', i, t⟩ =
      some (.invalidSimultaneous e.id t.target e.kind (d.kindOf? t.target)) := by
    have hrefused' : d.edgeKind? ⟨e', i, t⟩ = none := by
      rw [edgeKind?, he', Element.kind_withOutgoing]
      exact hrefused
    rw [flaw?, if_pos hrefused', he', Element.id_withOutgoing, Element.kind_withOutgoing]
  have hfront : (e'.departuresOf front).filterMap d.flaw? = _ := filterMap_flaw?_departuresOf d e ..
  have hback : (e'.departuresOf back).filterMap d.flaw? = _ := filterMap_flaw?_departuresOf d e ..
  have hcensus : (⟨l ++ e' :: r⟩ : Diagram).census = d.census := census_withOutgoing _
  have hdepartures : d.departures = l.flatMap Element.departures ++ (e.departuresOf front ++
      (e.departuresOf back ++ r.flatMap Element.departures)) := by
    rw [departures, hd, List.flatMap_append, List.flatMap_cons, Element.departures_eq_append hout,
      List.append_assoc]
  have hdepartures' : (⟨l ++ e' :: r⟩ : Diagram).departures = l.flatMap Element.departures ++
      (e'.departuresOf front ++ (⟨e', i, t⟩ :: e'.departuresOf back ++
        r.flatMap Element.departures)) := by
    rw [departures, List.flatMap_append, List.flatMap_cons,
      Element.departures_eq_append (e.outgoing_withOutgoing _ hkind), ← he',
      e'.departuresOf_cons hi, List.append_assoc]
  refine ⟨d.census.diagnostics.toList ++ (l.flatMap Element.departures ++
      e.departuresOf front).filterMap d.flaw?,
    (e.departuresOf back ++ r.flatMap Element.departures).filterMap d.flaw?, ?_, ?_⟩
  · rw [diagnostics_eq_census, hdepartures]
    simp only [List.filterMap_append, List.append_assoc]
  · rw [diagnostics_eq_census, hflaw, hcensus, hdepartures']
    simp only [List.filterMap_append, List.filterMap_cons_some hitem, hfront, hback,
      List.append_assoc, List.cons_append]

/-- If an item whose transition is refused, as only a simultaneous one is, comes to the items of an
element, the graph keeps its nodes and its edges, with ids, anchors and all, and gets one diagnostic
more. -/
theorem toGraph_insert_refused
    (hrefused : (⟨l ++ e :: r⟩ : Diagram).edgeKind? ⟨e, i, t⟩ = none) (pins : Pins) :
    ((⟨l ++ e.withOutgoing (front ++ i :: back) :: r⟩ : Diagram).toGraph pins).nodes =
      ((⟨l ++ e :: r⟩ : Diagram).toGraph pins).nodes ∧
    ((⟨l ++ e.withOutgoing (front ++ i :: back) :: r⟩ : Diagram).toGraph pins).edges =
      ((⟨l ++ e :: r⟩ : Diagram).toGraph pins).edges ∧
    ∃ before behind,
      ((⟨l ++ e :: r⟩ : Diagram).toGraph pins).diagnostics = before ++ behind ∧
      ((⟨l ++ e.withOutgoing (front ++ i :: back) :: r⟩ : Diagram).toGraph pins).diagnostics =
        before ++ .invalidSimultaneous e.id t.target e.kind
          ((⟨l ++ e :: r⟩ : Diagram).kindOf? t.target) :: behind :=
  ⟨e.nodes_withOutgoing _ _ l r, edges_insert_refused hkind hout hi hrefused pins,
    diagnostics_insert_refused hkind hout hi hrefused⟩

end

/-- A fork with two ways out. -/
def junction : Element :=
  .fork { id := "F", content := [
    .utterance (.redirect { target := "F", arrow := .normal }),
    .utterance (.redirect { target := "G", arrow := .repair })] }

/-- An event that would have to happen together with the fork. -/
def together : Item :=
  .event { trigger := "t", transition := some { target := "F", arrow := .simultaneous } }

/-- Between the two ways out of the fork the refused one takes neither an anchor nor a number. -/
theorem toGraph_insert_refused_junction :
    ∃ front back, junction.outgoing = front ++ back ∧ front.length = 1 ∧
      ((⟨[junction.withOutgoing (front ++ together :: back)]⟩ : Diagram).toGraph []).edges =
        ((⟨[junction]⟩ : Diagram).toGraph []).edges ∧
      ((⟨[junction]⟩ : Diagram).toGraph []).edges.map Edge.sourceHandle = ["b-2", "b-3"] ∧
      ((⟨[junction]⟩ : Diagram).toGraph []).diagnostics = [.danglingTarget "F" "G"] ∧
      ∃ before behind, [.danglingTarget "F" "G"] = before ++ behind ∧
        ((⟨[junction.withOutgoing (front ++ together :: back)]⟩ : Diagram).toGraph []).diagnostics =
          before ++ .invalidSimultaneous "F" "F" .fork (some .fork) :: behind := by
  have hrefused : (⟨[junction]⟩ : Diagram).edgeKind?
      ⟨junction, together, { target := "F", arrow := .simultaneous }⟩ = none := by decide +kernel
  have hdangling : ((⟨[junction]⟩ : Diagram).toGraph []).diagnostics =
      [.danglingTarget "F" "G"] := by decide +kernel
  have hout : junction.outgoing = junction.outgoing.take 1 ++ junction.outgoing.drop 1 := rfl
  obtain ⟨-, hedges, before, behind, hbefore, hbehind⟩ :=
    toGraph_insert_refused (l := []) (r := []) (by decide) hout rfl hrefused []
  refine ⟨_, _, rfl, rfl, hedges, by decide +kernel, hdangling, before, behind, ?_, hbehind⟩
  exact hdangling ▸ hbefore

end Diagram
end Interaction
