import Interaction.Graph.Basic

/-! # Planned edges

The elements of a diagram are read twice. The first time notes what each id is; the second goes
through the ways out of every element and plans an edge for each acceptable one. -/

namespace Interaction

/-- What is known of the elements read so far: the kind of each id, as its first element has it, and
what is wrong with the others. -/
structure Census where
  kindOf? : String → Option NodeKind
  diagnostics : Array Diagnostic

namespace Census

/-- No element has been read. -/
def empty : Census := ⟨fun _ => none, #[]⟩

/-- Reads one more element. An id that is known keeps its kind. -/
def enter (c : Census) (e : Element) : Census :=
  if (c.kindOf? e.id).isSome then
    { c with diagnostics := c.diagnostics.push (.duplicateElement e.id) }
  else { c with kindOf? := fun id => if id = e.id then some e.kind else c.kindOf? id }

end Census

/-- A way out of an element, with the item it belongs to. -/
structure Departure where
  element : Element
  item : Item
  transition : Transition
deriving Repr

namespace Item

/-- The words that an edge is known by. -/
def words : Item → String
  | .utterance u => u.text
  | .event e => e.trigger
  | _ => ""

end Item

namespace Departure

/-- An edge's id without its number: both ends, and what is ASCII letter or digit in the words. -/
def base (p : Departure) : String :=
  "e_" ++ p.element.id ++ "_" ++ p.transition.target ++ "_" ++
    String.ofList (p.item.words.toList.filter Char.isAlphanum)

end Departure

/-- The id of the edge number `n` with a base. -/
def numberedId (base : String) (n : Nat) : String := base ++ "_" ++ toString n

/-- An edge without anchors: it is the outgoing edge number `index` of `total`. -/
structure Plan where
  id : String
  departure : Departure
  kind : EdgeKind
  targetKind : Option NodeKind
  index : Nat
  total : Nat
deriving Repr

namespace Plan

def source (p : Plan) : String := p.departure.element.id

def target (p : Plan) : String := p.departure.transition.target

end Plan

/-- The edges planned so far, what was found wrong so far, and how many edges have each base. -/
structure Draft where
  plans : Array Plan
  diagnostics : Array Diagnostic
  count : String → Nat

namespace Draft

def report (s : Draft) (x : Diagnostic) : Draft := { s with diagnostics := s.diagnostics.push x }

/-- Plans another edge. Its total is not known yet. -/
def add (s : Draft) (p : Departure) (kind : EdgeKind) (targetKind : Option NodeKind) : Draft :=
  let base := p.base
  let n := s.count base
  { s with
    plans := s.plans.push
      { id := numberedId base n, departure := p, kind, targetKind,
        index := s.plans.size, total := 0 }
    count := fun b => if b = base then n + 1 else s.count b }

/-- Takes a way out. One that is not acceptable is reported and left out; one that leads nowhere is
reported and kept. -/
def depart (kindOf? : String → Option NodeKind) (s : Draft) (p : Departure) : Draft :=
  let source := p.element.id
  let target := p.transition.target
  let targetKind := kindOf? target
  match EdgeKind.resolve? p.transition.arrow p.element.kind targetKind with
  | none => s.report (.invalidSimultaneous source target p.element.kind targetKind)
  | some kind =>
    let s := if targetKind.isNone then s.report (.danglingTarget source target) else s
    s.add p kind targetKind

/-- Goes through an item of `e`. -/
def item (kindOf? : String → Option NodeKind) (e : Element) (s : Draft) (i : Item) : Draft :=
  match i.transition? with
  | some t => s.depart kindOf? ⟨e, i, t⟩
  | none => s

/-- Goes through an element. Its edges are counted from zero, and told their number at the end. -/
def element (kindOf? : String → Option NodeKind) (s : Draft) (e : Element) : Draft :=
  let own := e.outgoing.foldl (item kindOf? e) { s with plans := #[] }
  { own with plans := s.plans ++ own.plans.map ({ · with total := own.plans.size }) }

end Draft

namespace Diagram

def census (d : Diagram) : Census := d.elements.foldl .enter .empty

/-- All edges, and all that is wrong: repeated ids first, then the ways out. -/
def draft (d : Diagram) : Draft :=
  let c := d.census
  d.elements.foldl (Draft.element c.kindOf?) ⟨#[], c.diagnostics, fun _ => 0⟩

def plans (d : Diagram) : List Plan := d.draft.plans.toList

def diagnostics (d : Diagram) : List Diagnostic := d.draft.diagnostics.toList

end Diagram
end Interaction
