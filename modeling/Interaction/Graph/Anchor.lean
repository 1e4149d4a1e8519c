import Interaction.Diagram.Basic

/-! # Anchors

An edge touches a node at an anchor, named by the side of the node and a place from 1 to 5 along
it. Some nodes have one anchor for all edges; others give each edge the next free one, and start
over when all are given. -/

namespace Interaction

/-- The anchors of one side, from the middle outwards. -/
def sideAnchors (side : String) : List String :=
  ["3", "2", "4", "1", "5"].map fun place => side ++ "-" ++ place

/-- Edges leave at the bottom first, then right, left and top. -/
def sourceOrder : List String := ["b", "r", "l", "t"].flatMap sideAnchors

/-- Edges arrive at the top first, then left, right and bottom. -/
def targetOrder : List String := ["t", "l", "r", "b"].flatMap sideAnchors

/-- How an end of an edge comes by its anchor. -/
inductive Anchoring where
  | fixed (handle : String)
  | allocated
deriving DecidableEq, Repr

/-- Scenes and unknown targets spread their incoming edges; all others receive at one anchor. -/
def Anchoring.inbound : Option NodeKind → Anchoring
  | some .scene | none => .allocated
  | some .fork => .fixed "t-1"
  | some _ => .fixed "l-1"

/-- The outgoing edge number `index` of `total`. A fork alternates between two anchors, and some
nodes have one anchor for an only edge. -/
def Anchoring.outbound (source : NodeKind) (index total : Nat) : Anchoring :=
  match source with
  | .fork => .fixed (if index % 2 = 0 then "b-2" else "b-3")
  | .start | .process | .contact => if total ≤ 1 then .fixed "r-1" else .allocated
  | _ => .allocated

/-- The anchors of one node that are taken, and how many were given after all were. -/
structure Anchors where
  taken : List String
  turns : Nat
deriving DecidableEq, Repr

/-- The anchors given so far, node by node, of those listed in `order`. -/
structure Allocator where
  order : List String
  anchors : String → Anchors

namespace Allocator

/-- Every anchor is free on every node. -/
def new (order : List String) : Allocator := ⟨order, fun _ => ⟨[], 0⟩⟩

def sources : Allocator := new sourceOrder

def targets : Allocator := new targetOrder

/-- Puts the anchors of one node. -/
def put (a : Allocator) (node : String) (n : Anchors) : Allocator :=
  { a with anchors := fun m => if m = node then n else a.anchors m }

section
variable (a : Allocator) (n : Anchors) {node other : String}

@[simp] theorem order_put : (a.put node n).order = a.order := rfl

@[simp] theorem anchors_put : (a.put node n).anchors node = n := by simp [put]

theorem anchors_put_of_ne (h : other ≠ node) :
    (a.put node n).anchors other = a.anchors other := by simp [put, h]

end

/-- Takes `handle` on `node`, whether `order` lists it or not. -/
def reserve (a : Allocator) (node handle : String) : Allocator :=
  let n := a.anchors node
  a.put node { n with taken := handle :: n.taken }

/-- Gives the first free anchor of `node`, or the next in turn when there is none. -/
def allocate (a : Allocator) (node : String) : String × Allocator :=
  let n := a.anchors node
  match a.order.find? (! n.taken.contains ·) with
  | some handle => (handle, a.reserve node handle)
  | none =>
    (a.order.getD (n.turns % a.order.length) "", a.put node { n with turns := n.turns + 1 })

section
variable (a : Allocator) (node handle : String)

@[simp] theorem order_reserve : (a.reserve node handle).order = a.order := rfl

@[simp] theorem taken_reserve :
    ((a.reserve node handle).anchors node).taken = handle :: (a.anchors node).taken := by
  simp [reserve]

@[simp] theorem order_allocate : (a.allocate node).2.order = a.order := by
  unfold allocate; dsimp only; split <;> rfl

/-- What another node has stays its own. -/
theorem anchors_allocate_of_ne {other : String} (h : other ≠ node) :
    (a.allocate node).2.anchors other = a.anchors other := by
  unfold allocate; dsimp only; split
  · exact anchors_put_of_ne _ _ h
  · exact anchors_put_of_ne _ _ h

end

end Allocator

/-- One end of an edge: the node it is at, the anchor it has to keep, and how it gets one
otherwise. -/
structure EdgeEnd where
  node : String
  pin : Option String
  anchoring : Anchoring
deriving DecidableEq, Repr

namespace Allocator

/-- Takes the anchor that an end has to keep. -/
def reserveEnd (a : Allocator) (e : EdgeEnd) : Allocator :=
  match e.pin with
  | some handle => a.reserve e.node handle
  | none => a

/-- The anchor of an end: the one it has to keep, else the fixed one, else a free one. -/
def settleEnd (a : Allocator) (e : EdgeEnd) : String × Allocator :=
  match e.pin, e.anchoring with
  | some handle, _ => (handle, a)
  | none, .fixed handle => (handle, a)
  | none, .allocated => a.allocate e.node

end Allocator

theorem length_sourceOrder : sourceOrder.length = 20 := rfl

theorem length_targetOrder : targetOrder.length = 20 := rfl

theorem nodup_sourceOrder : sourceOrder.Nodup := by decide +kernel

/-- Both orders list the same anchors. -/
theorem perm_sourceOrder_targetOrder : sourceOrder.Perm targetOrder := by decide +kernel

end Interaction
