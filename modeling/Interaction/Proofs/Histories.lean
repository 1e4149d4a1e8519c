import Mathlib.Data.List.Rotate
import Interaction.Proofs.Allocation

/-!
# Allocators under any history

An allocator is asked to keep anchors and to give some, for any nodes and in any order. A node does
not see what is asked for another one (`Alike`). The anchors that are taken on it are those that
were reserved or given there before (`mem_taken_after`), and once none is left they are given in
turn (`Exhausted`), so that as many allocations as there are anchors give each of them once
(`turns_perm`).
-/

namespace Interaction
namespace Allocator

/-- What an allocator is asked for. -/
inductive Request where
  | reserve (node handle : String)
  | allocate (node : String)
deriving DecidableEq, Repr

def Request.node : Request → String
  | .reserve node _ => node
  | .allocate node => node

/-- The anchor that is given, if one was asked for, and the allocator behind the request. -/
def answer (a : Allocator) : Request → Option String × Allocator
  | .reserve node handle => (none, a.reserve node handle)
  | .allocate node => ((a.allocate node).1, (a.allocate node).2)

/-- The requests, each with its answer. -/
def history (a : Allocator) : List Request → List (Request × Option String)
  | [] => []
  | r :: rs => (r, (a.answer r).1) :: (a.answer r).2.history rs

def after (a : Allocator) (rs : List Request) : Allocator :=
  rs.foldl (fun a r => (a.answer r).2) a

/-- The anchors that were given on `node`, in order. -/
def given (a : Allocator) (node : String) (rs : List Request) : List String :=
  ((a.history rs).filter (·.1.node = node)).filterMap (·.2)

/-- Among the requests `rs`, `handle` was reserved on `node` or given there. -/
def Took (a : Allocator) (node : String) (rs : List Request) (handle : String) : Prop :=
  .reserve node handle ∈ rs ∨ handle ∈ a.given node rs

instance (a : Allocator) (node : String) (rs : List Request) (handle : String) :
    Decidable (a.Took node rs handle) :=
  inferInstanceAs (Decidable (_ ∨ _))

variable {a b : Allocator} {node : String} {r : Request} {rs : List Request}

@[simp] theorem given_nil : a.given node [] = [] := rfl

theorem given_cons : a.given node (r :: rs) =
    (if r.node = node then (a.answer r).1.toList else []) ++ (a.answer r).2.given node rs := by
  unfold given
  rw [history, List.filter_cons]
  by_cases h : r.node = node
  · cases (a.answer r).1 <;> simp [h]
  · simp [h]

@[simp] theorem order_answer : (a.answer r).2.order = a.order := by
  cases r with
  | reserve => exact order_reserve a _ _
  | allocate => exact order_allocate a _

@[simp] theorem order_after : (a.after rs).order = a.order := by
  induction rs generalizing a with
  | nil => rfl
  | cons r rs ih => exact ih.trans order_answer

theorem anchors_answer_of_ne (h : r.node ≠ node) :
    (a.answer r).2.anchors node = a.anchors node := by
  cases r with
  | reserve => exact anchors_put_of_ne _ _ (Ne.symm h)
  | allocate => exact anchors_allocate_of_ne a _ (Ne.symm h)

/-! ### Each node by itself -/

/-- The allocators have the same at `node`. -/
structure Alike (a b : Allocator) (node : String) : Prop where
  order : a.order = b.order
  anchors : a.anchors node = b.anchors node

namespace Alike

theorem reserve (h : a.Alike b node) (handle : String) :
    (a.reserve node handle).Alike (b.reserve node handle) node := by
  refine ⟨h.order, ?_⟩
  unfold Allocator.reserve
  rw [anchors_put, anchors_put, h.anchors]

theorem allocate (h : a.Alike b node) :
    (a.allocate node).1 = (b.allocate node).1 ∧
      (a.allocate node).2.Alike (b.allocate node).2 node := by
  have hfind : a.order.find? (! (a.anchors node).taken.contains ·) =
      b.order.find? (! (b.anchors node).taken.contains ·) := by rw [h.order, h.anchors]
  unfold Allocator.allocate
  simp only [hfind]
  cases b.order.find? (! (b.anchors node).taken.contains ·) with
  | some handle => exact ⟨rfl, h.reserve handle⟩
  | none =>
    refine ⟨by rw [h.order, h.anchors], h.order, ?_⟩
    rw [anchors_put, anchors_put, h.anchors]

theorem answer (h : a.Alike b node) (hr : r.node = node) :
    (a.answer r).1 = (b.answer r).1 ∧ (a.answer r).2.Alike (b.answer r).2 node := by
  subst hr
  cases r with
  | reserve n handle => exact ⟨rfl, h.reserve handle⟩
  | allocate n => exact ⟨congrArg some h.allocate.1, h.allocate.2⟩

theorem answer_of_ne (h : a.Alike b node) (hr : r.node ≠ node) : (a.answer r).2.Alike b node :=
  ⟨order_answer.trans h.order, (anchors_answer_of_ne hr).trans h.anchors⟩

theorem given (h : a.Alike b node) (rs : List Request) :
    a.given node rs = b.given node (rs.filter (·.node = node)) := by
  induction rs generalizing a b with
  | nil => rfl
  | cons r rs ih =>
    rw [given_cons]
    by_cases hr : r.node = node
    · obtain ⟨hreply, hrest⟩ := h.answer hr
      rw [List.filter_cons_of_pos (by simpa using hr), given_cons, if_pos hr, if_pos hr, hreply,
        ih hrest]
    · rw [List.filter_cons_of_neg (by simpa using hr), if_neg hr, List.nil_append,
        ih (h.answer_of_ne hr)]

end Alike

/-! ### One allocation -/

/-- All anchors are taken on the node. -/
def Exhausted (a : Allocator) (node : String) : Prop := ∀ x ∈ a.order, x ∈ (a.anchors node).taken

/-- The anchor whose turn it is when `t` anchors were given although all were taken. -/
def inTurn (order : List String) (t : Nat) : String := order.getD (t % order.length) ""

/-- A free anchor is given and taken, or all are taken and the next one in turn is given. -/
theorem allocate_cases (a : Allocator) (node : String) :
    (∃ handle ∈ a.order, handle ∉ (a.anchors node).taken ∧
      a.allocate node = (handle, a.reserve node handle)) ∨
    a.Exhausted node ∧ a.allocate node = (inTurn a.order (a.anchors node).turns,
      a.put node ⟨(a.anchors node).taken, (a.anchors node).turns + 1⟩) := by
  cases h : a.order.find? (! (a.anchors node).taken.contains ·) with
  | some handle =>
    refine .inl ⟨handle, List.mem_of_find?_eq_some h, by simpa using List.find?_some h, ?_⟩
    simp only [allocate, h]
  | none =>
    refine .inr ⟨fun x hx => by simpa using List.find?_eq_none.1 h x hx, ?_⟩
    simp only [allocate, h]
    rfl

theorem exhausted_of_mem_taken (h : (a.allocate node).1 ∈ (a.anchors node).taken) :
    a.Exhausted node := by
  rcases allocate_cases a node with ⟨handle, -, hfree, heq⟩ | ⟨hall, -⟩
  · rw [heq] at h
    exact absurd h hfree
  · exact hall

theorem inTurn_mem {order : List String} (h : order ≠ []) (t : Nat) : inTurn order t ∈ order := by
  have hlt : t % order.length < order.length := Nat.mod_lt t (List.length_pos_iff.2 h)
  rw [inTurn, List.getD_eq_getElem?_getD, List.getElem?_eq_getElem hlt]
  exact List.getElem_mem hlt

theorem allocate_mem (h : a.order ≠ []) (node : String) : (a.allocate node).1 ∈ a.order := by
  rcases allocate_cases a node with ⟨handle, hmem, -, heq⟩ | ⟨-, heq⟩
  · rw [heq]
    exact hmem
  · rw [heq]
    exact inTurn_mem h _

/-! ### What is taken -/

variable {x : String}

theorem took_cons : a.Took node (r :: rs) x ↔
    (r = .reserve node x ∨ r.node = node ∧ (a.answer r).1 = some x) ∨
      (a.answer r).2.Took node rs x := by
  unfold Took
  rw [given_cons, List.mem_append, List.mem_cons]
  by_cases h : r.node = node
  · simp only [h, if_true, true_and, Option.mem_toList]
    tauto
  · simp only [h, if_false, false_and, List.not_mem_nil]
    tauto

/-- What is given in turn is taken already, so nothing is lost when it is not noted again. -/
theorem mem_taken_answer (h : a.order ≠ []) :
    x ∈ ((a.answer r).2.anchors node).taken ↔ x ∈ (a.anchors node).taken ∨
      (r = .reserve node x ∨ r.node = node ∧ (a.answer r).1 = some x) := by
  by_cases hr : r.node = node
  · subst hr
    cases r with
    | reserve n handle =>
      simp only [answer, mem_taken_reserve, Request.node, Request.reserve.injEq, reduceCtorEq,
        and_false, or_false]
      exact or_comm
    | allocate n =>
      simp only [answer, Request.node, reduceCtorEq, false_or, true_and, Option.some.injEq]
      rcases allocate_cases a n with ⟨handle, -, -, heq⟩ | ⟨hall, heq⟩
      · rw [heq, taken_reserve, List.mem_cons, or_comm, eq_comm]
      · rw [heq, anchors_put]
        refine ⟨.inl, ?_⟩
        rintro (hx | rfl)
        · exact hx
        · exact hall _ (inTurn_mem h _)
  · rw [anchors_answer_of_ne hr]
    refine ⟨.inl, ?_⟩
    rintro (hx | rfl | ⟨hnode, -⟩)
    · exact hx
    · exact absurd rfl hr
    · exact absurd hnode hr

theorem mem_taken_after (h : a.order ≠ []) :
    x ∈ ((a.after rs).anchors node).taken ↔ x ∈ (a.anchors node).taken ∨ a.Took node rs x := by
  induction rs generalizing a with
  | nil => simp [after, Took]
  | cons r rs ih =>
    rw [took_cons, ← or_assoc, ← mem_taken_answer h]
    exact ih (by rwa [order_answer])

/-! ### Behind the last free anchor -/

namespace Exhausted

theorem congr (h : a.Exhausted node) (horder : b.order = a.order)
    (htaken : ∀ x ∈ (a.anchors node).taken, x ∈ (b.anchors node).taken) : b.Exhausted node :=
  fun x hx => htaken x (h x (horder ▸ hx))

theorem allocate (h : a.Exhausted node) : a.allocate node = (inTurn a.order (a.anchors node).turns,
    a.put node ⟨(a.anchors node).taken, (a.anchors node).turns + 1⟩) := by
  rcases allocate_cases a node with ⟨handle, hmem, hfree, -⟩ | ⟨-, heq⟩
  · exact absurd (h handle hmem) hfree
  · exact heq

/-- One request: the node is given nothing, or the next anchor in turn. -/
theorem answer (h : a.Exhausted node) (r : Request) : (a.answer r).2.Exhausted node ∧ ∃ k,
    (if r.node = node then (a.answer r).1.toList else []) =
      (List.range' (a.anchors node).turns k).map (inTurn a.order) ∧
    ((a.answer r).2.anchors node).turns = (a.anchors node).turns + k := by
  by_cases hr : r.node = node
  · rw [if_pos hr]
    cases r with
    | reserve n handle =>
      obtain rfl : n = node := hr
      exact ⟨h.congr rfl fun x hx => by simp [Allocator.answer, hx], 0, rfl, turns_reserve n handle⟩
    | allocate n =>
      obtain rfl : n = node := hr
      simp only [Allocator.answer, h.allocate]
      exact ⟨h.congr rfl fun x hx => by rwa [anchors_put], 1, rfl, by rw [anchors_put]⟩
  · have hanchors := anchors_answer_of_ne (a := a) hr
    rw [if_neg hr, hanchors]
    exact ⟨h.congr order_answer fun x hx => by rwa [hanchors], 0, rfl, rfl⟩

/-- The anchors are given in turn, whatever else is asked for. -/
theorem given (h : a.Exhausted node) (rs : List Request) : ∃ k,
    a.given node rs = (List.range' (a.anchors node).turns k).map (inTurn a.order) := by
  induction rs generalizing a with
  | nil => exact ⟨0, rfl⟩
  | cons r rs ih =>
    obtain ⟨hrest, k, hgiven, hturns⟩ := h.answer r
    obtain ⟨k', hk'⟩ := ih hrest
    refine ⟨k + k', ?_⟩
    rw [given_cons, hgiven, hk', order_answer, hturns, ← List.map_append, List.range'_append_1]

end Exhausted

/-- As many turns as there are anchors give every one of them, wherever they begin. -/
theorem turns_perm (order : List String) (t : Nat) :
    ((List.range' t order.length).map (inTurn order)).Perm order := by
  have hrotate : (List.range' t order.length).map (inTurn order) = order.rotate t := by
    refine List.ext_getElem (by simp) fun i hi hi' => ?_
    rw [List.length_rotate] at hi'
    have hlt : (i + t) % order.length < order.length := Nat.mod_lt _ (by omega)
    rw [List.getElem_rotate, List.getElem_map, List.getElem_range', Nat.one_mul, Nat.add_comm t i,
      inTurn, List.getD_eq_getElem?_getD, List.getElem?_eq_getElem hlt, Option.getD_some]
  rw [hrotate]
  exact List.rotate_perm order t

/-- Among turns that follow each other, the `n` behind the first `i`. -/
theorem take_drop_turns {i n k : Nat} (h : i + n ≤ k) (order : List String) (t : Nat) :
    (((List.range' t k).map (inTurn order)).drop i).take n =
      (List.range' (t + i) n).map (inTurn order) := by
  obtain ⟨m, rfl⟩ := Nat.exists_eq_add_of_le h
  rw [Nat.add_assoc, ← List.range'_append_1, ← List.range'_append_1, List.map_append,
    List.map_append, List.drop_left' (by simp), List.take_left' (by simp)]

/-! ### Any history -/

/-- What a node can expect behind the requests `rs`, which other nodes also make. -/
structure Fair (a : Allocator) (node : String) (rs : List Request) : Prop where
  /-- It is given what it would be given by itself. -/
  own : a.given node rs = a.given node (rs.filter (·.node = node))
  /-- What it is given next is listed. -/
  listed : ((a.after rs).allocate node).1 ∈ a.order
  /-- It is given again what was taken only when all anchors are. -/
  fresh : a.Took node rs ((a.after rs).allocate node).1 → ∀ x ∈ a.order, a.Took node rs x
  /-- From then on, any 20 anchors that it is given one after the other are all of them, each once. -/
  rounds : (∀ x ∈ a.order, a.Took node rs x) → ∀ (more : List Request) (i : Nat),
    i + 20 ≤ ((a.after rs).given node more).length →
      ((((a.after rs).given node more).drop i).take 20).Perm a.order ∧
      ((((a.after rs).given node more).drop i).take 20).Nodup

theorem fair_new {order : List String} (h20 : order.length = 20) (hnodup : order.Nodup)
    (node : String) (rs : List Request) : (new order).Fair node rs := by
  have hne : order ≠ [] := by
    rintro rfl
    cases h20
  have htook : ∀ x, x ∈ (((new order).after rs).anchors node).taken ↔ (new order).Took node rs x :=
    fun x => (mem_taken_after hne).trans (by simp [new])
  have hall : ((new order).after rs).Exhausted node ↔ ∀ x ∈ order, (new order).Took node rs x := by
    unfold Exhausted
    simp only [order_after, htook]
    rfl
  refine ⟨Alike.given ⟨rfl, rfl⟩ rs, ?_, fun h => ?_, fun h more i hi => ?_⟩
  · have hmem := allocate_mem (a := (new order).after rs) (by rwa [order_after]) node
    rwa [order_after] at hmem
  · exact hall.1 (exhausted_of_mem_taken ((htook _).2 h))
  · obtain ⟨k, hk⟩ := (hall.2 h).given more
    rw [hk, List.length_map, List.length_range'] at hi
    rw [hk, take_drop_turns hi, order_after, ← h20]
    have hperm := turns_perm order ((((new order).after rs).anchors node).turns + i)
    exact ⟨hperm, hperm.nodup_iff.2 hnodup⟩

/-- Allocators are fair to every node after every history. -/
theorem fair_history (node : String) (rs : List Request) :
    sources.Fair node rs ∧ targets.Fair node rs :=
  ⟨fair_new length_sourceOrder nodup_sourceOrder node rs,
    fair_new length_targetOrder nodup_targetOrder node rs⟩

/-- What is kept is passed over, also when it is kept after something was given. -/
example : sources.given "A" [.reserve "A" "b-2", .allocate "A", .allocate "B", .reserve "A" "b-4",
    .reserve "B" "b-1", .allocate "A"] = ["b-3", "b-1"] := by decide +kernel

/-- One anchor of `A` and one that is not listed are kept, then 20 are given, the last of them a
second time. -/
def crowded : List Request :=
  [.reserve "A" "b-5", .allocate "B", .reserve "A" "x"] ++ List.replicate 20 (.allocate "A")

/-- Three more are given, one is kept to no effect, and 18 more are given. -/
def crowd : List Request :=
  List.replicate 3 (.allocate "A") ++ [.reserve "A" "t-5", .allocate "B"] ++
    List.replicate 18 (.allocate "A")

theorem fair_history_crowded :
    sources.given "A" crowded = sources.given "A" (crowded.filter (·.node = "A")) ∧
    sources.Took "A" crowded ((sources.after crowded).allocate "A").1 ∧
    (∀ x ∈ sources.order, sources.Took "A" crowded x) ∧
    (sources.after crowded).given "A" crowd =
      ["b-2", "b-4", "b-1", "b-5", "r-3", "r-2", "r-4", "r-1", "r-5", "l-3", "l-2", "l-4", "l-1",
        "l-5", "t-3", "t-2", "t-4", "t-1", "t-5", "b-3", "b-2"] ∧
    ((((sources.after crowded).given "A" crowd).drop 1).take 20).Perm sources.order := by
  have hfair := (fair_history "A" crowded).1
  have hagain : sources.Took "A" crowded ((sources.after crowded).allocate "A").1 := by
    decide +kernel
  have hlength : 1 + 20 ≤ ((sources.after crowded).given "A" crowd).length := by decide +kernel
  have hall := hfair.fresh hagain
  exact ⟨hfair.own, hagain, hall, by decide +kernel, (hfair.rounds hall crowd 1 hlength).1⟩

end Allocator
end Interaction
