import Mathlib.Data.List.Basic
import Mathlib.Data.List.Nodup
import Interaction.Proofs.Pins
import Interaction.Proofs.Seats

/-!
# Which anchor an edge gets

The two directions do not touch each other, so each is seen by itself, as a list of ends that are
settled one after the other (`Allocator.settle`). `Allocator.Drawn` relates the allocator to the
ends that are done: on a node where `k` ends have drawn an anchor, the first `k` of the free ones
are gone, and what went beyond them is the number of turns. One end keeps this for every node
(`drawn_settleEnd`), and `settled_settleEnds` says what becomes of all of them. Which ends there
are can be read off the diagram and its edges (`map_pin_sourceEnds`, `map_anchoring_sourceEnds`,
`targetEnds_eq`).
-/

namespace Interaction

/-- The anchors of `order` that `kept` leaves free, in order. -/
def freeAnchors (order kept : List String) : List String := order.filter (! kept.contains ·)

/-- The anchor number `k` that a node gives if it keeps `kept`: a free one, and when there is none
left, those of `order` in turn. -/
def drawnAnchor (order kept : List String) (k : Nat) : String :=
  let free := freeAnchors order kept
  free[k]?.getD (order.getD ((k - free.length) % order.length) "")

theorem nodup_freeAnchors {order : List String} (h : order.Nodup) (kept : List String) :
    (freeAnchors order kept).Nodup := h.filter _

theorem freeAnchors_cons (order kept : List String) (handle : String) :
    freeAnchors order (handle :: kept) = (freeAnchors order kept).filter (· != handle) := by
  simp only [freeAnchors, List.filter_filter]
  congr 1
  funext x
  by_cases hx : x = handle <;> simp [hx]

theorem freeAnchors_congr {kept kept' : List String} (h : ∀ x, x ∈ kept ↔ x ∈ kept')
    (order : List String) : freeAnchors order kept = freeAnchors order kept' := by
  refine List.filter_congr fun x _ => ?_
  rw [Bool.eq_iff_iff]
  simp [h x]

theorem take_map_drawnAnchor (order kept : List String) (n : Nat) :
    ((List.range n).map (drawnAnchor order kept)).take (freeAnchors order kept).length =
      (freeAnchors order kept).take n := by
  refine List.ext_getElem (by simp [Nat.min_comm]) fun k hk hk' => ?_
  have hfree : k < (freeAnchors order kept).length := by
    simp only [List.length_take] at hk'; omega
  simp [drawnAnchor, hfree]

namespace EdgeEnd

/-- The end is at `node`, and neither has to keep an anchor nor has a fixed one. -/
def draws (node : String) (e : EdgeEnd) : Bool :=
  e.node = node && e.pin.isNone && e.anchoring = .allocated

/-- The anchor of an end that is the drawing end number `k` of its node. -/
def anchor (order kept : List String) (k : Nat) (e : EdgeEnd) : String :=
  match e.pin, e.anchoring with
  | some handle, _ => handle
  | none, .fixed handle => handle
  | none, .allocated => drawnAnchor order kept k

end EdgeEnd

/-- The anchors that the ends at `node` have to keep. -/
def keptAt (node : String) (es : List EdgeEnd) : List String :=
  es.filterMap fun e => if e.node = node then e.pin else none

/-- The anchors in `handles` of those ends that draw one from `node`. -/
def drawnAt (node : String) (es : List EdgeEnd) (handles : List String) : List String :=
  ((es.zip handles).filter (·.1.draws node)).map (·.2)

theorem mem_keptAt_cons {node handle : String} {e : EdgeEnd} {es : List EdgeEnd} :
    handle ∈ keptAt node (e :: es) ↔
      e.node = node ∧ e.pin = some handle ∨ handle ∈ keptAt node es := by
  unfold keptAt
  by_cases h : e.node = node
  · cases hpin : e.pin <;> simp [h, hpin, eq_comm]
  · simp [h]

/-! ### One direction -/

namespace Allocator
variable {a : Allocator} {node : String} {kept : List String} {k : Nat}

def reserveAll (a : Allocator) (es : List EdgeEnd) : Allocator := es.foldl reserveEnd a

def settle (a : Allocator) : List EdgeEnd → List String
  | [] => []
  | e :: es => (a.settleEnd e).1 :: (a.settleEnd e).2.settle es

@[simp] theorem order_reserveEnd (e : EdgeEnd) : (a.reserveEnd e).order = a.order := by
  unfold reserveEnd; split <;> rfl

@[simp] theorem order_settleEnd (e : EdgeEnd) : (a.settleEnd e).2.order = a.order := by
  unfold settleEnd; split <;> simp

@[simp] theorem turns_reserve (other handle : String) :
    ((a.reserve other handle).anchors node).turns = (a.anchors node).turns := by
  by_cases h : node = other
  · subst h; simp [reserve]
  · rw [reserve, anchors_put_of_ne _ _ h]

theorem mem_taken_reserve {other handle x : String} :
    x ∈ ((a.reserve other handle).anchors node).taken ↔
      other = node ∧ handle = x ∨ x ∈ (a.anchors node).taken := by
  by_cases h : node = other
  · subst h; simp [eq_comm]
  · rw [reserve, anchors_put_of_ne _ _ h]
    simp [Ne.symm h]

@[simp] theorem order_reserveAll (es : List EdgeEnd) : (a.reserveAll es).order = a.order := by
  induction es generalizing a with
  | nil => rfl
  | cons e es ih => exact ih.trans (order_reserveEnd e)

theorem turns_reserveAll (es : List EdgeEnd) :
    ((a.reserveAll es).anchors node).turns = (a.anchors node).turns := by
  induction es generalizing a with
  | nil => rfl
  | cons e es ih =>
    refine Eq.trans ih ?_
    unfold reserveEnd
    split
    · exact turns_reserve _ _
    · rfl

theorem mem_taken_reserveAll {x : String} (es : List EdgeEnd) :
    x ∈ ((a.reserveAll es).anchors node).taken ↔
      x ∈ keptAt node es ∨ x ∈ (a.anchors node).taken := by
  induction es generalizing a with
  | nil => simp [reserveAll, keptAt]
  | cons e es ih =>
    rw [mem_keptAt_cons, or_assoc, or_left_comm]
    refine ih.trans (or_congr_right ?_)
    unfold reserveEnd
    split
    · rename_i handle hpin
      simp [mem_taken_reserve, hpin]
    · rename_i hpin
      simp [hpin]

/-- At `node`, which keeps `kept`, `k` anchors have been drawn. -/
structure Drawn (a : Allocator) (node : String) (kept : List String) (k : Nat) : Prop where
  free : freeAnchors a.order (a.anchors node).taken = (freeAnchors a.order kept).drop k
  turns : (a.anchors node).turns = k - (freeAnchors a.order kept).length

theorem drawn_reserveAll (order : List String) (es : List EdgeEnd) (node : String) :
    ((new order).reserveAll es).Drawn node (keptAt node es) 0 := by
  refine ⟨?_, ?_⟩
  · rw [List.drop_zero]
    refine freeAnchors_congr (fun x => ?_) _
    rw [mem_taken_reserveAll]
    simp [new]
  · rw [turns_reserveAll, Nat.zero_sub]
    rfl

namespace Drawn

theorem congr {a' : Allocator} (horder : a'.order = a.order)
    (hanchors : a'.anchors node = a.anchors node) (h : a.Drawn node kept k) :
    a'.Drawn node kept k := by
  refine ⟨?_, ?_⟩ <;> rw [hanchors, horder]
  exacts [h.free, h.turns]

/-- The next anchor is the one that the numbers say, and one more is drawn. -/
theorem allocate (hnodup : a.order.Nodup) (h : a.Drawn node kept k) :
    (a.allocate node).1 = drawnAnchor a.order kept k ∧
      (a.allocate node).2.Drawn node kept (k + 1) := by
  have hfind : a.order.find? (! (a.anchors node).taken.contains ·) =
      (freeAnchors a.order kept)[k]? := by
    rw [← List.head?_filter, ← List.head?_drop, ← h.free]
    rfl
  unfold Allocator.allocate drawnAnchor
  simp only [hfind]
  by_cases hk : k < (freeAnchors a.order kept).length
  · -- a free anchor: it is the first of those left, and goes
    have hdrop := List.drop_eq_getElem_cons hk
    have hrest : (freeAnchors a.order kept)[k] ∉ (freeAnchors a.order kept).drop (k + 1) := by
      have := (nodup_freeAnchors hnodup kept).sublist (List.drop_sublist k _)
      rw [hdrop] at this
      exact (List.nodup_cons.1 this).1
    simp only [List.getElem?_eq_getElem hk, Option.getD_some, true_and]
    refine ⟨?_, ?_⟩
    · rw [taken_reserve, order_reserve, freeAnchors_cons, h.free, hdrop,
        List.filter_cons_of_neg (by simp), List.filter_eq_self]
      intro x hx
      rw [bne_iff_ne]
      rintro rfl
      exact hrest hx
    · rw [turns_reserve, h.turns, order_reserve]
      omega
  · -- none is left: one turn more
    have hk' : (freeAnchors a.order kept).length ≤ k := Nat.le_of_not_lt hk
    simp only [List.getElem?_eq_none hk', Option.getD_none, h.turns, true_and]
    refine ⟨?_, ?_⟩
    · rw [anchors_put, order_put, h.free, List.drop_eq_nil_of_le hk',
        List.drop_eq_nil_of_le (Nat.le_succ_of_le hk')]
    · rw [anchors_put, order_put]
      show _ + 1 = _
      omega

end Drawn

variable {kept : String → List String} {k : String → Nat}

/-- One end is settled: it gets its anchor, and its own node has drawn one more if it draws. -/
theorem drawn_settleEnd (hnodup : a.order.Nodup) (h : ∀ n, a.Drawn n (kept n) (k n))
    (e : EdgeEnd) :
    (a.settleEnd e).1 = e.anchor a.order (kept e.node) (k e.node) ∧
      ∀ n, (a.settleEnd e).2.Drawn n (kept n) (k n + if e.draws n then 1 else 0) := by
  unfold settleEnd EdgeEnd.anchor EdgeEnd.draws
  cases hpin : e.pin with
  | some handle => exact ⟨rfl, fun n => by simpa using h n⟩
  | none =>
    cases hanchoring : e.anchoring with
    | fixed handle => exact ⟨rfl, fun n => by simpa using h n⟩
    | allocated =>
      obtain ⟨hhandle, hdrawn⟩ := (h e.node).allocate hnodup
      refine ⟨hhandle, fun n => ?_⟩
      by_cases hn : e.node = n
      · subst hn
        simpa using hdrawn
      · have hother := (h n).congr (order_allocate a e.node)
          (anchors_allocate_of_ne a e.node (Ne.symm hn))
        simpa [hn] using hother

theorem settle_eq (hnodup : a.order.Nodup) (h : ∀ n, a.Drawn n (kept n) (k n))
    (es : List EdgeEnd) :
    a.settle es = es.mapIdx fun j e =>
      e.anchor a.order (kept e.node) (k e.node + (es.take j).countP (·.draws e.node)) := by
  induction es generalizing a k with
  | nil => rfl
  | cons e es ih =>
    obtain ⟨hhandle, hdrawn⟩ := drawn_settleEnd hnodup h e
    have hrest := ih (by rwa [order_settleEnd]) hdrawn
    rw [settle, hhandle, hrest, List.mapIdx_cons, order_settleEnd]
    simp [List.countP_cons, Nat.add_comm, Nat.add_left_comm]

theorem drawnAt_settle (hnodup : a.order.Nodup) (h : ∀ n, a.Drawn n (kept n) (k n))
    (es : List EdgeEnd) (node : String) :
    drawnAt node es (a.settle es) =
      (List.range' (k node) (es.countP (·.draws node))).map (drawnAnchor a.order (kept node)) := by
  induction es generalizing a k with
  | nil => rfl
  | cons e es ih =>
    obtain ⟨hhandle, hdrawn⟩ := drawn_settleEnd hnodup h e
    have hrest := ih (by rwa [order_settleEnd]) hdrawn
    rw [order_settleEnd] at hrest
    unfold drawnAt at hrest ⊢
    rw [settle, List.zip_cons_cons, List.countP_cons]
    by_cases hdraws : e.draws node = true
    · have hanchor : e.anchor a.order (kept e.node) (k e.node) =
          drawnAnchor a.order (kept node) (k node) := by
        simp only [EdgeEnd.draws, Bool.and_eq_true, decide_eq_true_eq, Option.isNone_iff_eq_none]
          at hdraws
        obtain ⟨⟨rfl, hpin⟩, hanchoring⟩ := hdraws
        simp [EdgeEnd.anchor, hpin, hanchoring]
      rw [List.filter_cons_of_pos (by exact hdraws), List.map_cons, hrest, hhandle, hanchor]
      simp [hdraws, List.range'_succ]
    · rw [List.filter_cons_of_neg (by exact hdraws), hrest]
      simp [hdraws]

end Allocator

/-- The anchors of all ends. Those that are kept are taken before any is given. -/
def settleEnds (order : List String) (es : List EdgeEnd) : List String :=
  ((Allocator.new order).reserveAll es).settle es

/-- What the ends `es` get. Every end has the anchor that is its own or that its number among the
drawing ends of its node gives it. Until the free ones are used up, the drawn anchors of a node are
all different, and none of them is kept by another end, before or behind. -/
structure Settled (order : List String) (es : List EdgeEnd) (handles : List String) : Prop where
  anchor : handles = es.mapIdx fun j e =>
    e.anchor order (keptAt e.node es) ((es.take j).countP (·.draws e.node))
  drawn : ∀ node, drawnAt node es handles =
    (List.range (es.countP (·.draws node))).map (drawnAnchor order (keptAt node es))
  nodup : ∀ node,
    ((drawnAt node es handles).take (freeAnchors order (keptAt node es)).length).Nodup
  disjoint : ∀ node,
    ((drawnAt node es handles).take (freeAnchors order (keptAt node es)).length).Disjoint
      (keptAt node es)

theorem settled_settleEnds {order : List String} (hnodup : order.Nodup) (es : List EdgeEnd) :
    Settled order es (settleEnds order es) := by
  have hstart := Allocator.drawn_reserveAll order es
  have horder : ((Allocator.new order).reserveAll es).order = order :=
    Allocator.order_reserveAll es
  have hdrawn : ∀ node, drawnAt node es (settleEnds order es) =
      (List.range (es.countP (·.draws node))).map (drawnAnchor order (keptAt node es)) := by
    intro node
    have := Allocator.drawnAt_settle (by rwa [horder]) hstart es node
    rwa [horder, ← List.range_eq_range'] at this
  have htake : ∀ node,
      (drawnAt node es (settleEnds order es)).take (freeAnchors order (keptAt node es)).length =
        (freeAnchors order (keptAt node es)).take (es.countP (·.draws node)) :=
    fun node => by rw [hdrawn, take_map_drawnAnchor]
  refine ⟨?_, hdrawn, fun node => ?_, fun node => ?_⟩
  · rw [settleEnds, Allocator.settle_eq (by rwa [horder]) hstart es, horder]
    simp only [Nat.zero_add]
  · rw [htake]
    exact (nodup_freeAnchors hnodup _).sublist (List.take_sublist _ _)
  · rw [htake]
    intro x hx hkept
    have hfree := (List.mem_filter.1 (List.mem_of_mem_take hx)).2
    simp [hkept] at hfree

/-! ### Both directions -/

namespace Berths
variable (pins : Pins)

def sourceEnds (ps : List Plan) : List EdgeEnd := ps.map fun p => p.sourceEnd (pins.find p.id)

def targetEnds (ps : List Plan) : List EdgeEnd := ps.map fun p => p.targetEnd (pins.find p.id)

theorem foldl_reserve (b : Berths) (ps : List Plan) :
    ps.foldl (reserve pins) b =
      ⟨b.sources.reserveAll (sourceEnds pins ps), b.targets.reserveAll (targetEnds pins ps)⟩ := by
  induction ps generalizing b with
  | nil => rfl
  | cons p ps ih => exact ih (b.reserve pins p)

theorem map_sourceHandle_connectAll (b : Berths) (ps : List Plan) :
    (connectAll pins b ps).map Edge.sourceHandle = b.sources.settle (sourceEnds pins ps) := by
  induction ps generalizing b with
  | nil => rfl
  | cons p ps ih =>
    rw [connectAll, List.map_cons, ih]
    rfl

theorem map_targetHandle_connectAll (b : Berths) (ps : List Plan) :
    (connectAll pins b ps).map Edge.targetHandle = b.targets.settle (targetEnds pins ps) := by
  induction ps generalizing b with
  | nil => rfl
  | cons p ps ih =>
    rw [connectAll, List.map_cons, ih]
    rfl

end Berths

theorem nodup_targetOrder : targetOrder.Nodup :=
  perm_sourceOrder_targetOrder.nodup_iff.1 nodup_sourceOrder

namespace Diagram
variable (d : Diagram) (pins : Pins)

/-- The ends at which the edges leave, with what they have to keep. -/
def sourceEnds : List EdgeEnd := Berths.sourceEnds pins d.plans

def targetEnds : List EdgeEnd := Berths.targetEnds pins d.plans

theorem map_sourceHandle_edges :
    (d.edges pins).map Edge.sourceHandle = settleEnds sourceOrder (d.sourceEnds pins) := by
  rw [edges, Berths.edges, Berths.map_sourceHandle_connectAll, Berths.foldl_reserve]
  rfl

theorem map_targetHandle_edges :
    (d.edges pins).map Edge.targetHandle = settleEnds targetOrder (d.targetEnds pins) := by
  rw [edges, Berths.edges, Berths.map_targetHandle_connectAll, Berths.foldl_reserve]
  rfl

/-- The seat of an edge says how it leaves. -/
theorem map_anchoring_sourceEnds :
    (d.sourceEnds pins).map (fun e => (e.node, e.anchoring)) =
      d.elements.flatMap fun e => (List.range (d.kept e).length).map fun n =>
        (e.id, .outbound e.kind n (d.kept e).length) := by
  have hseats := congrArg (List.map fun x : Seat =>
    (x.element.id, Anchoring.outbound x.element.kind x.index x.total)) d.map_seat_plans
  rw [List.map_map, List.map_flatMap] at hseats
  simp only [Element.seats, List.map_map] at hseats
  rw [sourceEnds, Berths.sourceEnds, List.map_map]
  exact hseats

theorem map_pin_sourceEnds :
    (d.sourceEnds pins).map (fun e => (e.node, e.pin)) =
      (d.edges pins).map fun e => (e.source, (pins.last? e.id).bind Pin.source) := by
  rw [d.map_edges pins fun _ => rfl, sourceEnds, Berths.sourceEnds, List.map_map]
  refine List.map_congr_left fun p _ => ?_
  exact congrArg (p.source, ·) (pins.source_find p.id)

theorem targetEnds_eq :
    d.targetEnds pins = (d.edges pins).map fun e =>
      ⟨e.target, (pins.last? e.id).bind Pin.target, .inbound (d.kindOf? e.target)⟩ := by
  rw [d.map_edges pins fun _ => rfl, targetEnds, Berths.targetEnds]
  refine List.map_congr_left fun p hp => ?_
  rw [Plan.targetEnd, targetKind_of_mem_plans hp, pins.target_find]
  rfl

/-- Every edge has, at both ends, the anchor that it keeps or that it is given around those that are
kept. It keeps what the last entry of its id says. How it leaves depends on the kind of its element
and on which of the ways out that the element keeps it is, and how it arrives on what its target
is. -/
theorem toGraph_settled :
    (d.sourceEnds pins).map (fun e => (e.node, e.pin)) =
      (d.toGraph pins).edges.map (fun e => (e.source, (pins.last? e.id).bind Pin.source)) ∧
    (d.sourceEnds pins).map (fun e => (e.node, e.anchoring)) =
      d.elements.flatMap (fun e => (List.range (d.kept e).length).map fun n =>
        (e.id, .outbound e.kind n (d.kept e).length)) ∧
    Settled sourceOrder (d.sourceEnds pins) ((d.toGraph pins).edges.map Edge.sourceHandle) ∧
    d.targetEnds pins = (d.toGraph pins).edges.map (fun e =>
      ⟨e.target, (pins.last? e.id).bind Pin.target, .inbound (d.kindOf? e.target)⟩) ∧
    Settled targetOrder (d.targetEnds pins) ((d.toGraph pins).edges.map Edge.targetHandle) := by
  rw [edges_toGraph, map_sourceHandle_edges, map_targetHandle_edges]
  exact ⟨d.map_pin_sourceEnds pins, d.map_anchoring_sourceEnds pins,
    settled_settleEnds nodup_sourceOrder _, d.targetEnds_eq pins,
    settled_settleEnds nodup_targetOrder _⟩

end Diagram
end Interaction
