import Mathlib.Data.List.Basic
import Interaction.Graph.Edit
import Interaction.Proofs.Edges

/-!
# What pins say

Pins are asked about one id at a time, and of several entries of an id the last counts: so
`Pins.find` sees the entries of its id and nothing else (`find_congr`). The edges of a diagram
depend on what is said about their own ids only (`Diagram.edges_congr`), and each of them stays
where its pin has it (`Diagram.connect_find`).

An arrangement can be handed over as the pins of all its entries, or as a map of those that know
both anchors. The map has one entry for each id (`filter_latest`), and says the same as the
arrangement without its half entries (`toGraph_handles`).
-/

namespace Interaction

namespace Pins
variable {pins pins' : Pins} {id : String}

/-- The last entry of an id. -/
def last? (pins : Pins) (id : String) : Option Pin := (pins.filter (·.1 = id)).getLast?.map (·.2)

theorem find_eq (pins : Pins) (id : String) : pins.find id = (pins.last? id).getD ⟨none, none⟩ := by
  rw [last?, List.getLast?_filter]
  rfl

theorem source_find (pins : Pins) (id : String) :
    (pins.find id).source = (pins.last? id).bind Pin.source := by
  rw [find_eq]
  cases pins.last? id <;> rfl

theorem target_find (pins : Pins) (id : String) :
    (pins.find id).target = (pins.last? id).bind Pin.target := by
  rw [find_eq]
  cases pins.last? id <;> rfl

theorem find_congr (h : pins.filter (·.1 = id) = pins'.filter (·.1 = id)) :
    pins.find id = pins'.find id := by
  rw [find_eq, find_eq, last?, h, last?]

end Pins

/-! ### Edges under pins -/

theorem Allocator.getD_settleEnd (a : Allocator) (e : EdgeEnd) :
    e.pin.getD (a.settleEnd e).1 = (a.settleEnd e).1 := by
  unfold settleEnd
  cases e.pin <;> rfl

namespace Berths
variable {pins pins' : Pins} {p : Plan} {ps : List Plan}

theorem connectAll_cons (pins : Pins) (b : Berths) (p : Plan) (ps : List Plan) :
    connectAll pins b (p :: ps) =
      (b.connect pins p).1 :: connectAll pins (b.connect pins p).2 ps := rfl

theorem connect_fst (pins : Pins) (b : Berths) (p : Plan) :
    (b.connect pins p).1 = p.edge (b.sources.settleEnd (p.sourceEnd (pins.find p.id))).1
      (b.targets.settleEnd (p.targetEnd (pins.find p.id))).1 := rfl

theorem reserve_congr (h : pins.find p.id = pins'.find p.id) (b : Berths) :
    reserve pins b p = reserve pins' b p := by
  rw [reserve, reserve, h]

theorem connect_congr (h : pins.find p.id = pins'.find p.id) (b : Berths) :
    b.connect pins p = b.connect pins' p := by
  rw [connect, connect, h]

theorem connectAll_congr (h : ∀ p ∈ ps, pins.find p.id = pins'.find p.id) (b : Berths) :
    connectAll pins b ps = connectAll pins' b ps := by
  induction ps generalizing b with
  | nil => rfl
  | cons p ps ih =>
    obtain ⟨hp, hps⟩ := List.forall_mem_cons.1 h
    rw [connectAll_cons, connectAll_cons, connect_congr hp, ih hps]

theorem edges_congr (h : ∀ p ∈ ps, pins.find p.id = pins'.find p.id) :
    edges pins ps = edges pins' ps := by
  have hreserve : ps.foldl (reserve pins) .new = ps.foldl (reserve pins') .new :=
    List.foldl_ext _ _ _ fun b p hp => reserve_congr (h p hp) b
  rw [edges, edges, hreserve, connectAll_congr h]

theorem connect_find {b : Berths} {e : Edge} (he : e ∈ connectAll pins b ps) :
    e.connect (pins.find e.id).source (pins.find e.id).target = e := by
  induction ps generalizing b with
  | nil => cases he
  | cons p ps ih =>
    rw [connectAll_cons] at he
    rcases List.mem_cons.1 he with rfl | he
    · have hsource := b.sources.getD_settleEnd (p.sourceEnd (pins.find p.id))
      have htarget := b.targets.getD_settleEnd (p.targetEnd (pins.find p.id))
      rw [connect_fst]
      exact congrArg₂ p.edge hsource htarget
    · exact ih he

end Berths

namespace Diagram
variable {d : Diagram} {pins pins' : Pins}

theorem edges_congr (h : ∀ id ∈ d.plans.map Plan.id, pins.find id = pins'.find id) :
    d.edges pins = d.edges pins' :=
  Berths.edges_congr fun p hp => h p.id (List.mem_map_of_mem hp)

theorem toGraph_congr (h : ∀ id ∈ d.plans.map Plan.id, pins.find id = pins'.find id) :
    d.toGraph pins = d.toGraph pins' :=
  Graph.ext rfl (edges_congr h) rfl

theorem connect_find {e : Edge} (he : e ∈ d.edges pins) :
    e.connect (pins.find e.id).source (pins.find e.id).target = e :=
  Berths.connect_find he

end Diagram

/-! ### Complete entries -/

theorem filter_latest {α : Type} (es : List (String × α)) (key : String) :
    (latest es).filter (·.1 = key) = (es.filter (·.1 = key)).getLast?.toList := by
  induction es with
  | nil => rfl
  | cons e es ih =>
    obtain ⟨k, a⟩ := e
    by_cases hk : k = key
    · subst hk
      have hlater : es.any (·.1 = k) = true ↔ es.filter (·.1 = k) ≠ [] := by
        rw [Ne, List.filter_eq_nil_iff, List.any_eq_true]
        simp
      -- The entry stays exactly if no later one has its key, and then it is the last one.
      rw [latest, List.filter_cons_of_pos (by simp)]
      split
      · rename_i hany
        rw [ih, List.getLast?_cons_of_ne_nil (hlater.1 hany)]
      · rename_i hany
        have hnil : es.filter (·.1 = k) = [] := not_not.1 (mt hlater.2 hany)
        rw [List.filter_cons_of_pos (by simp), ih, hnil]
        rfl
    · rw [latest, List.filter_cons_of_neg (by simpa using hk)]
      split
      · exact ih
      · rw [List.filter_cons_of_neg (by simpa using hk), ih]

namespace Pins
variable {hs hs' : List (String × Handles)}

theorem filter_ofHandles (hs : List (String × Handles)) (id : String) :
    (ofHandles hs).filter (·.1 = id) = ofHandles (hs.filter (·.1 = id)) := by
  rw [ofHandles, ofHandles, List.filter_map]
  rfl

/-- A map says what the list says from which it is made, in whatever order its entries come. -/
theorem find_ofHandles_of_perm (h : hs.Perm (latest hs')) (id : String) :
    (ofHandles hs).find id = (ofHandles hs').find id := by
  have hone : (hs.filter (·.1 = id)).Perm (hs'.filter (·.1 = id)).getLast?.toList := by
    rw [← filter_latest]
    exact h.filter _
  have hlast : (hs.filter (·.1 = id)).getLast? = (hs'.filter (·.1 = id)).getLast? := by
    cases hentry : (hs'.filter (·.1 = id)).getLast? with
    | none =>
      rw [hentry] at hone
      rw [hone.eq_nil]
      rfl
    | some e =>
      rw [hentry] at hone
      rw [List.perm_singleton.1 hone]
      rfl
  rw [find_eq, find_eq, last?, last?, filter_ofHandles, filter_ofHandles, ofHandles, ofHandles,
    List.getLast?_map, List.getLast?_map, hlast]

end Pins

/-- The entry knows one anchor and not the other. -/
def AnchoredEdge.isHalf (e : AnchoredEdge) : Bool := e.sourceHandle.isSome != e.targetHandle.isSome

namespace Arrangement

def withoutHalves (a : Arrangement) : Arrangement :=
  { a with edges := a.edges.filter (! ·.isHalf) }

theorem withoutHalves_of_forall {a : Arrangement} (h : ∀ e ∈ a.edges, e.isHalf = false) :
    a.withoutHalves = a := by
  have hedges : a.edges.filter (! ·.isHalf) = a.edges := by
    rw [List.filter_eq_self]
    intro e he
    rw [h e he]
    rfl
  rw [withoutHalves, hedges]

theorem pins_withoutHalves (a : Arrangement) :
    a.withoutHalves.pins = Pins.ofHandles (a.edges.filterMap AnchoredEdge.handles?) := by
  rw [pins, withoutHalves, List.filterMap_filter, Pins.ofHandles, List.map_filterMap]
  congr 1
  funext e
  obtain ⟨id, s, t⟩ := e
  cases s <;> cases t <;> rfl

/-- The map of the complete entries of an arrangement, in whatever order, gives the graph that the
arrangement gives without its half entries, and that it gives itself if it has none. -/
theorem toGraph_handles {a : Arrangement} {hs : List (String × Handles)} (h : hs.Perm a.handles)
    (d : Diagram) :
    d.toGraph (.ofHandles hs) = d.toGraph a.withoutHalves.pins ∧
      ((∀ e ∈ a.edges, e.isHalf = false) → d.toGraph (.ofHandles hs) = d.toGraph a.pins) := by
  have hwhole : d.toGraph (.ofHandles hs) = d.toGraph a.withoutHalves.pins := by
    rw [pins_withoutHalves]
    exact Diagram.toGraph_congr fun id _ => Pins.find_ofHandles_of_perm h id
  refine ⟨hwhole, fun hhalf => ?_⟩
  rw [hwhole, withoutHalves_of_forall hhalf]

end Arrangement

/-- What the user says to get to `B`. -/
def wayToB (words : String) : Item :=
  .utterance { speaker := .user, text := words,
               transition := some { target := "B", arrow := .normal } }

/-- A scene with three ways to another one. -/
def threeWays : Diagram where
  elements := [
    .scene ⟨"A", .normal, true, [], [wayToB "one", wayToB "two", wayToB "three"]⟩,
    .scene ⟨"B", .normal, false, [], []⟩]

/-- The first edge has two entries, and the second a later one without anchors. -/
def repeatedEntries : Arrangement where
  nodes := []
  edges := [⟨"e_A_B_one_0", some "b-3", some "t-3"⟩, ⟨"e_A_B_two_0", some "b-2", some "t-4"⟩,
    ⟨"e_A_B_two_0", none, none⟩, ⟨"e_A_B_one_0", some "l-1", some "t-3"⟩]

theorem toGraph_handles_repeatedEntries :
    repeatedEntries.handles.reverse.Perm repeatedEntries.handles ∧
    repeatedEntries.handles.length = 2 ∧
    (∀ e ∈ repeatedEntries.edges, e.isHalf = false) ∧
    threeWays.toGraph (.ofHandles repeatedEntries.handles.reverse) =
      threeWays.toGraph repeatedEntries.pins ∧
    (threeWays.toGraph repeatedEntries.pins).edges.map (fun e => (e.sourceHandle, e.targetHandle)) =
      [("l-1", "t-3"), ("b-2", "t-4"), ("b-3", "t-2")] := by
  have hperm := repeatedEntries.handles.reverse_perm
  have hhalf : ∀ e ∈ repeatedEntries.edges, e.isHalf = false := by decide
  obtain ⟨-, hsame⟩ := Arrangement.toGraph_handles hperm threeWays
  exact ⟨hperm, by decide, hhalf, hsame hhalf, by decide +kernel⟩

end Interaction
