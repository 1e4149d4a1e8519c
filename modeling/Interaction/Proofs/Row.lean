import Mathlib.Data.List.Fold
import Mathlib.Data.List.MinMax
import Interaction.Graph.OfDiagram
import Interaction.Proofs.Value

/-!
# The row of nodes

A cursor that has placed a node stands behind it, with a gap (`Cursor.place_le`). So all that is
placed from a cursor is behind it (`le_of_mem_places`), and of any two nodes in the row the second
is behind the first (`pairwise_places`). Widths are those of the texts: no line of a scene is wider
than its node.
-/

namespace Interaction

/-- The number that a coordinate is, unless it is none. -/
def Coordinate.value? : Coordinate → Option ℚ
  | .finite x => some x.value
  | .infinite _ | .notANumber => none

/-- One slot ends before the other begins, with a gap between them. -/
def Slot.Before (s t : Slot) : Prop := s.x + s.width + nodeGap ≤ t.x

namespace Cursor
variable (c : Cursor) (k : NodeKind) (label : String) (content : List Item)

@[simp] theorem x_place : (c.place k label content).1.x = c.x := rfl

@[simp] theorem width_place : (c.place k label content).1.width = k.width label content := rfl

theorem place_le :
    (c.place k label content).1.x + (c.place k label content).1.width + nodeGap ≤
      (c.place k label content).2.x := by
  show c.x + k.width label content + nodeGap ≤
    c.x + max k.footprint.advance (k.width label content + nodeGap)
  omega

end Cursor

namespace Element

/-- Some elements with their slots, one after the other. -/
def places : Cursor → List Element → List (Element × Slot)
  | _, [] => []
  | c, e :: es =>
    (e, (c.place e.kind e.label e.shown).1) :: places (c.place e.kind e.label e.shown).2 es

theorem nodes_eq_map_places (c : Cursor) (es : List Element) :
    nodes c es = (places c es).map fun (e, slot) => e.node slot := by
  induction es generalizing c with
  | nil => rfl
  | cons e es ih => exact congrArg _ (ih _)

theorem le_of_mem_places {c : Cursor} {es : List Element} {p : Element × Slot}
    (h : p ∈ places c es) : c.x ≤ p.2.x := by
  induction es generalizing c with
  | nil => cases h
  | cons e es ih =>
    rcases List.mem_cons.1 h with rfl | h
    · exact Nat.le_of_eq (c.x_place _ _ _).symm
    · have hstep := c.place_le e.kind e.label e.shown
      have hrest := ih h
      rw [Cursor.x_place] at hstep
      omega

theorem pairwise_places (c : Cursor) (es : List Element) :
    (places c es).Pairwise fun p q => p.2.Before q.2 := by
  induction es generalizing c with
  | nil => exact List.Pairwise.nil
  | cons e es ih =>
    refine List.pairwise_cons.2 ⟨fun q hq => ?_, ih _⟩
    exact Nat.le_trans (c.place_le e.kind e.label e.shown) (le_of_mem_places hq)

theorem width_of_mem_places {c : Cursor} {es : List Element} {p : Element × Slot}
    (h : p ∈ places c es) : p.2.width = p.1.kind.width p.1.label p.1.shown := by
  induction es generalizing c with
  | nil => cases h
  | cons e es ih =>
    rcases List.mem_cons.1 h with rfl | h
    · exact c.width_place _ _ _
    · exact ih h

theorem width_of_mem_nodes {c : Cursor} {es : List Element} {n : Node} (h : n ∈ nodes c es) :
    n.width = n.kind.width n.label n.content := by
  rw [nodes_eq_map_places] at h
  obtain ⟨⟨e, slot⟩, hp, rfl⟩ := List.mem_map.1 h
  exact width_of_mem_places hp

end Element

/-! ### Widths of texts -/

theorem displayWidth_le_multilineWidth {s : String} {l : List Char}
    (h : l ∈ Width.lines s.toList) : displayWidth (.ofList l) ≤ multilineWidth s := by
  have hmem : (Width.measure l).1.toNat ∈
      (Width.lines s.toList).map fun l => (Width.measure l).1.toNat :=
    List.mem_map_of_mem h
  rw [displayWidth, String.toList_ofList, multilineWidth, List.foldl_eq_foldr]
  exact List.le_max_of_le' 0 hmem (Nat.le_refl _)

theorem NodeKind.width_eq {k : NodeKind} (h : k = .scene ∨ k = .global) (label : String)
    (content : List Item) :
    k.width label content =
      max 256 (max (multilineWidth label) (contentWidth content) * 8 + 32) := by
  rcases h with rfl | rfl <;> rfl

/-! ### The graph -/

namespace Diagram

/-- Nodes that nobody moved stand apart from each other, and scenes and globals have room for every
line of their texts. -/
theorem nodes_apart (d : Diagram) (pins : Pins)
    (h : ∀ n ∈ (d.toGraph pins).nodes, ∀ x ∈ n.position.x.value?, x < 2 ^ 53) :
    ((d.toGraph pins).nodes.Pairwise fun m n => ∃ x y : ℚ, m.position.x.value? = some x ∧
      n.position.x.value? = some y ∧ x + m.width + 44 ≤ y) ∧
    ∀ n ∈ (d.toGraph pins).nodes, n.kind = .scene ∨ n.kind = .global →
      256 ≤ n.width ∧
      (∀ l ∈ Width.lines n.label.toList, 32 + 8 * displayWidth (.ofList l) ≤ n.width) ∧
      32 + 8 * contentWidth n.content ≤ n.width := by
  rw [nodes_toGraph] at h ⊢
  refine ⟨?_, fun n hn hkind => ?_⟩
  · rw [Element.nodes_eq_map_places] at h ⊢
    refine List.pairwise_map.2 ((Element.pairwise_places _ _).imp_of_mem fun {p q} _ hq hpq => ?_)
    have hpq : p.2.x + p.2.width + nodeGap ≤ q.2.x := hpq
    -- It is enough to know this of the second node: the first one stands before it.
    have hqx : q.2.x < 2 ^ 53 :=
      Binary64.lt_of_value_ofNat_lt (h _ (List.mem_map_of_mem hq) _ rfl)
    have hpx : p.2.x < 2 ^ 53 := by omega
    refine ⟨p.2.x, q.2.x, ?_, ?_, ?_⟩
    · exact congrArg some (Binary64.value_ofNat hpx)
    · exact congrArg some (Binary64.value_ofNat hqx)
    · exact_mod_cast hpq
  · have hwidth := Element.width_of_mem_nodes hn
    rw [NodeKind.width_eq hkind] at hwidth
    refine ⟨by omega, fun l hl => ?_, by omega⟩
    have hline := displayWidth_le_multilineWidth hl
    omega

/-- A start, a scene with a topic in two lines, and a global that is wide because of what a group in
a group holds. -/
def threeInARow : Diagram where
  elements := [
    .terminal ⟨.start, "S", none, []⟩,
    .scene ⟨"A", .normal, true, [.topic "The shop\nand everything that can be bought there"], []⟩,
    .global ⟨"G", [.flow .seq none none [.flow .xor none (some "c") [
      .topic "said by nobody in particular"]]], []⟩]

theorem nodes_apart_threeInARow :
    (∀ n ∈ (threeInARow.toGraph []).nodes, ∀ x ∈ n.position.x.value?, x < 2 ^ 53) ∧
    (threeInARow.toGraph []).nodes.map (fun n => (n.position.x.value?, n.width)) =
      [(some 50, 48), (some 200, 344), (some 588, 288)] ∧
    (threeInARow.toGraph []).nodes.Pairwise (fun m n => ∃ x y : ℚ, m.position.x.value? = some x ∧
      n.position.x.value? = some y ∧ x + m.width + 44 ≤ y) ∧
    ∀ n ∈ (threeInARow.toGraph []).nodes, n.kind = .scene ∨ n.kind = .global →
      256 ≤ n.width ∧
      (∀ l ∈ Width.lines n.label.toList, 32 + 8 * displayWidth (.ofList l) ≤ n.width) ∧
      32 + 8 * contentWidth n.content ≤ n.width := by
  have hsmall : ∀ n ∈ (threeInARow.toGraph []).nodes, ∀ x ∈ n.position.x.value?, x < 2 ^ 53 := by
    decide +kernel
  obtain ⟨hapart, hwide⟩ := nodes_apart threeInARow [] hsmall
  exact ⟨hsmall, by decide +kernel, hapart, hwide⟩

end Diagram
end Interaction
