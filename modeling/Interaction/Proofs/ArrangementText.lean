import Interaction.Arrangement.Json
import Interaction.Proofs.NumberText

/-!
# Arrangements that are read back

An arrangement is written as records in lists in a record. Each level is read back because its parts
are: what is asked of an arrangement is only that its coordinates are finite and are read back as
numbers, which all integers up to `9 * 10 ^ 14` are.
-/

namespace Interaction
open Json Binary64

/-- The coordinate is a number that is read back. -/
def Coordinate.ReadsBack : Coordinate → Prop
  | .finite x => Json.ReadsBack x
  | .infinite _ | .notANumber => False

/-- Both coordinates are read back. -/
structure Position.ReadsBack (p : Position) : Prop where
  x : p.x.ReadsBack
  y : p.y.ReadsBack

/-- A field reads what its reader reads. -/
theorem Json.Reads.field {σ α : Type} {p : Reader α} {j : Json} {v : α} (h : Reads p j v)
    {key : String} {isSet : σ → Bool} {set : σ → α → σ} {a : σ} :
    Reads ((Field.of key p isSet set).read a) j (set a v) := by
  intro d bs rest hbs hrest
  show (p _).map _ = _
  rw [h d hbs hrest]
  rfl

theorem Coordinate.ReadsBack.exists_reads {c : Coordinate} (h : c.ReadsBack) :
    ∃ x, c = .finite x ∧ Reads readNumber c.toJson x := by
  cases c with
  | finite x => exact ⟨x, rfl, Json.ReadsBack.reads h⟩
  | infinite | notANumber => exact h.elim

theorem Position.ReadsBack.reads {p : Position} (h : p.ReadsBack) :
    Reads Position.read p.toJson p := by
  obtain ⟨x, hx, hreadx⟩ := h.x.exists_reads
  obtain ⟨y, hy, hready⟩ := h.y.exists_reads
  have hp : (⟨x, y⟩ : Position) = p := by
    rw [← hx, ← hy]
  refine reads_record (.cons rfl rfl hreadx.field (.cons rfl rfl hready.field (.nil _))) ?_
  rw [← hp]
  rfl

theorem PlacedNode.reads {n : PlacedNode} (h : n.position.ReadsBack) :
    Reads PlacedNode.read n.toJson n :=
  reads_record (.cons rfl rfl (reads_string n.id).field
    (.cons rfl rfl h.reads.field (.nil _))) rfl

theorem AnchoredEdge.reads (e : AnchoredEdge) : Reads AnchoredEdge.read e.toJson e :=
  reads_record (.cons rfl rfl (reads_string e.id).field
    (.cons rfl rfl (reads_stringOrNull e.sourceHandle).field
      (.cons rfl rfl (reads_stringOrNull e.targetHandle).field (.nil _)))) rfl

namespace Arrangement

theorem reads (a : Arrangement) (h : ∀ n ∈ a.nodes, n.position.ReadsBack) :
    Reads reader a.toJson a := by
  have hnodes : Reads (readList PlacedNode.read) (.array (a.nodes.map PlacedNode.toJson)) a.nodes :=
    reads_list_map (fun n hn => PlacedNode.reads (h n hn)) fun _ => opens_object _
  have hedges : Reads (readList AnchoredEdge.read) (.array (a.edges.map AnchoredEdge.toJson))
      a.edges :=
    reads_list_map (fun e _ => e.reads) fun _ => opens_object _
  exact reads_record (.cons rfl rfl hnodes.field (.cons rfl rfl hedges.field (.nil _))) rfl

theorem read_text_of_readsBack {a : Arrangement} (h : ∀ n ∈ a.nodes, n.position.ReadsBack) :
    read a.text = .ok a := by
  have hdone : Delimited [] := by
    rintro _ ⟨⟩
  have hreads := (reads a h).at_front 0 hdone
  rw [List.append_nil] at hreads
  rw [read, readAll, text, pretty, render, String.toList_ofList, hreads]
  rfl

theorem readOrEmpty_of_read {a : Arrangement} {t : String} (h : read t = .ok a) :
    readOrEmpty t = a := by
  rw [readOrEmpty, h]

/-- The text of an arrangement holds the arrangement, if its coordinates are read back; integers of up
to `9 * 10 ^ 14` are. -/
theorem read_text :
    (∀ a : Arrangement, (∀ n ∈ a.nodes, n.position.ReadsBack) →
      read a.text = .ok a ∧ readOrEmpty a.text = a) ∧
    ∀ x : Binary64, x.Canonical → ∀ n ≤ 9 * 10 ^ 14, x.IsInteger n → Coordinate.ReadsBack x := by
  constructor
  · intro a h
    have hread := read_text_of_readsBack h
    exact ⟨hread, readOrEmpty_of_read hread⟩
  · intro x hx n hn h
    rw [h.eq_integer hx (by omega)]
    exact readsBack_integer x.negative (by omega)

/-- Ids that are empty, repeated or full of characters that are escaped, anchors that are missing on
either side, and coordinates that are integers, a fraction and negative zero. -/
theorem read_text_escapes :
    let a : Arrangement :=
      { nodes := [⟨"\"\\\n\u0001é", ⟨integer true 250, integer true 0⟩⟩,
          ⟨"", ⟨(⟨false, 0x1999999999999a, -56⟩ : Binary64), integer false 1800⟩⟩,
          ⟨"", ⟨integer false 0, integer false (9 * 10 ^ 14)⟩⟩]
        edges := [⟨"e", none, some "\t"⟩, ⟨"e", some "", none⟩, ⟨"", none, none⟩] }
    read a.text = .ok a ∧ readOrEmpty a.text = a := by
  have hvalues : ∀ negative, ∀ n ∈ [0, 250, 1800, 9 * 10 ^ 14],
      (integer negative n).Canonical ∧ n ≤ 9 * 10 ^ 14 ∧ (integer negative n).IsInteger n := by
    decide +kernel
  have hinteger : ∀ negative, ∀ n ∈ [0, 250, 1800, 9 * 10 ^ 14],
      Coordinate.ReadsBack (integer negative n) := by
    intro negative n hn
    obtain ⟨hcanonical, hle, hvalue⟩ := hvalues negative n hn
    exact read_text.2 _ hcanonical n hle hvalue
  have hfraction : Json.ReadsBack ⟨false, 0x1999999999999a, -56⟩ := by decide +kernel
  refine read_text.1 _ ?_
  simp only [List.forall_mem_cons]
  exact ⟨⟨hinteger true 250 (by decide), hinteger true 0 (by decide)⟩,
    ⟨hfraction, hinteger false 1800 (by decide)⟩,
    ⟨hinteger false 0 (by decide), hinteger false (9 * 10 ^ 14) (by decide)⟩, nofun⟩

end Arrangement
end Interaction
