import Interaction.Arrangement.Basic
import Interaction.Graph.Json
import Interaction.Json.Record

/-! # Arrangements as JSON

`Arrangement.text` writes an arrangement and `Arrangement.read` reads one. A reader accepts less
than is written: both lists and all anchors may be missing. -/

namespace Interaction
open Json

def PlacedNode.toJson (n : PlacedNode) : Json :=
  .object [("id", .string n.id), ("position", n.position.toJson)]

def AnchoredEdge.toJson (e : AnchoredEdge) : Json :=
  .object [("id", .string e.id), ("sourceHandle", orNull .string e.sourceHandle),
    ("targetHandle", orNull .string e.targetHandle)]

namespace Arrangement

def toJson (a : Arrangement) : Json :=
  .object [("nodes", .array (a.nodes.map PlacedNode.toJson)),
    ("edges", .array (a.edges.map AnchoredEdge.toJson))]

/-- The text under which an arrangement is kept. -/
def text (a : Arrangement) : String := a.toJson.pretty

end Arrangement

/-- A field that puts what `p` reads into the record. -/
def Json.Field.of {σ α : Type} (key : String) (p : Reader α) (isSet : σ → Bool)
    (set : σ → α → σ) : Field σ :=
  ⟨key, isSet, fun r s => (p s).map fun (v, t) => (set r v, t)⟩

/-! Records as far as they have been read. -/

structure PositionDraft where
  x : Option Binary64 := none
  y : Option Binary64 := none

structure PlacedNodeDraft where
  id : Option String := none
  position : Option Position := none

structure AnchoredEdgeDraft where
  id : Option String := none
  sourceHandle : Option (Option String) := none
  targetHandle : Option (Option String) := none

structure ArrangementDraft where
  nodes : Option (List PlacedNode) := none
  edges : Option (List AnchoredEdge) := none

/-- A position needs both coordinates. -/
def Position.read : Reader Position :=
  readRecord [.of "x" readNumber (·.x.isSome) ({ · with x := some · }),
      .of "y" readNumber (·.y.isSome) ({ · with y := some · })]
    ({} : PositionDraft) fun d => do
      let x ← d.x
      let y ← d.y
      some { x, y }

def PlacedNode.read : Reader PlacedNode :=
  readRecord [.of "id" readString (·.id.isSome) ({ · with id := some · }),
      .of "position" Position.read (·.position.isSome) ({ · with position := some · })]
    ({} : PlacedNodeDraft) fun d => do
      let id ← d.id
      let position ← d.position
      some { id, position }

/-- An anchor that is missing is the same as `null`. -/
def AnchoredEdge.read : Reader AnchoredEdge :=
  readRecord [.of "id" readString (·.id.isSome) ({ · with id := some · }),
      .of "sourceHandle" readStringOrNull (·.sourceHandle.isSome)
        ({ · with sourceHandle := some · }),
      .of "targetHandle" readStringOrNull (·.targetHandle.isSome)
        ({ · with targetHandle := some · })]
    ({} : AnchoredEdgeDraft) fun d => do
      let id ← d.id
      some
        { id
          sourceHandle := d.sourceHandle.getD none
          targetHandle := d.targetHandle.getD none }

namespace Arrangement

/-- A list that is missing is empty. -/
def reader : Reader Arrangement :=
  readRecord [.of "nodes" (readList PlacedNode.read) (·.nodes.isSome) ({ · with nodes := some · }),
      .of "edges" (readList AnchoredEdge.read) (·.edges.isSome)
        ({ · with edges := some · })]
    ({} : ArrangementDraft) fun d => some ⟨d.nodes.getD [], d.edges.getD []⟩

/-- The arrangement that a text holds. -/
def read (s : String) : Except Flaw Arrangement := readAll reader s

/-- The arrangement that a text holds, or the empty one if it cannot be read. -/
def readOrEmpty (s : String) : Arrangement :=
  match read s with
  | .ok a => a
  | .error _ => empty

end Arrangement
end Interaction
