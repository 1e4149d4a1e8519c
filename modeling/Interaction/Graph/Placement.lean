import Interaction.Width.Body

/-! # Default positions

Nodes stand in one row, each to the right of the one before, with a gap. Scenes and globals are as
wide as their text needs. -/

namespace Interaction

/-- The room that a node takes: its least width, how far it stands below the top of the row, and
the least distance to the next node's left edge. -/
structure Footprint where
  width : Nat
  drop : Nat
  advance : Nat
deriving DecidableEq, Repr

/-- The left and upper edge of the row. -/
def rowStart : Nat := 50

/-- The least width of a scene. -/
def sceneWidth : Nat := 256

/-- The least room between two nodes. -/
def nodeGap : Nat := 44

def NodeKind.footprint : NodeKind → Footprint
  | .start | .finish => ⟨48, 50, 150⟩
  | .breakdown => ⟨64, 0, sceneWidth⟩
  | .fork => ⟨120, 60, 200⟩
  | .process => ⟨100, 50, 150⟩
  | .external => ⟨96, 50, 128⟩
  | .contact => ⟨120, 64, 200⟩
  | .scene | .global => ⟨sceneWidth, 0, sceneWidth + nodeGap⟩

/-- The width of a node. A column of text takes 8, and 32 are left free beside it. -/
def NodeKind.width (k : NodeKind) (label : String) (content : List Item) : Nat :=
  match k with
  | .scene | .global =>
    max k.footprint.width (max (multilineWidth label) (contentWidth content) * 8 + 32)
  | _ => k.footprint.width

/-- A place in the row. -/
structure Slot where
  x : Nat
  y : Nat
  width : Nat
deriving DecidableEq, Repr

/-- The left edge of the next node. -/
structure Cursor where
  x : Nat
deriving DecidableEq, Repr

namespace Cursor

def start : Cursor := ⟨rowStart⟩

/-- The place of the next node, and the cursor behind it. -/
def place (c : Cursor) (k : NodeKind) (label : String) (content : List Item) : Slot × Cursor :=
  let width := k.width label content
  (⟨c.x, rowStart + k.footprint.drop, width⟩, ⟨c.x + max k.footprint.advance (width + nodeGap)⟩)

end Cursor
end Interaction
