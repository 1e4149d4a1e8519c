import Interaction.Width.Text
import Interaction.Diagram.Basic

/-! # Columns of a body

`contentWidth` counts the columns of the widest item. The items of a flow group are set in by two
columns, those of a group inside it by four, and so on. -/

namespace Interaction

mutual

/-- Columns of an item that is set in by `indent`. -/
def Item.columns (indent : Nat) : Item → Nat
  | .topic t => indent + multilineWidth t
  | .subtopic t => indent + multilineWidth t
  | .binding b => indent + displayWidth b.name + 3 + displayWidth b.value
  | .why t => indent + multilineWidth t
  | .effect t => indent + multilineWidth t
  | .flow _ _ _ children => Item.widest (indent + 2) children
  | .utterance u => indent + 4 + multilineWidth u.text
  | .event e => indent + 6 + multilineWidth e.trigger

/-- Columns of the widest of some items. -/
def Item.widest (indent : Nat) : List Item → Nat
  | [] => 0
  | i :: is => max (i.columns indent) (Item.widest indent is)

end

/-- Columns of the widest item of a body. -/
def contentWidth (is : List Item) : Nat := Item.widest 0 is

end Interaction
