import Interaction.Diagram.Basic
import Interaction.Json.Basic

/-! # Diagrams as JSON

Each element and each item is an object with its sort under `type`. Clauses that an item lacks are
left out; only the action of a process is `null` instead. -/

namespace Interaction

def SceneVariant.word : SceneVariant → String
  | .normal => "normal"
  | .alert => "alert"

def TerminalKind.word : TerminalKind → String
  | .start => "start"
  | .finish => "end"
  | .breakdown => "break"

def NodeKind.word : NodeKind → String
  | .scene => "scene"
  | .global => "global"
  | .start => "start"
  | .finish => "end"
  | .breakdown => "break"
  | .fork => "fork"
  | .process => "process"
  | .external => "external"
  | .contact => "contact"

def Arrow.word : Arrow → String
  | .normal => "normal"
  | .repair => "repair"
  | .simultaneous => "simultaneous"

def Speaker.word : Speaker → String
  | .user => "user"
  | .system => "system"
  | .mixed => "mixed"
  | .anonymous => "anonymous"

def Grouping.word : Grouping → String
  | .seq => "seq"
  | .xor => "xor"
  | .or => "or"
  | .and => "and"
  | .dialog => "dialog"

open Json

def Transition.toJson (t : Transition) : Json :=
  .object ([("targetId", .string t.target), ("kind", .string t.arrow.word),
    ("isPreferred", .bool t.isPreferred)] ++ member? "why" .string t.why)

/-- An object of the sort `type`. -/
def Json.tagged (type : String) (members : List (String × Json)) : Json :=
  .object (("type", .string type) :: members)

def Utterance.toJson (u : Utterance) : Json :=
  .tagged "utterance" ([("speaker", .string u.speaker.word), ("text", .string u.text)] ++
    member? "condition" .string u.condition ++ member? "when" .string u.trigger ++
    member? "let" .string u.binding ++ member? "effect" .string u.effect ++
    member? "why" .string u.why ++ member? "transition" Transition.toJson u.transition)

def Event.toJson (e : Event) : Json :=
  .tagged "event" ([("trigger", .string e.trigger)] ++ member? "condition" .string e.condition ++
    member? "transition" Transition.toJson e.transition)

mutual

def Item.toJson : Item → Json
  | .topic t => .tagged "topic" [("text", .string t)]
  | .subtopic t => .tagged "subtopic" [("text", .string t)]
  | .binding b => .tagged "let" [("variable", .string b.name), ("value", .string b.value)]
  | .why t => .tagged "why" [("text", .string t)]
  | .effect t => .tagged "effect" [("text", .string t)]
  | .flow g name condition children =>
    .tagged "flow" ([("variant", .string g.word)] ++ member? "name" .string name ++
      member? "condition" .string condition ++ [("children", .array (Item.listToJson children))])
  | .utterance u => u.toJson
  | .event e => e.toJson

def Item.listToJson : List Item → List Json
  | [] => []
  | i :: is => i.toJson :: Item.listToJson is

end

/-- The items of a body. -/
def Item.bodyToJson (is : List Item) : Json := .array (Item.listToJson is)

def Element.toJson : Element → Json
  | .scene s =>
    .tagged "scene" [("id", .string s.id), ("variant", .string s.variant.word),
      ("isMain", .bool s.isMain), ("content", Item.bodyToJson s.content),
      ("exits", Item.bodyToJson s.exits)]
  | .global g =>
    .tagged "global" [("id", .string g.id), ("content", Item.bodyToJson g.content),
      ("exits", Item.bodyToJson g.exits)]
  | .terminal t =>
    .tagged "terminal" ([("kind", .string t.kind.word), ("id", .string t.id)] ++
      member? "targetId" .string t.target ++ [("content", Item.bodyToJson t.content)])
  | .fork f => .tagged "fork" [("id", .string f.id), ("content", Item.bodyToJson f.content)]
  | .process p =>
    .tagged "process" [("id", .string p.id), ("action", orNull .string p.action),
      ("content", Item.bodyToJson p.content)]
  | .external id => .tagged "external" [("id", .string id)]
  | .contact c =>
    .tagged "contact" [("id", .string c.id), ("name", .string c.name),
      ("content", Item.bodyToJson c.content)]

def Diagram.toJson (d : Diagram) : Json :=
  .object [("elements", .array (d.elements.map Element.toJson))]

end Interaction
