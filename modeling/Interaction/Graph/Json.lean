import Interaction.Graph.Basic
import Interaction.Diagram.Json

/-! # Graphs as JSON -/

namespace Interaction
open Json

/-- There is no number for what is not finite. -/
def Coordinate.toJson : Coordinate → Json
  | .finite x => .number x
  | .infinite _ | .notANumber => .null

def Position.toJson (p : Position) : Json := .object [("x", p.x.toJson), ("y", p.y.toJson)]

def Node.toJson (n : Node) : Json :=
  .object [("id", .string n.id), ("type", .string n.kind.word), ("position", n.position.toJson),
    ("width", .number (.ofNat n.width)),
    ("data", .object ([("label", .string n.label), ("rawContent", Item.bodyToJson n.content),
      ("isGlobal", .bool (n.kind = .global)), ("isMain", .bool n.isMain),
      ("variant", .string n.variant.word)] ++ member? "action" .string n.action))]

def LineRole.word : LineRole → String
  | .trigger => "when"
  | .condition => "condition"
  | .main => "main"
  | .binding => "let"
  | .effect => "effect"
  | .why => "why"

def LabelLine.toJson (l : LabelLine) : Json :=
  .object [("role", .string l.role.word), ("text", .string l.text)]

/-- The lines of a label, one by one. -/
def EdgeLabel.linesToJson (l : EdgeLabel) : Json := .array (l.lines.map LabelLine.toJson)

def EdgeLabel.toJson (l : EdgeLabel) : Json := .object [("lines", l.linesToJson)]

namespace EdgeKind

def word : EdgeKind → String
  | .normal => "normal"
  | .repair => "repair"
  | .mediated => "mediated"
  | .simultaneous => "simultaneous"

/-- The renderer's name for the edges of this kind. -/
def renderer : EdgeKind → String
  | .simultaneous => "simultaneous"
  | _ => "molic"

def styleToJson (k : EdgeKind) (isPreferred : Bool) : Json :=
  .object ([("strokeWidth", .number (strokeWidth isPreferred))] ++
    member? "dashPattern" .string k.dashPattern?)

end EdgeKind

def Marker.word : Marker → String
  | .arrowClosed => "arrowClosed"
  | .doubleArrowhead => "doubleArrowhead"

/-- The head of an edge of this kind. -/
def EdgeKind.markerToJson (k : EdgeKind) : Json := orNull (Json.string ·.word) k.marker?

def Edge.toJson (e : Edge) : Json :=
  .object [("id", .string e.id), ("source", .string e.source), ("target", .string e.target),
    ("sourceHandle", .string e.sourceHandle), ("targetHandle", .string e.targetHandle),
    ("label", orNull EdgeLabel.toJson e.label), ("type", .string e.kind.renderer),
    ("className", .string e.kind.word), ("style", e.kind.styleToJson e.isPreferred),
    ("markerEnd", e.kind.markerToJson)]

def Graph.toJson (g : Graph) : Json :=
  .object [("nodes", .array (g.nodes.map Node.toJson)), ("edges", .array (g.edges.map Edge.toJson)),
    ("diagnostics", .array (g.diagnostics.map (Json.string ·.message)))]

end Interaction
