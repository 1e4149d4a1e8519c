import Interaction.Source.Item

/-! # Elements and whole diagrams

A word says what an element is. Behind it nothing is refused any more: what does not fit is an
error. -/

namespace Interaction.Source
open Rule

/-- The body of a scene, parted into its content and its exits. -/
def sceneBody : Rule (List Item × List Item) := do
  let is ← body
  pure (is.filter (! ·.isExit), is.filter (·.isExit))

/-- The word `scene`; in front of it `main` may stand, and then `scene` has to follow. -/
def sceneHead : Rule Bool := do
  match ← (keyword "main").optional with
  | none =>
    keyword "scene"
    pure false
  | some _ =>
    spaced ((mark "scene").orFail .missingScene)
    wordEnd.orFail .missingScene
    pure true

/-- The name of a scene, perhaps behind `alert`. A scene may itself be called `alert`. -/
def sceneName : Rule (SceneVariant × String) :=
  (do
    keyword "alert"
    let id ← spaced name
    pure (.alert, id)) <|>
  (do
    let id ← expectName
    pure (.normal, id))

def scene : Rule Scene := do
  let isMain ← sceneHead
  let (variant, id) ← spaced sceneName
  let (content, exits) ← sceneBody
  pure { id, variant, isMain, content, exits }

def global : Rule Global := do
  keyword "global"
  let id ← spaced expectName
  let (content, exits) ← sceneBody
  pure { id, content, exits }

/-- An utterance or a bare arrow. -/
def departure : Rule Item :=
  Item.utterance <$> (utterance <|> (Utterance.redirect <$> transition))

def terminalKind : Rule TerminalKind :=
  (do keyword "start"; pure .start) <|>
  (do keyword "end"; pure .finish) <|>
  (do keyword "break"; pure .breakdown)

/-- An arrow or a body is behind a start and nothing behind the other points. -/
def terminal : Rule Terminal := do
  let kind ← terminalKind
  let id ← spaced expectName
  if kind = .start then
    trivia
    match ← transition.optional with
    | some t => pure { kind, id, target := some t.target, content := [.utterance (.redirect t)] }
    | none =>
      let content ← braced departure
      pure { kind, id, target := none, content }
  else pure { kind, id, target := none, content := [] }

def fork : Rule Fork := do
  keyword "fork"
  let id ← spaced expectName
  let content ← braced departure
  pure { id, content }

/-- The text starts with `c`, which stays. -/
def isNext (c : Char) : Rule Bool := fun s => .read (s.head? == some c) s

/-- A process may have an action, and a body or an arrow behind it. -/
def process : Rule Process := do
  keyword "process"
  let id ← spaced expectName
  let action ← (spaced text).optional
  trivia
  if ← isNext '{' then
    let content ← body
    pure { id, action, content }
  else
    let t ← transition.optional
    pure { id, action, content := (t.map (Item.utterance ∘ .redirect)).toList }

def external : Rule String := do
  keyword "external"
  spaced expectName

/-- `role -> Target "label"`, a transition with a text but no speaker. -/
def roleItem : Rule Item := do
  keyword "role"
  let t ← spaced (transition.orFail .unexpected)
  let label ← (spaced text).optional
  pure (.utterance { speaker := .anonymous, text := label.getD "", transition := some t })

/-- A role name, or an item. -/
def contactItem : Rule (String ⊕ Item) :=
  (Sum.inl <$> labelled "role:") <|>
  (Sum.inr <$> roleItem) <|>
  ((Sum.inr ∘ Item.utterance) <$> utterance)

/-- The last role name is the contact's name, which is otherwise its id. -/
def contact : Rule Contact := do
  keyword "contact"
  let id ← spaced expectName
  let items ← braced contactItem
  let roles := items.filterMap Sum.getLeft?
  pure { id, name := roles.getLast?.getD id, content := items.filterMap Sum.getRight? }

def element : Rule Element :=
  (Element.scene <$> scene) <|>
  (Element.global <$> global) <|>
  (Element.terminal <$> terminal) <|>
  (Element.fork <$> fork) <|>
  (Element.process <$> process) <|>
  (Element.external <$> external) <|>
  (Element.contact <$> contact)

/-- Elements up to the end of the text. -/
def diagram : Rule Diagram := do
  let elements ← many (spaced element)
  spaced (atEnd.orFail .notAnElement)
  pure { elements }

end Interaction.Source

namespace Interaction

/-- The diagram that `source` describes. -/
def Diagram.parse (source : String) : Except SyntaxError Diagram :=
  match Source.diagram source.toList with
  | .read d _ => .ok d
  | .refused => .error (.before source.toList source.toList .unexpected)
  | .failed e r => .error (.before source.toList r e)

theorem Diagram.parse_eq_ok {source : String} {d : Diagram} :
    parse source = .ok d ↔ ∃ r, Source.diagram source.toList = .read d r := by
  unfold parse
  cases Source.diagram source.toList <;> simp

end Interaction
