import Interaction.Source.Token

/-! # Items of a body

What stands between the braces of an element: topics, bindings, reasons, effects, flow groups,
utterances and events. Clauses attach to the utterance they follow for as long as they can. -/

namespace Interaction.Source
open Rule

/-- A qualification of an utterance. -/
inductive Clause where
  | condition (text : String)
  | trigger (text : String)
  | binding (text : String)
  | effect (text : String)
  | why (text : String)
deriving DecidableEq, Repr

/-- The utterance with one clause more. A later clause of a sort replaces an earlier one. -/
def Clause.addTo (u : Utterance) : Clause → Utterance
  | .condition t => { u with condition := some t }
  | .trigger t => { u with trigger := some t }
  | .binding t => { u with binding := some t }
  | .effect t => { u with effect := some t }
  | .why t => { u with why := some t }

/-- The utterance with a clause behind its arrow, where a reason is a reason for the transition. -/
def Clause.addBehindArrow (u : Utterance) : Clause → Utterance
  | .why t => { u with transition := u.transition.map ({ · with why := some t }) }
  | c => c.addTo u

def condition : Rule String := do
  mark "if:" <|> keyword "if"
  spaced expectText

/-- Nothing, unless `c` is next. -/
def notNext (c : Char) : Rule Unit
  | [] => .read () []
  | d :: s => if d = c then .refused else .read () (d :: s)

/-- A clause that may also stand behind the arrow. Without a text, `let:` is a binding instead. -/
def tailClause : Rule Clause :=
  (do
    mark "let:"
    let t ← spaced text
    pure (.binding t)) <|>
  (Clause.effect <$> labelled "effect:") <|>
  (Clause.why <$> labelled "why:")

/-- A clause in front of the arrow. A trigger has no colon, because `when:` starts an event. -/
def clause : Rule Clause :=
  (Clause.condition <$> condition) <|>
  (do
    keyword "when"
    notNext ':'
    let t ← spaced expectText
    pure (.trigger t)) <|>
  tailClause

def speaker : Rule Speaker :=
  (do mark "du:"; pure .mixed) <|>
  (do mark "d:"; pure .system) <|>
  (do mark "u:"; pure .user) <|>
  (do mark "anon:"; pure .anonymous)

/-- The way out of the utterance `u`, if there is one, and the clauses behind it. -/
def exitOf (u : Utterance) (isPreferred : Bool) : Rule Utterance := do
  match ← (spaced transition).optional with
  | none => pure u
  | some t =>
    let tail ← many (spaced tailClause)
    let u := { u with transition := some { t with isPreferred } }
    pure (tail.foldl Clause.addBehindArrow u)

def utterance : Rule Utterance := do
  let preferred ← (do keyword "preferred"; trivia).optional
  let speaker ← if preferred.isSome then speaker.orFail .unexpected else speaker
  let text ← spaced expectText
  let clauses ← many (spaced clause)
  exitOf (clauses.foldl Clause.addTo { speaker, text }) preferred.isSome

/-- The utterance rule as a chain of rules, the speaker one of them. -/
theorem utterance_eq : utterance =
    (do keyword "preferred"; trivia : Rule Unit).optional >>= fun preferred =>
      (if preferred.isSome then speaker.orFail .unexpected else speaker) >>= fun speaker =>
        spaced expectText >>= fun text => many (spaced clause) >>= fun clauses =>
          exitOf (clauses.foldl Clause.addTo { speaker, text }) preferred.isSome := by
  unfold utterance
  congr 1
  funext preferred
  cases preferred <;> rfl

def event : Rule Event := do
  let trigger ← labelled "when:"
  let condition ← (spaced condition).optional
  let transition ← (spaced transition).optional
  pure { trigger, condition, transition }

/-- `let name = value`, the value a text or a name. -/
def binding : Rule Binding := do
  keyword "let"
  let _ ← (mark ":").optional
  let name ← spaced name
  spaced (expectMark '=')
  let value ← spaced ((text <|> Source.name).orFail .missingName)
  pure { name, value }

def grouping : Rule Grouping :=
  (do keyword "seq"; pure .seq) <|>
  (do keyword "xor"; pure .xor) <|>
  (do keyword "or"; pure .or) <|>
  (do keyword "and"; pure .and) <|>
  (do keyword "dialog"; pure .dialog)

/-- A flow group whose children `inner` reads. Dialogs may have a name, other groups a condition. -/
def flow (inner : Rule (List Item)) : Rule Item := do
  let g ← grouping
  trivia
  let name ← if g = .dialog then name.optional else pure none
  let condition ← if g = .dialog then pure none else condition.optional
  let children ← inner
  pure (.flow g name condition children)

theorem flow_eq (inner : Rule (List Item)) : flow inner =
    grouping >>= fun g => trivia >>= fun _ =>
      (if g = .dialog then name.optional else pure none) >>= fun name =>
        (if g = .dialog then pure none else condition.optional) >>= fun condition =>
          inner >>= fun children => pure (.flow g name condition children) := by
  unfold flow
  congr 1
  funext g
  cases g <;> rfl

/-- One item. `inner` reads the children of a flow group. -/
def item (inner : Rule (List Item)) : Rule Item :=
  (Item.topic <$> labelled "topic:") <|>
  (Item.subtopic <$> labelled "subtopic:") <|>
  (Item.binding <$> binding) <|>
  (Item.why <$> labelled "why:") <|>
  (Item.effect <$> labelled "effect:") <|>
  flow inner <|>
  (Item.utterance <$> utterance) <|>
  (Item.event <$> event)

/-- What `p` reads, any number of times, between braces. -/
def braced {α : Type} (p : Rule α) : Rule (List α) := do
  spaced (expectMark '{')
  let as ← many (spaced p)
  spaced (expectMark '}')
  pure as

/-- A body in which flow groups may nest less than `levels` deep. -/
def block : Nat → Rule (List Item)
  | 0 => fail .nestedTooDeep
  | levels + 1 => braced (item (block levels))

/-- Flow groups nest at most so deep. -/
def maxNesting : Nat := 64

/-- The body of an element. -/
def body : Rule (List Item) := block (maxNesting + 1)

end Interaction.Source
