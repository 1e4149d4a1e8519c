import Interaction.Diagram.Basic

/-! # Labels of edges

A label has a line for each part of an item, in the order of `LineRole`. -/

namespace Interaction

/-- What a line of a label tells. -/
inductive LineRole where
  | trigger
  | condition
  | main
  | binding
  | effect
  | why
deriving DecidableEq, Repr

structure LabelLine where
  role : LineRole
  text : String
deriving DecidableEq, Repr

/-- A label with at least one line. -/
structure EdgeLabel where
  lines : List LabelLine
deriving DecidableEq, Repr

namespace EdgeLabel

/-- The lines as one text. -/
def text (l : EdgeLabel) : String := "\n".intercalate (l.lines.map (·.text))

/-- A label of the given lines, if there are any. -/
def ofLines? (lines : List LabelLine) : Option EdgeLabel :=
  if lines.isEmpty then none else some ⟨lines⟩

end EdgeLabel

/-- What stands in front of a speaker's words. -/
def Speaker.mark : Speaker → String
  | .user => "u: "
  | .system => "d: "
  | .mixed => "d+u: "
  | .anonymous => ""

/-- A line for a part that need not be there. -/
def LabelLine.clause (role : LineRole) (mark : String) (part : Option String) : List LabelLine :=
  (part.map fun t => ⟨role, mark ++ t⟩).toList

/-- The words of an utterance. The name of a contact stands in for the speaker. -/
def Utterance.spoken (u : Utterance) (contact : Option String) : String :=
  match contact with
  | some name => name ++ ": " ++ u.text
  | none => u.speaker.mark ++ u.text

/-- The reason given for a transition comes before the one given for its utterance. -/
def Utterance.reason (u : Utterance) : Option String := (u.transition.bind (·.why)).or u.why

def Utterance.labelLines (u : Utterance) (contact : Option String) : List LabelLine :=
  let spoken := u.spoken contact
  LabelLine.clause .trigger "when: " u.trigger ++
  LabelLine.clause .condition "if: " u.condition ++
  (if spoken.isEmpty then [] else [⟨.main, spoken⟩]) ++
  LabelLine.clause .binding "let: " u.binding ++
  LabelLine.clause .effect "effect: " u.effect ++
  LabelLine.clause .why "why: " u.reason

def Event.labelLines (e : Event) : List LabelLine :=
  ⟨.trigger, "when: " ++ e.trigger⟩ ::
    (LabelLine.clause .condition "if: " e.condition ++
      LabelLine.clause .why "why: " (e.transition.bind (·.why)))

/-- The label of an item. Simultaneous transitions have none. -/
def Item.label? (i : Item) (contact : Option String) : Option EdgeLabel :=
  if i.transition?.any (·.arrow = .simultaneous) then none
  else match i with
    | .utterance u => EdgeLabel.ofLines? (u.labelLines contact)
    | .event e => EdgeLabel.ofLines? e.labelLines
    | _ => none

end Interaction
