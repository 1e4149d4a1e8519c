/-! # Interaction diagrams

A diagram is a list of elements: scenes, the points where the conversation starts and ends, forks,
system processes and the other parties. What is said in an element is a list of items, and an item
that carries a transition leads to another element. -/

namespace Interaction

/-- The arrow of a transition: `->`, `..>` or `=>`. -/
inductive Arrow where
  | normal
  | repair
  | simultaneous
deriving DecidableEq, Repr

/-- A way out of an element. The target is named and need not exist. -/
structure Transition where
  target : String
  arrow : Arrow
  isPreferred : Bool := false
  why : Option String := none
deriving DecidableEq, Repr

/-- Who speaks: the user, the system, either of them, or nobody in particular. -/
inductive Speaker where
  | user
  | system
  | mixed
  | anonymous
deriving DecidableEq, Repr

/-- Something said, with the clauses that qualify it. -/
structure Utterance where
  speaker : Speaker
  text : String
  condition : Option String := none
  trigger : Option String := none
  binding : Option String := none
  effect : Option String := none
  why : Option String := none
  transition : Option Transition := none
deriving DecidableEq, Repr

/-- A bare transition: nobody says anything. -/
def Utterance.redirect (t : Transition) : Utterance :=
  { speaker := .anonymous, text := "", transition := some t }

/-- Something that happens. -/
structure Event where
  trigger : String
  condition : Option String := none
  transition : Option Transition := none
deriving DecidableEq, Repr

/-- A value given to a name. -/
structure Binding where
  name : String
  value : String
deriving DecidableEq, Repr

/-- How the items of a flow group belong together. -/
inductive Grouping where
  | seq
  | xor
  | or
  | and
  | dialog
deriving DecidableEq, Repr

/-- One entry of an element's body. -/
inductive Item where
  | topic (text : String)
  | subtopic (text : String)
  | binding (b : Binding)
  | why (text : String)
  | effect (text : String)
  | flow (grouping : Grouping) (name condition : Option String) (children : List Item)
  | utterance (u : Utterance)
  | event (e : Event)
deriving Repr

namespace Item

/-- The transition of an utterance or an event. A flow group has none of its own. -/
def transition? : Item → Option Transition
  | .utterance u => u.transition
  | .event e => e.transition
  | _ => none

/-- The item leads out of its element. -/
def isExit (i : Item) : Bool := i.transition?.isSome

mutual

/-- The item and all items inside it, outer ones first. -/
def nested : Item → List Item
  | .flow g n c is => .flow g n c is :: nestedAll is
  | i => [i]

/-- All items of a body and of the groups in it, in reading order. -/
def nestedAll : List Item → List Item
  | [] => []
  | i :: is => i.nested ++ nestedAll is

end

end Item

/-- An alert scene is one that the system opens on its own. -/
inductive SceneVariant where
  | normal
  | alert
deriving DecidableEq, Repr

/-- A topic of conversation. Items that lead out of it are its exits, the others its content. -/
structure Scene where
  id : String
  variant : SceneVariant
  isMain : Bool
  content : List Item
  exits : List Item
deriving Repr

/-- What can be said in every scene. -/
structure Global where
  id : String
  content : List Item
  exits : List Item
deriving Repr

/-- The points where the conversation starts, ends and breaks off. -/
inductive TerminalKind where
  | start
  | finish
  | breakdown
deriving DecidableEq, Repr

/-- A start, end or break point. A start that is only an arrow has a target. -/
structure Terminal where
  kind : TerminalKind
  id : String
  target : Option String
  content : List Item
deriving Repr

/-- A point where the conversation splits. -/
structure Fork where
  id : String
  content : List Item
deriving Repr

/-- The system at work, out of the user's sight. -/
structure Process where
  id : String
  action : Option String
  content : List Item
deriving Repr

/-- Somebody else to talk to. -/
structure Contact where
  id : String
  name : String
  content : List Item
deriving Repr

/-- One declaration of a diagram. An external diagram has a name only. -/
inductive Element where
  | scene (s : Scene)
  | global (g : Global)
  | terminal (t : Terminal)
  | fork (f : Fork)
  | process (p : Process)
  | external (id : String)
  | contact (c : Contact)
deriving Repr

/-- The declarations in the order in which they are written. -/
structure Diagram where
  elements : List Element
deriving Repr

/-- What an element is, as far as its neighbours care. -/
inductive NodeKind where
  | scene
  | global
  | start
  | finish
  | breakdown
  | fork
  | process
  | external
  | contact
deriving DecidableEq, Repr

def TerminalKind.node : TerminalKind → NodeKind
  | .start => .start
  | .finish => .finish
  | .breakdown => .breakdown

namespace Element

def id : Element → String
  | .scene s => s.id
  | .global g => g.id
  | .terminal t => t.id
  | .fork f => f.id
  | .process p => p.id
  | .external id => id
  | .contact c => c.id

def kind : Element → NodeKind
  | .scene _ => .scene
  | .global _ => .global
  | .terminal t => t.kind.node
  | .fork _ => .fork
  | .process _ => .process
  | .external _ => .external
  | .contact _ => .contact

/-- Everything in the element's body: content first, then the exits. -/
def body : Element → List Item
  | .scene s => s.content ++ s.exits
  | .global g => g.content ++ g.exits
  | .terminal t => t.content
  | .fork f => f.content
  | .process p => p.content
  | .external _ => []
  | .contact c => c.content

/-- The items among which the ways out of the element are. -/
def outgoing : Element → List Item
  | .scene s => s.exits
  | .global g => g.exits
  | .terminal t => t.content
  | .fork f => f.content
  | .process p => p.content
  | .external _ => []
  | .contact c => c.content

/-- Who speaks on the ways out of a contact, instead of user or system. -/
def role : Element → Option String
  | .contact c => some c.name
  | _ => none

end Element

end Interaction
