import Interaction.Graph.Basic

/-! # Edits of a graph

What a user does to a graph on the screen: nodes are moved and edges connected elsewhere. -/

namespace Interaction

/-- Changes the first of `as` that `p` holds for. -/
def updateFirst {α : Type} (p : α → Bool) (f : α → α) : List α → List α
  | [] => []
  | a :: as => if p a then f a :: as else a :: updateFirst p f as

theorem updateFirst_of_none {α : Type} {p : α → Bool} {f : α → α} {as : List α}
    (h : ∀ a ∈ as, p a = false) : updateFirst p f as = as := by
  induction as with
  | nil => rfl
  | cons a as ih =>
    simp only [List.mem_cons, forall_eq_or_imp] at h
    simp [updateFirst, h.1, ih h.2]

namespace Edge

/-- The edge at other anchors. An end without an anchor stays. -/
def connect (e : Edge) (source target : Option String) : Edge :=
  { e with
    sourceHandle := source.getD e.sourceHandle
    targetHandle := target.getD e.targetHandle }

end Edge

/-- One change to the first node or edge of an id. -/
inductive Edit where
  | move (id : String) (position : Position)
  | connect (id : String) (source target : Option String)
deriving DecidableEq, Repr

namespace Graph

/-- There is something that the edit changes. -/
def allows (g : Graph) : Edit → Bool
  | .move id _ => (g.node? id).isSome
  | .connect id _ _ => (g.edge? id).isSome

def edit (g : Graph) : Edit → Graph
  | .move id position =>
    { g with nodes := updateFirst (·.id = id) ({ · with position }) g.nodes }
  | .connect id source target =>
    { g with edges := updateFirst (·.id = id) (·.connect source target) g.edges }

/-- An edit of what is not there changes nothing. -/
theorem edit_eq_self {g : Graph} {e : Edit} (h : g.allows e = false) : g.edit e = g := by
  cases e with
  | move id position =>
    have hnone : ∀ n ∈ g.nodes, decide (n.id = id) = false := by simpa [allows, node?] using h
    rw [edit, updateFirst_of_none hnone]
  | connect id source target =>
    have hnone : ∀ e ∈ g.edges, decide (e.id = id) = false := by simpa [allows, edge?] using h
    rw [edit, updateFirst_of_none hnone]

end Graph
end Interaction
