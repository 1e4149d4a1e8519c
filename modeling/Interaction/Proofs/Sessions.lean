import Interaction.Session
import Interaction.Proofs.ArrangementText
import Interaction.Proofs.Restore

/-!
# What a session keeps

Whatever a user does, the graph of a session is that of the last text that could be read, up to
places and anchors (`shows_step`, `shows_run`), and what cannot be read or is not there changes
nothing (`step_of_idle`). An arrangement is remembered until another one is (`saved_run`). So a user
may capture what is on the screen, go on to other texts and other edits, and come back to it
(`run_captured`), also in another session (`run_loaded`).
-/

namespace Interaction
namespace Session

/-- What a user does. -/
inductive Action where
  | submit (source : String)
  | capture
  | load (text : String)
  | forget
  | apply (text : String)
  | edit (e : Edit)
deriving DecidableEq, Repr

/-- The session after an action, whatever the answer was. -/
def step (s : Session) : Action → Session
  | .submit source => (s.submit source).2
  | .capture => s.capture.2
  | .load text => (s.load text).2
  | .forget => s.forget
  | .apply text => s.apply text
  | .edit e => (s.edit e).2

def run (s : Session) (as : List Action) : Session := as.foldl step s

/-- The action finds nothing to work on: the text cannot be read, or what is to be edited is not in
the graph. -/
def Idle (s : Session) : Action → Prop
  | .submit source => ∃ e, Diagram.parse source = .error e
  | .edit e => s.graph.allows e = false
  | .capture | .load _ | .forget | .apply _ => False

namespace Action

/-- The diagram on the screen after an action, if `d` was there before. -/
def shown (d : Diagram) : Action → Diagram
  | .submit source => (Diagram.parse source).toOption.getD d
  | .capture | .load _ | .forget | .apply _ | .edit _ => d

/-- The action replaces the arrangement that the session remembers. -/
def replaces : Action → Bool
  | .capture | .load _ | .forget => true
  | .submit _ | .apply _ | .edit _ => false

end Action

/-- The diagram on the screen after some actions: the last one that could be read. -/
def shownAfter (as : List Action) : Diagram := as.foldl Action.shown ⟨[]⟩

variable {s : Session} {d : Diagram} {source : String}

theorem submit_of_ok (h : Diagram.parse source = .ok d) (s : Session) :
    s.submit source = (.ok (d.draw s.saved), { s with graph := d.draw s.saved }) := by
  rw [submit, compile_eq_ok.2 ⟨d, h, rfl⟩]

theorem submit_of_error {e : SyntaxError} (h : Diagram.parse source = .error e) (s : Session) :
    s.submit source = (.error e, s) := by
  rw [submit, compile, h]
  rfl

theorem step_of_idle {a : Action} (h : s.Idle a) : s.step a = s := by
  cases a with
  | submit source =>
    obtain ⟨e, he⟩ := h
    rw [step, submit_of_error he]
  | edit e =>
    rw [step, edit, Graph.edit_eq_self h]
  | capture | load text | forget | apply text => exact h.elim

/-! ### The graph on the screen -/

theorem shows_step (h : s.graph.Shows d) (a : Action) : (s.step a).graph.Shows (a.shown d) := by
  cases a with
  | submit source =>
    cases hparse : Diagram.parse source with
    | ok d' =>
      rw [step, submit_of_ok hparse, Action.shown, hparse]
      exact .draw d' s.saved
    | error e =>
      rw [step, submit_of_error hparse, Action.shown, hparse]
      exact h
  | capture | load text | forget => exact h
  | apply text => exact h.apply _
  | edit e => exact h.edit e

theorem shows_run (h : s.graph.Shows d) (as : List Action) :
    (s.run as).graph.Shows (as.foldl Action.shown d) := by
  induction as generalizing s d with
  | nil => exact h
  | cons a as ih => exact ih (shows_step h a)

theorem shows_run_start (as : List Action) : (start.run as).graph.Shows (shownAfter as) :=
  shows_run ⟨rfl, rfl, rfl⟩ as

/-! ### The arrangement that is remembered -/

theorem saved_step {a : Action} (h : a.replaces = false) (s : Session) :
    (s.step a).saved = s.saved := by
  cases a with
  | submit source =>
    cases hparse : Diagram.parse source with
    | ok d => rw [step, submit_of_ok hparse]
    | error e => rw [step, submit_of_error hparse]
  | apply text | edit e => rfl
  | capture | load text | forget => cases h

theorem saved_run {as : List Action} (h : ∀ a ∈ as, a.replaces = false) (s : Session) :
    (s.run as).saved = s.saved := by
  induction as generalizing s with
  | nil => rfl
  | cons a as ih =>
    obtain ⟨ha, has⟩ := List.forall_mem_cons.1 h
    exact (ih has (s.step a)).trans (saved_step ha s)

/-! ### Coming back -/

theorem run_append (s : Session) (as bs : List Action) : s.run (as ++ bs) = (s.run as).run bs :=
  List.foldl_append

/-- The arrangement of a graph is remembered until a text of the graph's diagram is drawn. -/
theorem restores_run {g : Graph} {as : List Action} (hg : g.Shows d)
    (hsaved : s.saved = some (.ofGraph g)) (has : ∀ a ∈ as, a.replaces = false)
    (hparse : Diagram.parse source = .ok d) :
    (s.run (as ++ [.submit source])).graph.Restores g d := by
  have hremembered : (s.run as).saved = some (.ofGraph g) := (saved_run has s).trans hsaved
  have hgraph : (s.run (as ++ [.submit source])).graph = d.arranged (.ofGraph g) := by
    rw [run_append]
    show ((s.run as).submit source).2.graph = _
    rw [submit_of_ok hparse, hremembered]
    rfl
  rw [hgraph]
  exact hg.arranged_ofGraph

variable {before between : List Action} (hbetween : ∀ a ∈ between, a.replaces = false)
  (hparse : Diagram.parse source = .ok (shownAfter before))
include hbetween hparse

/-- A user captures what is on the screen, goes on as long as nothing else is to be remembered, and
comes back to a text of what was captured. -/
theorem run_captured :
    (start.run (before ++ .capture :: (between ++ [.submit source]))).graph.Restores
      (start.run before).graph (shownAfter before) := by
  rw [run_append]
  exact restores_run (s := (start.run before).step .capture) (shows_run_start before) rfl hbetween
    hparse

/-- A user keeps what is on the screen in a text, and loads the text in another session. -/
theorem run_loaded (hreads : ∀ n ∈ (start.run before).graph.nodes, n.position.ReadsBack)
    (other : List Action) :
    (start.run (other ++ .load (start.run before).capture.1.text ::
      (between ++ [.submit source]))).graph.Restores
        (start.run before).graph (shownAfter before) := by
  have hread : Arrangement.readOrEmpty (start.run before).capture.1.text =
      .ofGraph (start.run before).graph :=
    Arrangement.readOrEmpty_of_read
      (Arrangement.read_text_of_readsBack (List.forall_mem_map.2 hreads))
  rw [run_append]
  exact restores_run (s := (start.run other).step (.load _)) (shows_run_start before)
    (congrArg some hread) hbetween hparse

end Session
end Interaction
