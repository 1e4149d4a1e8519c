import Interaction.Proofs.Overlay

/-!
# Reloading nodes of one id

The arrangement of a graph has an entry for each node, but it is asked by id, and the last entry of
an id is the answer. So a reload gathers the nodes of an id where the last of them was
(`Shows.nodes_apply_eq`). All positions survive exactly if namesakes lay at one place already
(`map_gather_eq_iff`), and the last node of an id stays in any case (`gather_of_split`).
-/

namespace Interaction
namespace Graph
variable {g g' : Graph} {n : Node} {id : String}

/-- The last node of an id. -/
def lastNode? (g : Graph) (id : String) : Option Node := g.nodes.reverse.find? (·.id = id)

/-- A node where the last node of its id is. -/
def gather (g : Graph) (n : Node) : Node :=
  { n with position := ((g.lastNode? n.id).getD n).position }

theorem exists_lastNode (h : n ∈ g.nodes) :
    ∃ m ∈ g.nodes, g.lastNode? n.id = some m ∧ m.id = n.id := by
  have hfound : (g.lastNode? n.id).isSome = true := by
    rw [lastNode?, List.find?_isSome]
    exact ⟨n, List.mem_reverse.2 h, by simp⟩
  obtain ⟨m, hm⟩ := Option.isSome_iff_exists.1 hfound
  have hid : m.id = n.id := by simpa using List.find?_some hm
  exact ⟨m, List.mem_reverse.1 (List.mem_of_find?_eq_some hm), hm, hid⟩

theorem gather_of_split {before behind : List Node} (h : g.nodes = before ++ n :: behind)
    (hlast : n.id ∉ behind.map Node.id) : g.gather n = n := by
  have hbehind : behind.reverse.find? (·.id = n.id) = none := by
    rw [List.find?_eq_none]
    intro m hm hid
    exact hlast (List.mem_map.2 ⟨m, List.mem_reverse.1 hm, by simpa using hid⟩)
  have hself : g.lastNode? n.id = some n := by
    rw [lastNode?, h, List.reverse_append, List.reverse_cons, List.find?_append,
      List.find?_append, hbehind]
    simp
  rw [gather, hself]
  rfl

/-- Namesakes come to lie at one place. -/
theorem position_gather {m : Node} (hn : n ∈ g.nodes) (hid : n.id = m.id) :
    (g.gather n).position = (g.gather m).position := by
  obtain ⟨l, -, hl, -⟩ := exists_lastNode hn
  rw [gather, gather, ← hid, hl]
  rfl

theorem map_gather_eq_iff : g.nodes.map g.gather = g.nodes ↔
    ∀ n ∈ g.nodes, ∀ m ∈ g.nodes, n.id = m.id → n.position = m.position := by
  constructor
  · intro h n hn m hm hid
    have hstays : ∀ l ∈ g.nodes, g.gather l = l :=
      List.map_inj_left.1 (h.trans (List.map_id _).symm)
    rw [← hstays n hn, ← hstays m hm]
    exact position_gather hn hid
  · intro h
    refine (List.map_congr_left fun n hn => ?_).trans (List.map_id _)
    obtain ⟨m, hm, hlast, hid⟩ := exists_lastNode hn
    rw [gather, hlast]
    show { n with position := m.position } = n
    rw [← h n hn m hm hid.symm]

theorem position?_ofGraph_eq (g : Graph) (id : String) :
    (Arrangement.ofGraph g).position? id = (g.lastNode? id).map Node.position := by
  rw [Arrangement.position?, Arrangement.ofGraph, ← List.map_reverse, List.find?_map, lastNode?,
    Option.map_map]
  rfl

theorem placeNode_eq_gather (hn : n ∈ g.nodes) {n' : Node} (hloose : n'.loose = n.loose) :
    (Arrangement.ofGraph g).placeNode n' = g.gather n := by
  have hid : n'.id = n.id := by rw [← Node.id_loose, hloose, Node.id_loose]
  obtain ⟨m, -, hlast, -⟩ := exists_lastNode hn
  rw [Arrangement.placeNode, hid, position?_ofGraph_eq, gather, hlast]
  cases n
  cases n'
  simp_all [Node.loose]

theorem Shows.nodes_apply_eq {d : Diagram} (h : g.Shows d) (h' : g'.Shows d) :
    ((Arrangement.ofGraph g).apply g').nodes = g.nodes.map g.gather := by
  refine map_eq_of_map_eq (f := Node.loose) ?_ ?_
  · rw [List.map_map]
    exact h'.nodes.trans h.nodes.symm
  · intro a ha n' hloose
    obtain ⟨n, hn, rfl⟩ := List.mem_map.1 ha
    exact placeNode_eq_gather hn hloose

end Graph

/-- Drawn again under its own arrangement, a graph has each node where the last node of its id was.
If no two nodes of an id lay at different places, that is where they were. -/
theorem compile_ofGraph_gathered {source : String} {saved : Option Arrangement} {g : Graph}
    (h : compile source saved = .ok g) :
    ∃ g', compile source (some (.ofGraph g)) = .ok g' ∧ g'.nodes = g.nodes.map g.gather ∧
      (g'.nodes = g.nodes ↔
        ∀ n ∈ g.nodes, ∀ m ∈ g.nodes, n.id = m.id → n.position = m.position) ∧
      ((g.nodes.map Node.id).Nodup → g'.nodes = g.nodes) ∧
      (∀ before n behind, g.nodes = before ++ n :: behind → n.id ∉ behind.map Node.id →
        g'.nodes[before.length]? = some n) ∧
      ∀ n ∈ g'.nodes, ∀ m ∈ g'.nodes, n.id = m.id → n.position = m.position := by
  obtain ⟨d, hparse, rfl⟩ := compile_eq_ok.1 h
  set g := d.draw saved
  have hshows : g.Shows d := Graph.Shows.draw d saved
  have hnodes : (d.arranged (.ofGraph g)).nodes = g.nodes.map g.gather :=
    hshows.nodes_apply_eq (Graph.Shows.toGraph d _)
  refine ⟨d.arranged (.ofGraph g), compile_eq_ok.2 ⟨d, hparse, rfl⟩, hnodes, ?_, ?_, ?_, ?_⟩
  · rw [hnodes]
    exact Graph.map_gather_eq_iff
  · intro hnodup
    rw [hnodes, Graph.map_gather_eq_iff]
    intro n hn m hm hid
    rw [List.inj_on_of_nodup_map hnodup hn hm hid]
  · intro before n behind hsplit hlast
    rw [hnodes, hsplit, List.map_append, List.map_cons, Graph.gather_of_split hsplit hlast]
    simp
  · rw [hnodes]
    intro n' hn' m' hm' hid
    obtain ⟨n, hn, rfl⟩ := List.mem_map.1 hn'
    obtain ⟨m, hm, rfl⟩ := List.mem_map.1 hm'
    exact Graph.position_gather hn hid

/-- The first and the last of three scenes in a row have one id. -/
def namesakes : String := "scene A \x7b\x7d\nscene B \x7b\x7d\nscene A \x7b\x7d"

theorem eq_ok_of_toOption {ε α : Type} {x : Except ε α} {a : α} (h : x.toOption = some a) :
    x = .ok a := by
  cases x with
  | error e => cases h
  | ok b => exact congrArg Except.ok (Option.some.inj h)

theorem reload_namesakes : ∃ g g', compile namesakes none = .ok g ∧
    compile namesakes (some (.ofGraph g)) = .ok g' ∧
    g.nodes.map (·.position.x) = [.finite (.ofNat 50), .finite (.ofNat 350), .finite (.ofNat 650)] ∧
    g'.nodes.map (·.position.x) =
      [.finite (.ofNat 650), .finite (.ofNat 350), .finite (.ofNat 650)] := by
  have hbefore : (compile namesakes none).toOption.map (·.nodes.map (·.position.x)) =
      some [.finite (.ofNat 50), .finite (.ofNat 350), .finite (.ofNat 650)] := by
    decide +kernel
  have hafter : (compile namesakes none).toOption.bind (fun g =>
      (compile namesakes (some (.ofGraph g))).toOption.map (·.nodes.map (·.position.x))) =
      some [.finite (.ofNat 650), .finite (.ofNat 350), .finite (.ofNat 650)] := by
    decide +kernel
  obtain ⟨g, hg, hreload⟩ := Option.bind_eq_some_iff.1 hafter
  obtain ⟨g', hg', hcolumns⟩ := Option.map_eq_some_iff.1 hreload
  rw [hg] at hbefore
  exact ⟨g, g', eq_ok_of_toOption hg, eq_ok_of_toOption hg', Option.some.inj hbefore, hcolumns⟩

/-- The first scene comes to lie on the last one. -/
theorem compile_ofGraph_gathered_namesakes : ∃ g g', compile namesakes none = .ok g ∧
    compile namesakes (some (.ofGraph g)) = .ok g' ∧ g'.nodes = g.nodes.map g.gather ∧
    g'.nodes.map (·.position.x) =
      [.finite (.ofNat 650), .finite (.ofNat 350), .finite (.ofNat 650)] := by
  obtain ⟨g, g', hg, hg', -, hafter⟩ := reload_namesakes
  obtain ⟨g'', hg'', hnodes, -⟩ := compile_ofGraph_gathered hg
  rw [hg'] at hg''
  cases hg''
  exact ⟨g, g', hg, hg', hnodes, hafter⟩

/-- Positions of namesakes need not survive. -/
theorem not_keeps_positions : ¬ ∀ source g, compile source none = .ok g →
    ∃ g', compile source (some (.ofGraph g)) = .ok g' ∧
      g'.nodes.map Node.position = g.nodes.map Node.position := by
  intro hkeeps
  obtain ⟨g, g', hg, hg', hbefore, hafter⟩ := reload_namesakes
  obtain ⟨g'', hg'', hpositions⟩ := hkeeps namesakes g hg
  rw [hg'] at hg''
  cases hg''
  have hcolumns := congrArg (List.map Position.x) hpositions
  rw [List.map_map, List.map_map] at hcolumns
  have hsame := hafter.symm.trans (hcolumns.trans hbefore)
  revert hsame
  decide +kernel

end Interaction
