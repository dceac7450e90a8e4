import FieldGraph.Proofs.Graph.Preservation

/-!
# Graphs that grow

Commands that add nodes, set parameters of the newest node and make connections only append to a
graph. What they append is said by `plus`, which gives the whole graph and so leaves no room for
anything else to change.
-/

namespace FieldGraph

namespace Graph

/-- The graph with further nodes and connections. If it has no output yet, then the first node
among them that ends graphs is its output. -/
def plus (g : Graph) (added : List Node) (made : List Connection) : Graph :=
  { g with
    nodes := g.nodes ++ added
    conns := g.conns ++ made
    feeds := (made.map fun c => (c.dst, c.id)).reverse ++ g.feeds
    output := g.output.or ((added.find? (·.kind.isOutput)).map (·.id))
    lastNode := g.lastNode + added.length
    lastConn := g.lastConn + made.length }

variable {g : Graph}

@[simp] theorem plus_nil (g : Graph) : g.plus [] [] = g := by
  simp [plus]

/-- What is appended in turn is appended. -/
theorem plus_plus (g : Graph) (added more : List Node) (made joined : List Connection) :
    (g.plus added made).plus more joined = g.plus (added ++ more) (made ++ joined) := by
  simp [plus, Option.map_or, Option.or_assoc, Int.add_assoc]

/-- A pushed node is appended. -/
theorem pushNode_eq_plus (g : Graph) (kind : Kind) :
    (g.pushNode kind).2 =
      g.plus [{ id := g.lastNode + 1, kind, params := kind.defaults }] [] := by
  cases hout : kind.isOutput <;> cases hg : g.output <;> simp [pushNode, plus, hout, hg]

/-- A pushed connection is appended if nothing fed its destination. -/
theorem pushConn_eq_plus {src dst : Port} (hfree : g.feed? dst = none) :
    (g.pushConn src dst).2 = g.plus [] [⟨g.lastConn + 1, src, dst⟩] := by
  simp [pushConn, plus, filter_feeds_of_free hfree]

/-- Updating the appended node leaves all others alone. -/
theorem updateNode_plus {n : Node} (hnew : ∀ m ∈ g.nodes, m.id ≠ n.id) {f : Node → Node}
    (hid : (f n).id = n.id) (hkind : (f n).kind = n.kind) :
    (g.plus [n] []).updateNode n.id f = g.plus [f n] [] := by
  have hothers : g.nodes.map (fun m => if m.id = n.id then f m else m) = g.nodes := by
    refine (List.map_congr_left fun m hm => ?_).trans (List.map_id' _)
    exact if_neg (hnew m hm)
  have hout : [f n].find? (·.kind.isOutput) = ([n].find? (·.kind.isOutput)).map f := by
    cases h : n.kind.isOutput <;> simp [hkind, h]
  have hsame : (Option.map f ([n].find? (·.kind.isOutput))).map (·.id) =
      ([n].find? (·.kind.isOutput)).map (·.id) := by
    cases h : n.kind.isOutput <;> simp [hid, h]
  simp only [updateNode, plus, List.map_append, hothers, hout, hsame, List.map_singleton, if_true,
    List.length_singleton]

/-- An appended node has a number that no other node has. -/
theorem WellFormed.ne_next (h : g.WellFormed) : ∀ m ∈ g.nodes, m.id ≠ g.lastNode + 1 :=
  fun m hm => (h.nodeIds m hm).next.2.ne

/-- The appended node is found under its number. -/
theorem node?_plus {n : Node} (hnew : ∀ m ∈ g.nodes, m.id ≠ n.id) :
    (g.plus [n] []).node? n.id = some n := by
  have hothers : g.nodes.find? (·.id == n.id) = none :=
    List.find?_eq_none.mpr fun m hm => by simpa using hnew m hm
  simp [node?, plus, List.find?_append, hothers]

/-- A port is found by the names of its node's kind. -/
theorem portNamed_eq_ok_iff {id : NodeId} {output : Bool} {name : String} {p : Port} :
    g.portNamed id output name = .ok p ↔ ∃ n index, g.node? id = some n ∧
      (if output then n.kind.output? name else n.kind.input? name) = some index ∧
      p = ⟨id, if output then .output else .input, index⟩ := by
  unfold portNamed
  cases hn : g.node? id with
  | none => simp
  | some n =>
    cases hport : if output then n.kind.output? name else n.kind.input? name with
    | none => simp [hport]
    | some index => simp [hport, eq_comm]

end Graph

namespace Command

open FieldGraph.Graph

variable {g g' : Graph} {effect : Effect}

/-- Adding a node appends one with its defaults at its place. -/
theorem apply_addNode (h : g.WellFormed) {kindId : String} {position : Vec2}
    (hok : (addNode kindId position).apply g = .ok (effect, g')) :
    ∃ kind, g.catalog.find? kindId = some kind ∧ effect.node = g.lastNode + 1 ∧
      g' = g.plus [⟨g.lastNode + 1, kind, kind.defaults, position⟩] [] := by
  obtain ⟨⟨id, g₁⟩, hadd, hrest⟩ := bind_eq_ok_iff.mp hok
  obtain ⟨g₂, hplace, he⟩ := bind_eq_ok_iff.mp hrest
  obtain ⟨kind, hfind, -, hpush⟩ := addNode_eq_ok_iff.mp hadd
  have hid : id = g.lastNode + 1 := congrArg Prod.fst hpush
  have hpushed := (congrArg Prod.snd hpush).trans (pushNode_eq_plus g kind)
  obtain ⟨-, rfl⟩ := setPosition_eq_ok_iff.mp hplace
  cases he
  refine ⟨kind, hfind, hid, ?_⟩
  rw [hid, show g₁ = _ from hpushed]
  exact updateNode_plus h.ne_next rfl rfl

/-- Making a connection appends it. -/
theorem apply_connect {src dst : Port} (hok : (connect src dst).apply g = .ok (effect, g')) :
    g' = g.plus [] [⟨g.lastConn + 1, src, dst⟩] := by
  obtain ⟨⟨id, g₁⟩, hconnect, he⟩ := bind_eq_ok_iff.mp hok
  cases he
  obtain ⟨-, -, _, _, -, -, -, -, hfree, -, hpush⟩ := connect_eq_ok_iff.mp hconnect
  obtain ⟨-, rfl⟩ := Prod.mk.inj hpush
  exact pushConn_eq_plus hfree

/-- Setting a parameter stores the value at the parameter's position. -/
theorem apply_setParameter {id : NodeId} {name : String} {value : Float32}
    (hok : (setParameter id name value).apply g = .ok (effect, g')) :
    ∃ n index, g.node? id = some n ∧ n.kind.param? name = some index ∧
      g' = g.updateNode id fun n => { n with params := n.params.set index value } := by
  obtain ⟨g₁, hset, he⟩ := bind_eq_ok_iff.mp hok
  cases he
  obtain ⟨n, index, _, hn, hindex, -, -, rfl⟩ := setParameter_eq_ok_iff.mp hset
  exact ⟨n, index, hn, hindex, rfl⟩

end Command

end FieldGraph
