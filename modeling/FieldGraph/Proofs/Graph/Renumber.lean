import FieldGraph.Proofs.Graph.Order
import FieldGraph.Session.Command

/-!
# Renumbered graphs

Numbers identify nodes and connections and order them; nothing else is read off them. If all
numbers of nodes are raised by one amount and all numbers of connections by another, lookups,
searches and the evaluation order are the same up to these amounts, and so is what accepted edits
do. Amounts may be negative, so that each statement also answers for the way back.
-/

namespace FieldGraph

/-- A node with a raised number. -/
def Node.shift (d : Int) (n : Node) : Node := { n with id := n.id + d }

/-- A port of a node with a raised number. -/
def Port.shift (d : Int) (p : Port) : Port := { p with node := p.node + d }

/-- A connection with raised numbers. -/
def Connection.shift (d e : Int) (c : Connection) : Connection :=
  ⟨c.id + e, c.src.shift d, c.dst.shift d⟩

theorem Port.shift_inj {d : Int} {p q : Port} : p.shift d = q.shift d ↔ p = q := by
  cases p
  cases q
  simp [Port.shift]

theorem Port.shift_neg (d : Int) (p : Port) : (p.shift d).shift (-d) = p := by
  simp only [Port.shift, Int.add_neg_cancel_right]

namespace Graph

/-- A graph with raised numbers. -/
def shift (d e : Int) (g : Graph) : Graph :=
  { g with
    nodes := g.nodes.map (Node.shift d)
    conns := g.conns.map (Connection.shift d e)
    feeds := g.feeds.map fun f => (f.1.shift d, f.2 + e)
    output := g.output.map (· + d)
    lastNode := g.lastNode + d
    lastConn := g.lastConn + e }

variable (d e : Int)

/-- Raised numbers can be lowered again. -/
theorem shift_neg (g : Graph) : (g.shift d e).shift (-d) (-e) = g := by
  simp only [shift, List.map_map, Option.map_map, Function.comp_def, Node.shift, Connection.shift,
    Port.shift, Int.add_neg_cancel_right, List.map_id_fun', Option.map_id_fun', id]

/-! ## Lookups -/

theorem beq_add (a b : Int) : (a + d == b + d) = (a == b) := by
  rw [Bool.eq_iff_iff]
  simp

theorem node?_shift (g : Graph) (id : NodeId) :
    (g.shift d e).node? (id + d) = (g.node? id).map (Node.shift d) := by
  rw [node?, shift, List.find?_map]
  congr 2
  funext n
  exact beq_add d n.id id

theorem isLive_shift (g : Graph) (id : NodeId) : (g.shift d e).isLive (id + d) = g.isLive id := by
  rw [isLive, node?_shift, Option.isSome_map, isLive]

theorem conn?_shift (g : Graph) (id : ConnId) :
    (g.shift d e).conn? (id + e) = (g.conn? id).map (Connection.shift d e) := by
  rw [conn?, shift, List.find?_map]
  congr 2
  funext c
  exact beq_add e c.id id

theorem feed?_shift (g : Graph) (p : Port) :
    (g.shift d e).feed? (p.shift d) = (g.feed? p).map (· + e) := by
  rw [feed?, shift, List.find?_map, Option.map_map, feed?, Option.map_map]
  have hport : ∀ f : Port × ConnId, (f.1.shift d == p.shift d) = (f.1 == p) := by
    intro f
    rw [Bool.eq_iff_iff]
    simp [Port.shift_inj]
  simp only [Function.comp_def, hport]

/-- What feeds an input of a well-formed graph is a connection, which is raised. -/
theorem WellFormed.incoming?_shift {g : Graph} (h : g.WellFormed) (p : Port) :
    (g.shift d e).incoming? (p.shift d) = (g.incoming? p).map (Connection.shift d e) := by
  rw [incoming?, feed?_shift, incoming?]
  cases hfeed : g.feed? p with
  | none => rfl
  | some id =>
    obtain ⟨c, hc, -⟩ := (h.feeds p id).mp hfeed
    simp [conn?_shift, hc]

/-- The node that feeds an input is raised. -/
theorem WellFormed.source_shift {g : Graph} (h : g.WellFormed) (id : NodeId) (index : Nat) :
    ((g.shift d e).incoming? (.into (id + d) index)).map (·.src.node) =
      ((g.incoming? (.into id index)).map (·.src.node)).map (· + d) := by
  have hport : Port.into (id + d) index = (Port.into id index).shift d := rfl
  rw [hport, h.incoming?_shift, Option.map_map, Option.map_map]
  rfl

/-! ## Searches -/

/-- Edges between nodes with raised numbers. -/
def shiftEdges (edges : List (NodeId × NodeId)) : List (NodeId × NodeId) :=
  edges.map fun edge => (edge.1 + d, edge.2 + d)

theorem mem_map_add {ids : List NodeId} {n : NodeId} : n + d ∈ ids.map (· + d) ↔ n ∈ ids := by
  simp

theorem targets_shift (edges : List (NodeId × NodeId)) (n : NodeId) :
    targets (shiftEdges d edges) (n + d) = (targets edges n).map (· + d) := by
  simp only [targets, shiftEdges, List.filter_map, List.map_map, Function.comp_def, beq_add]

theorem without_shift (edges : List (NodeId × NodeId)) (n : NodeId) :
    without (shiftEdges d edges) (n + d) = shiftEdges d (without edges n) := by
  simp only [without, shiftEdges, List.filter_map, Function.comp_def, bne, beq_add]

theorem search_shift (edges : List (NodeId × NodeId)) (stack seen : List NodeId) :
    search (shiftEdges d edges) (stack.map (· + d)) (seen.map (· + d)) =
      (search edges stack seen).map (· + d) := by
  fun_induction search edges stack seen with
  | case1 edges seen => rw [List.map_nil, search]
  | case2 edges seen n rest hn ih =>
    rw [List.map_cons, search, if_pos ((mem_map_add d).mpr hn), ih]
  | case3 edges seen n rest hn ih =>
    rw [List.map_cons, search, if_neg (fun hmem => hn ((mem_map_add d).mp hmem)), without_shift,
      targets_shift, ← List.map_append, ← List.map_cons (f := (· + d)), ih]

theorem edges_shift (g : Graph) : (g.shift d e).edges = shiftEdges d g.edges := by
  simp [edges, shift, shiftEdges, Connection.shift, Port.shift]

theorem reaches_shift (g : Graph) (start goal : NodeId) :
    (g.shift d e).reaches (start + d) (goal + d) = g.reaches start goal := by
  have hsearch := search_shift d g.edges [start] []
  simp only [List.map_cons, List.map_nil] at hsearch
  rw [reaches, reaches, edges_shift, hsearch]
  simp

theorem WellFormed.suppliers_shift {g : Graph} (h : g.WellFormed) (n : Node) :
    (g.shift d e).suppliers (n.shift d) = (g.suppliers n).map (· + d) := by
  rw [suppliers, inputConns, suppliers, inputConns, List.filterMap_map, List.filterMap_map,
    List.map_filterMap]
  congr 1
  funext index
  exact h.source_shift d e n.id index

theorem WellFormed.ancestors_shift {g : Graph} (h : g.WellFormed) (root : NodeId) :
    (g.shift d e).ancestors (root + d) = (g.ancestors root).map (· + d) := by
  have hedges : (g.shift d e).supplyEdges = shiftEdges d g.supplyEdges := by
    rw [supplyEdges, supplyEdges, shiftEdges, List.map_flatMap]
    rw [show (g.shift d e).nodes = g.nodes.map (Node.shift d) from rfl, List.flatMap_map]
    congr 1
    funext n
    rw [h.suppliers_shift, List.map_map, List.map_map]
    rfl
  rw [ancestors, hedges]
  exact search_shift d g.supplyEdges [root] []

/-! ## Orders -/

theorem insertId_shift (id : NodeId) (ids : List NodeId) :
    insertId (id + d) (ids.map (· + d)) = (insertId id ids).map (· + d) := by
  induction ids with
  | nil => rfl
  | cons other rest ih =>
    rw [List.map_cons, insertId, insertId, ih]
    by_cases hle : id ≤ other
    · rw [if_pos hle, if_pos (Int.add_le_add_right hle d)]
      rfl
    · rw [if_neg hle, if_neg fun hraised => hle (Int.le_of_add_le_add_right hraised)]
      rfl

theorem sortIds_shift (ids : List NodeId) :
    sortIds (ids.map (· + d)) = (sortIds ids).map (· + d) := by
  induction ids with
  | nil => rfl
  | cons id rest ih =>
    have hrest : sortIds (id :: rest) = insertId id (sortIds rest) := rfl
    rw [hrest, ← insertId_shift, ← ih]
    rfl

theorem ready?_shift (remaining : List NodeId) (edges : List (NodeId × NodeId)) :
    ready? (remaining.map (· + d)) (shiftEdges d edges) =
      (ready? remaining edges).map (· + d) := by
  rw [ready?, List.find?_map, ready?]
  congr 2
  funext n
  simp only [Function.comp_def, shiftEdges, List.all_map]
  congr 1
  funext edge
  exact congrArg (!·) (beq_add d edge.2 n)

theorem drain_shift (remaining : List NodeId) (edges : List (NodeId × NodeId)) :
    drain (remaining.map (· + d)) (shiftEdges d edges) =
      ((drain remaining edges).1.map (· + d), (drain remaining edges).2.map (· + d)) := by
  fun_induction drain remaining edges with
  | case1 remaining edges hnone =>
    have hready : ready? (remaining.map (· + d)) (shiftEdges d edges) = none := by
      rw [ready?_shift, hnone]
      rfl
    rw [drain]
    split
    · rfl
    next n hsome => cases hready.symm.trans hsome
  | case2 remaining edges n hfound taken left hrec ih =>
    have hready : ready? (remaining.map (· + d)) (shiftEdges d edges) = some (n + d) := by
      rw [ready?_shift, hfound]
      rfl
    have herase : (remaining.map (· + d)).erase (n + d) = (remaining.erase n).map (· + d) :=
      (List.map_erase (fun _ _ hsum => by simpa using hsum) remaining).symm
    rw [drain]
    split
    next hnone => cases hready.symm.trans hnone
    next m hsome =>
      obtain rfl : n + d = m := Option.some.inj (hready.symm.trans hsome)
      rw [herase, without_shift, ih, hrec]
      rfl

/-- A renumbered graph is evaluated in the same order. -/
theorem WellFormed.order_shift {g : Graph} (h : g.WellFormed) {order : List NodeId}
    (hok : g.order = .ok order) : (g.shift d e).order = .ok (order.map (· + d)) := by
  unfold Graph.order at hok ⊢
  cases hout : g.output with
  | none => simp [hout] at hok
  | some root =>
    have hout' : (g.shift d e).output = some (root + d) := by
      rw [shift, hout]
      rfl
    have hmissing : (g.shift d e).hasMissingAncestor (root + d) = g.hasMissingAncestor root := by
      simp only [hasMissingAncestor, h.ancestors_shift, List.any_map, Function.comp_def,
        isLive_shift]
    have hentering : (g.shift d e).edges.filter
        (·.2 ∈ (sortIds (g.ancestors root)).map (· + d)) =
        shiftEdges d (g.edges.filter (·.2 ∈ sortIds (g.ancestors root))) := by
      rw [edges_shift, shiftEdges, List.filter_map]
      simp [shiftEdges, Function.comp_def]
    simp only [hout] at hok
    simp only [hout', hmissing, h.ancestors_shift, sortIds_shift, hentering, drain_shift]
    split at hok
    · cases hok
    next hnone =>
      rw [if_neg hnone]
      cases hdrain : drain (sortIds (g.ancestors root))
          (g.edges.filter (·.2 ∈ sortIds (g.ancestors root))) with
      | mk taken left =>
        cases left with
        | nil =>
          rw [hdrain] at hok
          cases hok
          rfl
        | cons start rest => simp [hdrain] at hok

/-! ## Edits -/

theorem pushNode_shift (g : Graph) (kind : Kind) :
    (g.shift d e).pushNode kind =
      ((g.pushNode kind).1 + d, (g.pushNode kind).2.shift d e) := by
  have hnext : (g.shift d e).lastNode + 1 = g.lastNode + 1 + d := Int.add_right_comm ..
  unfold pushNode
  rw [hnext]
  cases hout : g.output <;> cases hkind : kind.isOutput <;> simp [shift, hout, Node.shift]

theorem addNode_shift {g g' : Graph} {kindId : String} {id : NodeId}
    (hok : g.addNode kindId = .ok (id, g')) :
    (g.shift d e).addNode kindId = .ok (id + d, g'.shift d e) := by
  have hcatalog : (g.shift d e).catalog = g.catalog := rfl
  have hout : (g.shift d e).output = g.output.map (· + d) := rfl
  unfold addNode Graph.kind at hok ⊢
  rw [hcatalog, hout]
  cases hfind : g.catalog.find? kindId with
  | none => simp [hfind, bind, Except.bind] at hok
  | some kind =>
    simp only [hfind, bind, Except.bind] at hok ⊢
    rw [pushNode_shift]
    cases hkind : kind.isOutput <;> cases hg : g.output <;>
      simp_all [Prod.ext_iff]

theorem updateNode_shift (g : Graph) (id : NodeId) {f : Node → Node}
    (hf : ∀ n, f (n.shift d) = (f n).shift d) :
    (g.shift d e).updateNode (id + d) f = (g.updateNode id f).shift d e := by
  have hnode : ∀ n : Node, (if (n.shift d).id = id + d then f (n.shift d) else n.shift d) =
      (if n.id = id then f n else n).shift d := by
    intro n
    by_cases hid : n.id = id
    · rw [if_pos hid, if_pos (by rw [← hid]; rfl), hf]
    · rw [if_neg hid, if_neg]
      intro hraised
      exact hid (by simpa [Node.shift] using hraised)
  simp only [updateNode, shift, List.map_map, Function.comp_def, hnode]

theorem setPosition_shift {g g' : Graph} {id : NodeId} {position : Vec2}
    (hok : g.setPosition id position = .ok g') :
    (g.shift d e).setPosition (id + d) position = .ok (g'.shift d e) := by
  unfold setPosition at hok ⊢
  rw [isLive_shift]
  split at hok
  next hlive =>
    cases hok
    rw [if_pos hlive]
    exact congrArg Except.ok (updateNode_shift d e g id fun _ => rfl)
  · cases hok

theorem setParameter_shift {g g' : Graph} {id : NodeId} {name : String} {value : Float32}
    (hok : g.setParameter id name value = .ok g') :
    (g.shift d e).setParameter (id + d) name value = .ok (g'.shift d e) := by
  unfold setParameter at hok ⊢
  rw [node?_shift]
  cases hn : g.node? id with
  | none => simp [hn] at hok
  | some n =>
    have hkind : (n.shift d).kind = n.kind := rfl
    simp only [hn, Option.map_some, hkind] at hok ⊢
    cases hi : n.kind.param? name with
    | none => simp [hi] at hok
    | some index =>
      cases hs : n.kind.params[index]? with
      | none => simp [hi, hs] at hok
      | some spec =>
        simp only [hi, hs] at hok ⊢
        split at hok
        next hrange =>
          cases hok
          rw [if_pos hrange]
          exact congrArg Except.ok (updateNode_shift d e g id fun _ => rfl)
        · cases hok

theorem portSpec_shift {g : Graph} {p : Port} {spec : PortSpec} (hok : g.portSpec p = .ok spec) :
    (g.shift d e).portSpec (p.shift d) = .ok spec := by
  obtain ⟨n, hn⟩ := node?_of_portSpec hok
  unfold portSpec at hok ⊢
  rw [show (p.shift d).node = p.node + d from rfl, node?_shift]
  simp only [hn, Option.map_some, Port.shift, Node.shift] at hok ⊢
  cases hdir : p.direction with
  | other code => simp [hdir] at hok
  | input => grind
  | output => grind

theorem portNamed_shift {g : Graph} {id : NodeId} {output : Bool} {name : String} {p : Port}
    (hok : g.portNamed id output name = .ok p) :
    (g.shift d e).portNamed (id + d) output name = .ok (p.shift d) := by
  unfold portNamed at hok ⊢
  rw [node?_shift]
  cases hn : g.node? id with
  | none => simp [hn] at hok
  | some n =>
    have hkind : (n.shift d).kind = n.kind := rfl
    simp only [hn, Option.map_some, hkind] at hok ⊢
    split at hok
    · cases hok
      rfl
    · cases hok

theorem pushConn_shift (g : Graph) (src dst : Port) :
    (g.shift d e).pushConn (src.shift d) (dst.shift d) =
      ((g.pushConn src dst).1 + e, (g.pushConn src dst).2.shift d e) := by
  have hnext : (g.shift d e).lastConn + 1 = g.lastConn + 1 + e := Int.add_right_comm ..
  have hport : ∀ f : Port × ConnId, (f.1.shift d != dst.shift d) = (f.1 != dst) := by
    intro f
    rw [Bool.eq_iff_iff]
    simp [Port.shift_inj]
  unfold pushConn
  rw [hnext]
  simp [shift, List.filter_map, Function.comp_def, hport, Connection.shift]

theorem connect_shift {g g' : Graph} {src dst : Port} {id : ConnId}
    (hok : g.connect src dst = .ok (id, g')) :
    (g.shift d e).connect (src.shift d) (dst.shift d) = .ok (id + e, g'.shift d e) := by
  obtain ⟨outwards, inwards, srcSpec, dstSpec, source, target, typed, distinct, free, open_, he⟩ :=
    connect_eq_ok_iff.mp hok
  refine connect_eq_ok_iff.mpr ⟨outwards, inwards, srcSpec, dstSpec, portSpec_shift d e source,
    portSpec_shift d e target, typed, ?_, ?_, ?_, ?_⟩
  · simpa [Port.shift] using distinct
  · rw [feed?_shift, free]
    rfl
  · exact (reaches_shift d e g dst.node src.node).trans open_
  · rw [pushConn_shift, ← he]

end Graph

/-! ## Commands -/

/-- A command that builds a graph, with the same command for raised numbers before it. -/
inductive Command.Alike (d : Int) : Command → Command → Prop where
  | addNode (kind : String) (position : Vec2) :
      Alike d (.addNode kind position) (.addNode kind position)
  | setParameter (node : NodeId) (name : String) (value : Float32) :
      Alike d (.setParameter (node + d) name value) (.setParameter node name value)
  | connect (src dst : Port) : Alike d (.connect (src.shift d) (dst.shift d)) (.connect src dst)

namespace Command.Alike

variable {d : Int} {raised command : Command}

theorem symm (h : Alike d raised command) : Alike (-d) command raised := by
  cases h with
  | addNode kind position => exact .addNode kind position
  | setParameter node name value =>
    have h := Alike.setParameter (d := -d) (node + d) name value
    rwa [Int.add_neg_cancel_right] at h
  | connect src dst =>
    have h := Alike.connect (d := -d) (src.shift d) (dst.shift d)
    rwa [Port.shift_neg, Port.shift_neg] at h

/-- What a command does to a graph it does to the renumbered graph. -/
theorem apply_shift (h : Alike d raised command) (e : Int) {g g' : Graph} {effect : Effect}
    (hok : command.apply g = .ok (effect, g')) :
    ∃ effect', raised.apply (g.shift d e) = .ok (effect', g'.shift d e) := by
  cases h with
  | addNode kind position =>
    obtain ⟨⟨id, g₁⟩, hadd, hrest⟩ := bind_eq_ok_iff.mp hok
    obtain ⟨g₂, hplace, he⟩ := bind_eq_ok_iff.mp hrest
    cases he
    exact ⟨_, bind_eq_ok_iff.mpr ⟨_, Graph.addNode_shift d e hadd,
      bind_eq_ok_iff.mpr ⟨_, Graph.setPosition_shift d e hplace, rfl⟩⟩⟩
  | setParameter node name value =>
    obtain ⟨g₁, hset, he⟩ := bind_eq_ok_iff.mp hok
    cases he
    exact ⟨_, bind_eq_ok_iff.mpr ⟨_, Graph.setParameter_shift d e hset, rfl⟩⟩
  | connect src dst =>
    obtain ⟨⟨id, g₁⟩, hconnect, he⟩ := bind_eq_ok_iff.mp hok
    cases he
    exact ⟨_, bind_eq_ok_iff.mpr ⟨_, Graph.connect_shift d e hconnect, rfl⟩⟩

end Command.Alike

end FieldGraph
