import FieldGraph.Proofs.Kind.Registered
import FieldGraph.Session.Command

/-!
# Runs of edits

A run applies edits one after the other to a graph; refused edits are part of it and change
nothing. What an accepted edit can do is said once, as the relation `Step`, with every guard
that was checked on the way. Invariants of runs are proved on steps and never look at the edits
again.
-/

namespace FieldGraph

/-- A mapped outcome is a result only if the outcome was one. -/
theorem map_eq_ok_iff {ε α β : Type} {f : α → β} {x : Except ε α} {b : β} :
    x.map f = .ok b ↔ ∃ a, x = .ok a ∧ f a = b := by
  cases x <;> simp [Except.map]

/-- A sequence of two computations succeeds only if both do. -/
theorem bind_eq_ok_iff {ε α β : Type} {x : Except ε α} {f : α → Except ε β} {b : β} :
    x >>= f = .ok b ↔ ∃ a, x = .ok a ∧ f a = .ok b := by
  cases x <;> simp [bind, Except.bind]

/-- What an outcome is known to come to is that of a result. -/
theorem exists_of_toOption_map {ε α β : Type} {f : α → β} {x : Except ε α} {b : β}
    (h : x.toOption.map f = some b) : ∃ a, x = .ok a ∧ f a = b := by
  cases x with
  | error e => cases h
  | ok a => exact ⟨a, rfl, Option.some.inj h⟩

/-- A call that may change a graph. -/
inductive Edit where
  | addNode (kind : String)
  | removeNode (id : NodeId)
  | connect (src dst : Port)
  | disconnect (id : ConnId)
  | setParameter (node : NodeId) (name : String) (value : Float32)
  | setPosition (node : NodeId) (position : Vec2)

/-- What an accepted edit answers. -/
inductive Receipt where
  /-- The number given to a new node. -/
  | node (id : NodeId)
  /-- The number given to a new connection. -/
  | conn (id : ConnId)
  /-- The connections that went with a node. -/
  | removed (conns : List Connection)
  | nothing
  deriving DecidableEq, Repr

/-- The node number an answer gives out. -/
def Receipt.node? : Receipt → Option NodeId
  | node id => some id
  | _ => none

/-- The connection number an answer gives out. -/
def Receipt.conn? : Receipt → Option ConnId
  | conn id => some id
  | _ => none

/-- Apply an edit. -/
def Edit.apply (g : Graph) : Edit → Except EditError (Receipt × Graph)
  | addNode kind => (g.addNode kind).map fun (id, g) => (.node id, g)
  | removeNode id => (g.removeNode id).map fun (conns, g) => (.removed conns, g)
  | connect src dst => (g.connect src dst).map fun (id, g) => (.conn id, g)
  | disconnect id => (g.disconnect id).map fun g => (.nothing, g)
  | setParameter node name value => (g.setParameter node name value).map fun g => (.nothing, g)
  | setPosition node position => (g.setPosition node position).map fun g => (.nothing, g)

namespace Graph

/-- The graph after an edit, which a refused edit leaves as it was. -/
def edit (g : Graph) (e : Edit) : Graph :=
  match e.apply g with
  | .ok (_, g) => g
  | .error _ => g

/-- The graph after a run of edits. -/
def run (g : Graph) (edits : List Edit) : Graph := edits.foldl edit g

/-- The answers of the accepted edits of a run. -/
def receipts (g : Graph) : List Edit → List Receipt
  | [] => []
  | e :: rest =>
      match e.apply g with
      | .ok (receipt, g) => receipt :: receipts g rest
      | .error _ => receipts g rest

/-- The graphs over a catalog that some run of edits produces. -/
def Reached (catalog : Catalog) (g : Graph) : Prop := ∃ edits, g = (empty catalog).run edits

/-- The connections that start or end at a node. -/
def touching (g : Graph) (id : NodeId) : List Connection :=
  g.conns.filter fun c => c.src.node == id || c.dst.node == id

/-- The graph without a node and what touches it. -/
def withoutNode (g : Graph) (id : NodeId) : Graph :=
  { (g.touching id).foldl dropConn g with
    nodes := g.nodes.filter (·.id != id)
    output := if g.output = some id then none else g.output }

/-- What an accepted edit can do to a graph, with its answer. -/
inductive Step (g : Graph) : Receipt → Graph → Prop where
  | push (kind : Kind) (known : kind ∈ g.catalog.kinds)
      (single : kind.isOutput = true → g.output = none) :
      Step g (.node (g.lastNode + 1)) (g.pushNode kind).2
  | remove (id : NodeId) (live : g.isLive id = true) :
      Step g (.removed (g.touching id)) (g.withoutNode id)
  | connect (src dst : Port) (srcSpec dstSpec : PortSpec)
      (outwards : src.direction = .output) (inwards : dst.direction = .input)
      (source : g.portSpec src = .ok srcSpec) (target : g.portSpec dst = .ok dstSpec)
      (distinct : src.node ≠ dst.node) (typed : srcSpec.type = dstSpec.type)
      (free : g.feed? dst = none) (open_ : g.reaches dst.node src.node = false) :
      Step g (.conn (g.lastConn + 1)) (g.pushConn src dst).2
  | disconnect (id : ConnId) (c : Connection) (found : g.conn? id = some c) :
      Step g .nothing (g.dropConn c)
  | set (id : NodeId) (node : Node) (index : Nat) (spec : ParamSpec) (value : Float32)
      (found : g.node? id = some node) (named : node.kind.params[index]? = some spec)
      (inRange : spec.inRange value = true) :
      Step g .nothing (g.updateNode id fun n => { n with params := n.params.set index value })
  | place (id : NodeId) (position : Vec2) (live : g.isLive id = true) :
      Step g .nothing (g.updateNode id fun n => { n with position })

/-- Dropping connections leaves nodes, output and counters alone. -/
theorem foldl_dropConn (g : Graph) (removed : List Connection) :
    removed.foldl dropConn g =
      { g with
        conns := g.conns.filter fun c => removed.all (c.id != ·.id)
        feeds := g.feeds.filter fun f => removed.all (f.1 != ·.dst) } := by
  induction removed generalizing g with
  | nil =>
    have hall {α : Type} (l : List α) : l.filter (fun _ => true) = l :=
      List.filter_eq_self.mpr fun _ _ => rfl
    simp [hall]
  | cons r rest ih =>
    rw [List.foldl_cons, ih]
    simp [dropConn, List.filter_filter, Bool.and_comm]

/-- Adding a node is looking its kind up and appending, if that makes no second output. -/
theorem addNode_eq_ok_iff {g : Graph} {kindId : String} {result : NodeId × Graph} :
    g.addNode kindId = .ok result ↔ ∃ kind, g.catalog.find? kindId = some kind ∧
      (kind.isOutput = true → g.output = none) ∧ result = g.pushNode kind := by
  unfold addNode Graph.kind
  cases hfind : g.catalog.find? kindId with
  | none => simp [bind, Except.bind]
  | some kind =>
    have hpush : (Except.ok (g.pushNode kind) : Except EditError _) = .ok result ↔
        result = g.pushNode kind := by rw [Except.ok.injEq, eq_comm]
    cases hout : kind.isOutput <;> cases hg : g.output <;>
      simp [bind, Except.bind, hout, hpush]

/-- Adding a node is a step. -/
theorem step_of_addNode {g g' : Graph} {kindId : String} {id : NodeId}
    (h : g.addNode kindId = .ok (id, g')) : g.Step (.node id) g' := by
  obtain ⟨kind, hfind, hsingle, he⟩ := addNode_eq_ok_iff.mp h
  obtain ⟨rfl, rfl⟩ := Prod.mk.inj he
  exact .push kind (Catalog.mem_of_find? hfind) hsingle

/-- Removing a live node takes its connections along. -/
theorem removeNode_eq_ok_iff {g : Graph} {id : NodeId} {result : List Connection × Graph} :
    g.removeNode id = .ok result ↔
      g.isLive id = true ∧ result = (g.touching id, g.withoutNode id) := by
  unfold removeNode
  by_cases hlive : g.isLive id = true
  · simp only [hlive, if_true, Except.ok.injEq, withoutNode, touching, foldl_dropConn, true_and]
    exact eq_comm
  · simp [hlive]

/-- Removing a node is a step. -/
theorem step_of_removeNode {g g' : Graph} {id : NodeId} {removed : List Connection}
    (h : g.removeNode id = .ok (removed, g')) : g.Step (.removed removed) g' := by
  obtain ⟨hlive, he⟩ := removeNode_eq_ok_iff.mp h
  obtain ⟨rfl, rfl⟩ := Prod.mk.inj he
  exact .remove id hlive

/-- A connection is made exactly when no check refuses it. -/
theorem connect_eq_ok_iff {g : Graph} {src dst : Port} {result : ConnId × Graph} :
    g.connect src dst = .ok result ↔
      src.direction = .output ∧ dst.direction = .input ∧
      ∃ srcSpec dstSpec, g.portSpec src = .ok srcSpec ∧ g.portSpec dst = .ok dstSpec ∧
        srcSpec.type = dstSpec.type ∧ src.node ≠ dst.node ∧ g.feed? dst = none ∧
        g.reaches dst.node src.node = false ∧ result = g.pushConn src dst := by
  constructor
  · intro h
    unfold connect at h
    split at h
    · cases h
    next hdir =>
      obtain ⟨hsrc, hdst⟩ := not_or.mp hdir
      split at h
      · cases h
      · cases h
      next srcSpec dstSpec hs hd =>
        split at h
        · cases h
        next hself =>
          split at h
          · cases h
          next htype =>
            split at h
            · cases h
            next hfree =>
              split at h
              · cases h
              next hreach =>
                exact ⟨not_not.mp hsrc, not_not.mp hdst, srcSpec, dstSpec, hs, hd,
                  not_not.mp htype, hself, hfree, by simpa using hreach, (Except.ok.inj h).symm⟩
  · rintro ⟨hsrc, hdst, srcSpec, dstSpec, hs, hd, htype, hself, hfree, hreach, rfl⟩
    simp [connect, hsrc, hdst, hs, hd, htype, hself, hfree, hreach]

/-- Making a connection is a step. -/
theorem step_of_connect {g g' : Graph} {src dst : Port} {id : ConnId}
    (h : g.connect src dst = .ok (id, g')) : g.Step (.conn id) g' := by
  obtain ⟨hsrc, hdst, srcSpec, dstSpec, hs, hd, htype, hself, hfree, hreach, he⟩ :=
    connect_eq_ok_iff.mp h
  obtain ⟨rfl, rfl⟩ := Prod.mk.inj he
  exact .connect src dst srcSpec dstSpec hsrc hdst hs hd hself htype hfree hreach

/-- Only a connection that exists is removed. -/
theorem disconnect_eq_ok_iff {g g' : Graph} {id : ConnId} :
    g.disconnect id = .ok g' ↔ ∃ c, g.conn? id = some c ∧ g' = g.dropConn c := by
  unfold disconnect
  cases g.conn? id <;> simp [eq_comm]

/-- Removing a connection is a step. -/
theorem step_of_disconnect {g g' : Graph} {id : ConnId} (h : g.disconnect id = .ok g') :
    g.Step .nothing g' := by
  obtain ⟨c, hc, rfl⟩ := disconnect_eq_ok_iff.mp h
  exact .disconnect id c hc

/-- Only values in range are stored, and only for parameters of the node. -/
theorem setParameter_eq_ok_iff {g g' : Graph} {id : NodeId} {name : String} {value : Float32} :
    g.setParameter id name value = .ok g' ↔
      ∃ node index spec, g.node? id = some node ∧ node.kind.param? name = some index ∧
        node.kind.params[index]? = some spec ∧ spec.inRange value = true ∧
        g' = g.updateNode id fun n => { n with params := n.params.set index value } := by
  unfold setParameter
  cases hn : g.node? id with
  | none => simp
  | some node =>
    cases hi : node.kind.param? name with
    | none => simp [hi]
    | some index =>
      cases hs : node.kind.params[index]? with
      | none => simp [hi, hs]
      | some spec =>
        cases hr : spec.inRange value with
        | false => simp [hi, hs, hr]
        | true =>
          simp only [hi, hs, hr, if_true, Except.ok.injEq]
          constructor
          · rintro rfl
            exact ⟨node, index, spec, rfl, hi, hs, hr, rfl⟩
          · rintro ⟨_, _, _, ⟨⟩, hi', -, -, rfl⟩
            rw [Option.some.inj (hi.symm.trans hi')]

/-- Setting a parameter is a step. -/
theorem step_of_setParameter {g g' : Graph} {id : NodeId} {name : String} {value : Float32}
    (h : g.setParameter id name value = .ok g') : g.Step .nothing g' := by
  obtain ⟨node, index, spec, hn, -, hs, hr, rfl⟩ := setParameter_eq_ok_iff.mp h
  exact .set id node index spec value hn hs hr

/-- Only live nodes are placed. -/
theorem setPosition_eq_ok_iff {g g' : Graph} {id : NodeId} {position : Vec2} :
    g.setPosition id position = .ok g' ↔
      g.isLive id = true ∧ g' = g.updateNode id fun n => { n with position } := by
  unfold setPosition
  cases g.isLive id <;> simp [eq_comm]

/-- Placing a node is a step. -/
theorem step_of_setPosition {g g' : Graph} {id : NodeId} {position : Vec2}
    (h : g.setPosition id position = .ok g') : g.Step .nothing g' := by
  obtain ⟨hlive, rfl⟩ := setPosition_eq_ok_iff.mp h
  exact .place id position hlive

/-- Every accepted edit is a step. -/
theorem step_of_apply {g g' : Graph} {e : Edit} {receipt : Receipt}
    (h : e.apply g = .ok (receipt, g')) : g.Step receipt g' := by
  cases e with
  | addNode kind =>
    obtain ⟨⟨id, g₁⟩, hr, he⟩ := map_eq_ok_iff.mp h
    cases he
    exact step_of_addNode hr
  | removeNode id =>
    obtain ⟨⟨conns, g₁⟩, hr, he⟩ := map_eq_ok_iff.mp h
    cases he
    exact step_of_removeNode hr
  | connect src dst =>
    obtain ⟨⟨id, g₁⟩, hr, he⟩ := map_eq_ok_iff.mp h
    cases he
    exact step_of_connect hr
  | disconnect id =>
    obtain ⟨g₁, hr, he⟩ := map_eq_ok_iff.mp h
    cases he
    exact step_of_disconnect hr
  | setParameter node name value =>
    obtain ⟨g₁, hr, he⟩ := map_eq_ok_iff.mp h
    cases he
    exact step_of_setParameter hr
  | setPosition node position =>
    obtain ⟨g₁, hr, he⟩ := map_eq_ok_iff.mp h
    cases he
    exact step_of_setPosition hr

/-- What every step keeps, a run keeps. -/
theorem run_induction {P : Graph → Prop} (hstep : ∀ g r g', P g → g.Step r g' → P g') {g : Graph}
    (h : P g) (edits : List Edit) : P (g.run edits) := by
  induction edits generalizing g with
  | nil => exact h
  | cons e rest ih =>
    apply ih
    unfold edit
    split
    next r g' happly => exact hstep _ _ _ h (step_of_apply happly)
    next => exact h

/-- What holds of the empty graph and is kept by every step holds of every reached graph. -/
theorem Reached.induction {P : Graph → Prop} {catalog : Catalog} {g : Graph}
    (h : g.Reached catalog) (hempty : P (empty catalog))
    (hstep : ∀ g r g', P g → g.Step r g' → P g') : P g := by
  obtain ⟨edits, rfl⟩ := h
  exact run_induction hstep hempty edits

end Graph

end FieldGraph
