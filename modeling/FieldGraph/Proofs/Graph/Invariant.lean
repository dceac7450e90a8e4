import FieldGraph.Proofs.Graph.Edit
import FieldGraph.Proofs.Graph.Search
import Mathlib.Data.List.Forall2
import Mathlib.Data.List.Pairwise

/-!
# The invariant of graphs

Edits check a graph before they change it, and nothing else ever changes it. The facts that all
compilation relies on follow: connections form no cycle, the index of fed inputs and the set of
connections say the same, every connection joins existing ports of one type, the output is the
only output, every parameter has a value in its range, and numbers are given out once. Each fact
is proved of one step; the facts lean on one another, so they are kept together.
-/

namespace FieldGraph

open Relation

/-- Items listed by strictly increasing number. -/
def Ascending {α : Type} (key : α → Int) (l : List α) : Prop :=
  l.Pairwise fun a b => key a < key b

namespace Ascending

variable {α : Type} {key : α → Int} {l : List α}

/-- In an ascending list a number belongs to one item. -/
theorem eq_of_key_eq (h : Ascending key l) {a b : α} (ha : a ∈ l) (hb : b ∈ l)
    (hkey : key a = key b) : a = b := by
  by_contra hne
  have hsymm : Std.Symm fun a b : α => key a ≠ key b := ⟨fun _ _ hab => hab.symm⟩
  have hdistinct : l.Pairwise fun a b => key a ≠ key b := h.imp fun hlt => by omega
  exact hdistinct.forall ha hb hne hkey

/-- Looking a number up in an ascending list finds the item that has it. -/
theorem find?_eq_some_iff (h : Ascending key l) {k : Int} {a : α} :
    l.find? (key · == k) = some a ↔ a ∈ l ∧ key a = k := by
  constructor
  · intro hf
    exact ⟨List.mem_of_find?_eq_some hf, by simpa using List.find?_some hf⟩
  · rintro ⟨ha, rfl⟩
    cases hf : l.find? (key · == key a) with
    | none => exact absurd (List.find?_eq_none.mp hf a ha) (by simp)
    | some b =>
      have hb := List.mem_of_find?_eq_some hf
      have hkey : key b = key a := by simpa using List.find?_some hf
      rw [h.eq_of_key_eq hb ha hkey]

/-- Leaving items out keeps a list ascending. -/
theorem filter (h : Ascending key l) (p : α → Bool) : Ascending key (l.filter p) :=
  List.Pairwise.filter p h

/-- Changing items without their numbers keeps a list ascending. -/
theorem map (h : Ascending key l) {f : α → α} (hf : ∀ a, key (f a) = key a) :
    Ascending key (l.map f) := by
  refine List.pairwise_map.mpr (h.imp ?_)
  intro a b hab
  simpa only [hf] using hab

/-- An item numbered above all others may be appended. -/
theorem concat (h : Ascending key l) {a : α} (ha : ∀ b ∈ l, key b < key a) :
    Ascending key (l ++ [a]) := by
  refine List.pairwise_append.mpr ⟨h, List.pairwise_singleton _ _, ?_⟩
  intro b hb c hc
  rw [List.mem_singleton.mp hc]
  exact ha b hb

end Ascending

/-- A number that a counter has given out; counting starts at one. -/
def Issued (last id : Int) : Prop := 1 ≤ id ∧ id ≤ last

/-- The next number is given out and lies above all earlier ones. -/
theorem Issued.next {last id : Int} (h : Issued last id) :
    Issued (last + 1) id ∧ id < last + 1 := by
  unfold Issued at *
  omega

/-- A counter that starts at one never falls below it. -/
theorem Issued.succ {next : Int} (h : Issued next next) : Issued (next + 1) (next + 1) := by
  unfold Issued at *
  omega

/-- A node holds one value per parameter of its kind, each in its range. -/
def Node.InRange (n : Node) : Prop :=
  List.Forall₂ (fun spec value => spec.inRange value = true) n.kind.params n.params

namespace Graph

/-- A connection leads from one node to another. -/
def Feeds (g : Graph) (a b : NodeId) : Prop :=
  ∃ c ∈ g.conns, c.src.node = a ∧ c.dst.node = b

/-- A connection joins an existing output of a live node to an existing input of a live node,
and both ports have the same type. -/
def Linked (g : Graph) (c : Connection) : Prop :=
  c.src.direction = .output ∧ c.dst.direction = .input ∧
    ∃ src dst, g.portSpec c.src = .ok src ∧ g.portSpec c.dst = .ok dst ∧ src.type = dst.type

/-- What holds of every graph that edits produce. -/
structure WellFormed (g : Graph) : Prop where
  /-- No path of connections returns to where it started. -/
  acyclic : ∀ n, ¬ TransGen g.Feeds n n
  /-- The index and the connections agree. -/
  feeds : ∀ dst id, g.feed? dst = some id ↔ ∃ c, g.conn? id = some c ∧ c.id = id ∧ c.dst = dst
  /-- Every connection joins ports that fit. -/
  linked : ∀ c ∈ g.conns, g.Linked c
  /-- The output is the number of the only node that ends the graph. -/
  output : ∀ id, g.output = some id ↔ ∃ n ∈ g.nodes, n.id = id ∧ n.kind.isOutput = true
  /-- Parameters are in range. -/
  params : ∀ n ∈ g.nodes, n.InRange
  /-- Live nodes have numbers that were given out. -/
  nodeIds : ∀ n ∈ g.nodes, Issued g.lastNode n.id
  /-- Live connections have numbers that were given out. -/
  connIds : ∀ c ∈ g.conns, Issued g.lastConn c.id
  /-- A number belongs to one node. -/
  nodesAscending : Ascending Node.id g.nodes
  /-- A number belongs to one connection. -/
  connsAscending : Ascending Connection.id g.conns
  /-- Nodes are of kinds of the catalog. -/
  kinds : ∀ n ∈ g.nodes, n.kind ∈ g.catalog.kinds
  /-- No number below one is ever next. -/
  counters : Issued (g.lastNode + 1) (g.lastNode + 1) ∧ Issued (g.lastConn + 1) (g.lastConn + 1)

/-! ## Lookups -/

/-- The edges that are searched are the connections. -/
theorem leads_edges_iff {g : Graph} {a b : NodeId} : Leads g.edges a b ↔ g.Feeds a b := by
  simp only [Leads, edges, List.mem_map, Prod.mk.injEq, Feeds]

/-- One node reaches another exactly when a path of connections leads there. -/
theorem reaches_iff {g : Graph} {a b : NodeId} :
    g.reaches a b = true ↔ ReflTransGen g.Feeds a b := by
  have he : Leads g.edges = g.Feeds := by
    funext x y
    exact propext leads_edges_iff
  rw [reaches, decide_eq_true_eq, mem_search_iff, he]

/-- A port described in one graph is described alike wherever its node has the same kind. -/
theorem portSpec_mono {g g' : Graph} {p : Port} {spec : PortSpec}
    (hkind : ∀ n, g.node? p.node = some n → ∃ n', g'.node? p.node = some n' ∧ n'.kind = n.kind)
    (h : g.portSpec p = .ok spec) : g'.portSpec p = .ok spec := by
  cases hn : g.node? p.node with
  | none => simp [portSpec, hn] at h
  | some n =>
    obtain ⟨n', hn', hk⟩ := hkind n hn
    simp only [portSpec, hn] at h
    simpa only [portSpec, hn', hk] using h

/-- Links survive where the nodes at both ends keep their kinds. -/
theorem Linked.mono {g g' : Graph} {c : Connection} (h : g.Linked c)
    (hkind : ∀ id n, id = c.src.node ∨ id = c.dst.node → g.node? id = some n →
      ∃ n', g'.node? id = some n' ∧ n'.kind = n.kind) : g'.Linked c := by
  obtain ⟨hout, hin, src, dst, hsrc, hdst, htype⟩ := h
  exact ⟨hout, hin, src, dst, portSpec_mono (fun n => hkind _ n (Or.inl rfl)) hsrc,
    portSpec_mono (fun n => hkind _ n (Or.inr rfl)) hdst, htype⟩

/-- A described port belongs to a live node. -/
theorem node?_of_portSpec {g : Graph} {p : Port} {spec : PortSpec}
    (h : g.portSpec p = .ok spec) : ∃ n, g.node? p.node = some n := by
  cases hn : g.node? p.node with
  | none => simp [portSpec, hn] at h
  | some n => exact ⟨n, rfl⟩

/-- Appending a node leaves the others where they are. -/
theorem node?_pushNode {g : Graph} {id : NodeId} {n : Node} (h : g.node? id = some n)
    (kind : Kind) : (g.pushNode kind).2.node? id = some n := by
  simp [node?, pushNode, List.find?_append, show g.nodes.find? _ = _ from h]

/-- Freeing a port affects the lookup of that port only. -/
theorem find?_filter_ne (feeds : List (Port × ConnId)) (freed dst : Port) :
    (feeds.filter (·.1 != freed)).find? (·.1 == dst) =
      if dst = freed then none else feeds.find? (·.1 == dst) := by
  induction feeds with
  | nil => simp
  | cons f rest ih =>
    by_cases hf : f.1 = freed
    · by_cases hd : dst = freed
      · simp [hd]
      · simpa [hf, hd, Ne.symm hd] using ih
    · by_cases hd : f.1 = dst
      · have hne : dst ≠ freed := fun he => hf (hd.trans he)
        simp [hd, hne]
      · simpa [hf, hd] using ih

/-- Freeing a free port does nothing. -/
theorem filter_feeds_of_free {g : Graph} {dst : Port} (hfree : g.feed? dst = none) :
    g.feeds.filter (·.1 != dst) = g.feeds := by
  refine List.filter_eq_self.mpr fun f hf => ?_
  have hother := List.find?_eq_none.mp (Option.map_eq_none_iff.mp hfree) f hf
  simpa using hother

/-- Dropping a connection frees its destination. -/
theorem feed?_dropConn (g : Graph) (c : Connection) (dst : Port) :
    (g.dropConn c).feed? dst = if dst = c.dst then none else g.feed? dst := by
  simp only [feed?, dropConn, find?_filter_ne]
  split <;> rfl

/-- Appending a connection makes it feed its destination. -/
theorem feed?_pushConn (g : Graph) (src dst port : Port) :
    (g.pushConn src dst).2.feed? port =
      if port = dst then some (g.lastConn + 1) else g.feed? port := by
  by_cases hp : port = dst
  · simp [feed?, pushConn, hp]
  · simp only [feed?, pushConn]
    rw [List.find?_cons_of_neg (by simp [Ne.symm hp]), find?_filter_ne]
    simp [hp]

namespace WellFormed

variable {g : Graph}

/-- A lookup of a node finds the listed node with the number. -/
theorem node?_iff (h : g.WellFormed) {id : NodeId} {n : Node} :
    g.node? id = some n ↔ n ∈ g.nodes ∧ n.id = id :=
  h.nodesAscending.find?_eq_some_iff

/-- No connection has the next number. -/
theorem connId_ne_next (h : g.WellFormed) {c : Connection} (hc : c ∈ g.conns) :
    c.id ≠ g.lastConn + 1 :=
  Int.ne_of_lt (h.connIds c hc).next.2

/-- An output node is the output. -/
theorem output_eq (h : g.WellFormed) {n : Node} (hn : n ∈ g.nodes)
    (hends : n.kind.isOutput = true) : g.output = some n.id :=
  (h.output n.id).mpr ⟨n, hn, rfl, hends⟩

/-- The output is the only output node. -/
theorem id_eq_output (h : g.WellFormed) {n : Node} (hn : n ∈ g.nodes)
    (hends : n.kind.isOutput = true) {root : NodeId} (hroot : g.output = some root) : n.id = root :=
  Option.some.inj ((h.output_eq hn hends).symm.trans hroot)

/-- A lookup of a connection finds the listed connection with the number. -/
theorem conn?_iff (h : g.WellFormed) {id : ConnId} {c : Connection} :
    g.conn? id = some c ↔ c ∈ g.conns ∧ c.id = id :=
  h.connsAscending.find?_eq_some_iff

/-- An input is fed by the connection that ends there. -/
theorem feed?_iff (h : g.WellFormed) {dst : Port} {id : ConnId} :
    g.feed? dst = some id ↔ ∃ c ∈ g.conns, c.id = id ∧ c.dst = dst := by
  rw [h.feeds]
  constructor
  · rintro ⟨c, hc, hid, hdst⟩
    exact ⟨c, (h.conn?_iff.mp hc).1, hid, hdst⟩
  · rintro ⟨c, hc, hid, hdst⟩
    exact ⟨c, h.conn?_iff.mpr ⟨hc, hid⟩, hid, hdst⟩

/-- An input is free exactly if no connection ends there. -/
theorem feed?_eq_none_iff (h : g.WellFormed) {dst : Port} :
    g.feed? dst = none ↔ ∀ c ∈ g.conns, c.dst ≠ dst := by
  rw [Option.eq_none_iff_forall_ne_some]
  constructor
  · intro hfree c hc hdst
    exact hfree c.id (h.feed?_iff.mpr ⟨c, hc, rfl, hdst⟩)
  · intro hfree id hid
    obtain ⟨c, hc, -, hdst⟩ := h.feed?_iff.mp hid
    exact hfree c hc hdst

/-- Two connections never end at one input. -/
theorem eq_of_dst_eq (h : g.WellFormed) {c d : Connection} (hc : c ∈ g.conns) (hd : d ∈ g.conns)
    (hdst : c.dst = d.dst) : c = d := by
  have hc' := h.feed?_iff.mpr ⟨c, hc, rfl, rfl⟩
  have hd' := h.feed?_iff.mpr ⟨d, hd, rfl, rfl⟩
  rw [hdst, hd'] at hc'
  exact h.connsAscending.eq_of_key_eq hc hd (Option.some.inj hc').symm

/-- The ends of a connection are live. -/
theorem live_of_conn (h : g.WellFormed) {c : Connection} (hc : c ∈ g.conns) :
    (∃ n, g.node? c.src.node = some n) ∧ ∃ n, g.node? c.dst.node = some n := by
  obtain ⟨-, -, src, dst, hsrc, hdst, -⟩ := h.linked c hc
  exact ⟨node?_of_portSpec hsrc, node?_of_portSpec hdst⟩

end WellFormed

end Graph

end FieldGraph
