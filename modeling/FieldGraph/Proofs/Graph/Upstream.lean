import FieldGraph.Proofs.Graph.Wiring

/-!
# What compilation sees of a graph

Ordering, generation and the construction of fields look at a node through its kind, its
parameters and the nodes that feed its inputs. They see neither its place on the canvas nor the
numbers of connections, and nothing at all of a node that does not feed the output. Two graphs that
show the same upstream of one output have the same order; if they show the same everywhere they
have the same report.
-/

namespace FieldGraph

open Relation

/-- A node without its place on the canvas. -/
def Node.unplaced (n : Node) : Node := { n with position := {} }

namespace Graph

variable {g g' : Graph}

/-! ## Sources -/

/-- The node that feeds a numbered input. -/
def source? (g : Graph) (id : NodeId) (index : Nat) : Option NodeId :=
  (g.incoming? (.into id index)).map (·.src.node)

/-- Where inputs have the same source, nothing feeds both or connections from one node do. -/
theorem incoming?_cases {id : NodeId} {index : Nat} (h : g.source? id index = g'.source? id index) :
    (g.incoming? (.into id index) = none ∧ g'.incoming? (.into id index) = none) ∨
      ∃ c c', g.incoming? (.into id index) = some c ∧ g'.incoming? (.into id index) = some c' ∧
        c'.src.node = c.src.node := by
  unfold source? at h
  cases hin : g.incoming? (.into id index) with
  | none =>
    rw [hin, Option.map_none, eq_comm, Option.map_eq_none_iff] at h
    exact Or.inl ⟨rfl, h⟩
  | some c =>
    rw [hin, Option.map_some, eq_comm, Option.map_eq_some_iff] at h
    obtain ⟨c', hin', hsame⟩ := h
    exact Or.inr ⟨c, c', rfl, hin', hsame⟩

/-- The source of an input is where the connection that ends there comes from. -/
theorem WellFormed.source?_eq_some_iff (h : g.WellFormed) {id a : NodeId} {index : Nat} :
    g.source? id index = some a ↔ ∃ c ∈ g.conns, c.dst = .into id index ∧ c.src.node = a := by
  rw [source?, Option.map_eq_some_iff]
  simp only [h.directed.incoming?_iff, and_assoc]

/-- A node feeds another exactly when it is the source of one of its inputs. -/
theorem WellFormed.feeds_iff_source (h : g.WellFormed) {a b : NodeId} :
    g.Feeds a b ↔ ∃ index : Nat, g.source? b index = some a := by
  simp only [h.source?_eq_some_iff]
  constructor
  · rintro ⟨c, hc, rfl, rfl⟩
    obtain ⟨-, hin, _, _, -, hport, -⟩ := h.linked c hc
    obtain ⟨_, index, -, hinto, -⟩ := input_of_portSpec hin hport
    exact ⟨index, c, hc, hinto, rfl⟩
  · rintro ⟨index, c, hc, hinto, rfl⟩
    exact ⟨c, hc, rfl, by rw [hinto]; rfl⟩

/-- Connections that go between the same ports give inputs the same sources. -/
theorem WellFormed.source?_congr (h : g.WellFormed) (h' : g'.WellFormed) {id : NodeId}
    (hconns : ∀ src dst, dst.node = id →
      ((∃ c ∈ g.conns, c.src = src ∧ c.dst = dst) ↔ ∃ c ∈ g'.conns, c.src = src ∧ c.dst = dst))
    (index : Nat) : g.source? id index = g'.source? id index := by
  refine Option.ext fun a => ?_
  rw [h.source?_eq_some_iff, h'.source?_eq_some_iff]
  constructor
  · rintro ⟨c, hc, hdst, rfl⟩
    obtain ⟨c', hc', hsrc', hdst'⟩ :=
      (hconns c.src c.dst (by rw [hdst]; rfl)).mp ⟨c, hc, rfl, rfl⟩
    exact ⟨c', hc', hdst'.trans hdst, by rw [hsrc']⟩
  · rintro ⟨c, hc, hdst, rfl⟩
    obtain ⟨c', hc', hsrc', hdst'⟩ :=
      (hconns c.src c.dst (by rw [hdst]; rfl)).mpr ⟨c, hc, rfl, rfl⟩
    exact ⟨c', hc', hdst'.trans hdst, by rw [hsrc']⟩

/-- What the listed nodes consume depends on their kinds and sources. -/
theorem consumed_congr {order : List NodeId}
    (hkind : ∀ id ∈ order, (g.node? id).map (·.kind) = (g'.node? id).map (·.kind))
    (hsource : ∀ id ∈ order, ∀ index, g.source? id index = g'.source? id index) :
    g.consumed order = g'.consumed order := by
  refine List.flatMap_congr fun id hid => ?_
  have hkind := hkind id hid
  cases hn : g.node? id with
  | none =>
    rw [hn, Option.map_none, eq_comm, Option.map_eq_none_iff] at hkind
    simp only [hkind]
  | some n =>
    rw [hn, Option.map_some, eq_comm, Option.map_eq_some_iff] at hkind
    obtain ⟨n', hn', hsame⟩ := hkind
    simp only [hn', hsame]
    exact List.filterMap_congr fun index _ => hsource id hid index

/-! ## Agreement -/

/-- Two graphs show the same under a number: no node, or nodes of one kind with the same
parameters whose inputs have the same sources. -/
structure SameAt (g g' : Graph) (id : NodeId) : Prop where
  node : (g.node? id).map Node.unplaced = (g'.node? id).map Node.unplaced
  source : ∀ index, g.source? id index = g'.source? id index

namespace SameAt

variable {id : NodeId}

theorem symm (h : SameAt g g' id) : SameAt g' g id :=
  ⟨h.node.symm, fun index => (h.source index).symm⟩

theorem trans {g'' : Graph} (h : SameAt g g' id) (h' : SameAt g' g'' id) : SameAt g g'' id :=
  ⟨h.node.trans h'.node, fun index => (h.source index).trans (h'.source index)⟩

/-- Either both graphs lack the node or both have it, up to its place. -/
theorem node_cases (h : SameAt g g' id) :
    (g.node? id = none ∧ g'.node? id = none) ∨
      ∃ n position, g.node? id = some n ∧ g'.node? id = some { n with position } := by
  have hnode := h.node
  cases hn : g.node? id with
  | none =>
    rw [hn, Option.map_none, eq_comm, Option.map_eq_none_iff] at hnode
    exact Or.inl ⟨rfl, hnode⟩
  | some n =>
    rw [hn, Option.map_some, eq_comm, Option.map_eq_some_iff] at hnode
    obtain ⟨n', hn', hsame⟩ := hnode
    simp only [Node.unplaced, Node.mk.injEq] at hsame
    obtain ⟨hid, hkind, hparams, -⟩ := hsame
    refine Or.inr ⟨n, n'.position, rfl, hn'.trans (congrArg some ?_)⟩
    rw [← hid, ← hkind, ← hparams]

/-- Both graphs show a node of the same kind. -/
theorem kind (h : SameAt g g' id) :
    (g.node? id).map (·.kind) = (g'.node? id).map (·.kind) := by
  rcases h.node_cases with ⟨hn, hn'⟩ | ⟨n, position, hn, hn'⟩
  · rw [hn, hn']
  · rw [hn, hn']
    rfl

end SameAt

/-- A node is the output or feeds it, directly or through others. -/
def FeedsOutput (g : Graph) (id : NodeId) : Prop :=
  ∃ root, g.output = some root ∧ ReflTransGen g.Feeds id root

/-- What feeds the output are the ancestors of the output. -/
theorem WellFormed.feedsOutput_iff (h : g.WellFormed) {id : NodeId} :
    g.FeedsOutput id ↔ ∃ root, g.output = some root ∧ id ∈ g.ancestors root := by
  simp only [FeedsOutput, h.directed.mem_ancestors]

/-- What is no ancestor of the output does not feed it. -/
theorem WellFormed.not_feedsOutput (h : g.WellFormed) {id : NodeId}
    (hid : ∀ root ∈ g.output, id ∉ g.ancestors root) : ¬ g.FeedsOutput id := by
  rw [h.feedsOutput_iff]
  rintro ⟨root, hroot, hmem⟩
  exact hid root hroot hmem

/-- What feeds a node that feeds the output feeds the output. -/
theorem FeedsOutput.head {a b : NodeId} (hab : g.Feeds a b) (h : g.FeedsOutput b) :
    g.FeedsOutput a := by
  obtain ⟨root, hroot, hpath⟩ := h
  exact ⟨root, hroot, .head hab hpath⟩

/-- What feeds the output exists. -/
theorem WellFormed.isLive_of_feedsOutput (h : g.WellFormed) {id : NodeId}
    (hid : g.FeedsOutput id) : ∃ n, g.node? id = some n := by
  obtain ⟨root, hroot, hpath⟩ := hid
  exact Option.isSome_iff_exists.mp
    (h.directed.isLive_of_path (h.directed.output root hroot) hpath)

/-- Two graphs have the same output and show the same at everything that feeds it. -/
structure SameUpstream (g g' : Graph) : Prop where
  output : g.output = g'.output
  same : ∀ id, g.FeedsOutput id → SameAt g g' id

namespace SameUpstream

theorem refl (g : Graph) : SameUpstream g g := ⟨rfl, fun _ _ => ⟨rfl, fun _ => rfl⟩⟩

/-- The same nodes feed the output. -/
theorem feedsOutput_iff (hsame : SameUpstream g g') (h : g.WellFormed) (h' : g'.WellFormed)
    {id : NodeId} : g'.FeedsOutput id ↔ g.FeedsOutput id := by
  have hfeeds : ∀ a b, g.FeedsOutput b → (g.Feeds a b ↔ g'.Feeds a b) := fun a b hb => by
    rw [h.feeds_iff_source, h'.feeds_iff_source]
    simp only [(hsame.same b hb).source]
  -- Walking from the output backwards, every step starts at a node where both graphs agree.
  constructor
  · rintro ⟨root, hroot, hpath⟩
    induction hpath using ReflTransGen.head_induction_on with
    | refl => exact ⟨root, hsame.output.trans hroot, .refl⟩
    | head hstep _ ih => exact ih.head ((hfeeds _ _ ih).mpr hstep)
  · rintro ⟨root, hroot, hpath⟩
    have hboth : g.FeedsOutput id ∧ g'.FeedsOutput id := by
      induction hpath using ReflTransGen.head_induction_on with
      | refl => exact ⟨⟨root, hroot, .refl⟩, root, hsame.output.symm.trans hroot, .refl⟩
      | head hstep _ ih =>
        exact ⟨ih.1.head hstep, ih.2.head ((hfeeds _ _ ih.1).mp hstep)⟩
    exact hboth.2

theorem trans {g'' : Graph} (hsame : SameUpstream g g') (h : g.WellFormed) (h' : g'.WellFormed)
    (hsame' : SameUpstream g' g'') : SameUpstream g g'' where
  output := hsame.output.trans hsame'.output
  same id hid := (hsame.same id hid).trans (hsame'.same id ((hsame.feedsOutput_iff h h').mpr hid))

end SameUpstream

/-! ## Orders -/

/-- Rearranged numbers are sorted into the same list. -/
theorem sortIds_eq_of_perm {ids ids' : List NodeId} (h : ids.Perm ids') :
    sortIds ids = sortIds ids' :=
  List.Perm.eq_of_pairwise (fun _ _ _ _ hab hba => Int.le_antisymm hab hba) (pairwise_sortIds ids)
    (pairwise_sortIds ids') ((sortIds_perm ids).trans (h.trans (sortIds_perm ids').symm))

/-- Draining depends on which edges there are, not on how they are listed. -/
theorem drain_congr (remaining : List NodeId) (edges edges' : List (NodeId × NodeId))
    (h : ∀ a b, (a, b) ∈ edges ↔ (a, b) ∈ edges') :
    drain remaining edges = drain remaining edges' := by
  have hready : ∀ (remaining : List NodeId) {edges edges' : List (NodeId × NodeId)},
      (∀ a b, (a, b) ∈ edges ↔ (a, b) ∈ edges') →
      ready? remaining edges = ready? remaining edges' := by
    intro remaining edges edges' h
    unfold ready?
    congr 1
    funext n
    rw [Bool.eq_iff_iff, List.all_eq_true, List.all_eq_true]
    simp only [Prod.forall, h]
  fun_induction drain remaining edges generalizing edges' with
  | case1 remaining edges hnone =>
    rw [hready remaining h] at hnone
    rw [drain]
    split
    · rfl
    next n hsome => cases hnone.symm.trans hsome
  | case2 remaining edges n hfound taken left hrec ih =>
    rw [hready remaining h] at hfound
    have hlater := ih (without edges' n) fun a b => by rw [mem_without, mem_without, h]
    rw [drain]
    split
    next hnone => cases hfound.symm.trans hnone
    next m hsome =>
      obtain rfl : n = m := Option.some.inj (hfound.symm.trans hsome)
      rw [← hlater, hrec]

/-- Graphs that show the same upstream have the same order. -/
theorem SameUpstream.order_eq (hsame : SameUpstream g g') (h : g.WellFormed)
    (h' : g'.WellFormed) : g.order = g'.order := by
  cases hout : g.output with
  | none =>
    have hout' : g'.output = none := hsame.output.symm.trans hout
    simp only [Graph.order, hout, hout']
  | some root =>
    have hout' : g'.output = some root := hsame.output.symm.trans hout
    have hmem : ∀ id, id ∈ g.ancestors root ↔ id ∈ g'.ancestors root := by
      intro id
      have hfeeds : g'.FeedsOutput id ↔ g.FeedsOutput id := hsame.feedsOutput_iff h h'
      simpa only [h.feedsOutput_iff, h'.feedsOutput_iff, hout, hout', Option.some.injEq,
        exists_eq_left', eq_comm] using hfeeds.symm
    have hsorted : g.upstream root = g'.upstream root :=
      sortIds_eq_of_perm ((List.perm_ext_iff_of_nodup (nodup_search _ _ _ List.nodup_nil)
        (nodup_search _ _ _ List.nodup_nil)).mpr hmem)
    rw [h.order_eq_drained hout, h'.order_eq_drained hout', drained, drained, hsorted]
    refine congrArg (fun drained => Except.ok drained.1) (drain_congr _ _ _ fun a b => ?_)
    simp only [entering, hsorted, List.mem_filter, decide_eq_true_eq, and_congr_left_iff]
    intro hb
    have hup : g.FeedsOutput b := h.feedsOutput_iff.mpr
      ⟨root, hout, (hmem b).mpr ((sortIds_perm _).mem_iff.mp hb)⟩
    change Leads g.edges a b ↔ Leads g'.edges a b
    rw [leads_edges_iff, leads_edges_iff, h.feeds_iff_source, h'.feeds_iff_source]
    simp only [(hsame.same b hup).source]

/-! ## Reports -/

/-- An input has no source exactly when nothing feeds it. -/
theorem source?_eq_none_iff {id : NodeId} {index : Nat} :
    g.source? id index = none ↔ g.feed? (.into id index) = none := by
  rw [source?, Option.map_eq_none_iff, incoming?_eq_none_iff]

/-- Graphs with the same nodes and the same sources have the same report. -/
theorem WellFormed.validate_congr (h : g.WellFormed) (h' : g'.WellFormed)
    (hnodes : g.nodes = g'.nodes) (hsource : ∀ id index, g.source? id index = g'.source? id index) :
    g.validate = g'.validate := by
  have hfeeds : g.Feeds = g'.Feeds := by
    funext a b
    rw [eq_iff_iff, h.feeds_iff_source, h'.feeds_iff_source]
    simp only [hsource]
  have hopen : ∀ id (index : Nat), (g.feed? (.into id index)).isNone =
      (g'.feed? (.into id index)).isNone := by
    intro id index
    rw [Bool.eq_iff_iff, Option.isNone_iff_eq_none, Option.isNone_iff_eq_none,
      ← source?_eq_none_iff, ← source?_eq_none_iff, hsource]
  have hfindings : ∀ first n, g.nodeFindings first (g.ancestors first) n =
      g'.nodeFindings first (g'.ancestors first) n := by
    intro first n
    have hmem : n.id ∈ g.ancestors first ↔ n.id ∈ g'.ancestors first := by
      rw [h.directed.mem_ancestors, h'.directed.mem_ancestors, hfeeds]
    simp only [nodeFindings, unconnectedInputs, hopen, hmem]
  have houtputs : g.outputs = g'.outputs := by rw [outputs, hnodes, outputs]
  rw [h.validate_eq, h'.validate_eq, report, report, houtputs, hnodes]
  simp only [funext (hfindings _)]

end Graph

end FieldGraph
