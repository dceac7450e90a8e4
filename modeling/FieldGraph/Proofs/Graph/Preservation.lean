import FieldGraph.Proofs.Graph.Invariant

/-!
# Every edit keeps the invariant

The invariant is proved of the empty graph and of each kind of step. Removing a node is read as
dropping its connections one by one, after which the node is isolated and can go. A connection
keeps the graph acyclic because the search that guards it finds every path.
-/

namespace FieldGraph

open Relation

/-- An edge from `s` to `d` closes a cycle only where a path leads back from `d` to `s`. -/
theorem acyclic_of_insert {α : Type} {r r' : α → α → Prop} {s d : α}
    (hr : ∀ n, ¬ TransGen r n n) (hback : ¬ ReflTransGen r d s)
    (hr' : ∀ a b, r' a b → r a b ∨ a = s ∧ b = d) : ∀ n, ¬ TransGen r' n n := by
  -- Every path of the larger relation is an old path or crosses the new edge.
  have hcross : ∀ a b, TransGen r' a b →
      TransGen r a b ∨ ReflTransGen r a s ∧ ReflTransGen r d b := by
    intro a b hab
    induction hab with
    | single hstep =>
      rcases hr' _ _ hstep with hold | ⟨rfl, rfl⟩
      · exact Or.inl (.single hold)
      · exact Or.inr ⟨.refl, .refl⟩
    | tail _ hstep ih =>
      rcases hr' _ _ hstep with hold | ⟨rfl, rfl⟩
      · rcases ih with hpath | ⟨hs, hd⟩
        · exact Or.inl (hpath.tail hold)
        · exact Or.inr ⟨hs, hd.tail hold⟩
      · rcases ih with hpath | ⟨hs, hd⟩
        · exact Or.inr ⟨hpath.to_reflTransGen, .refl⟩
        · exact Or.inr ⟨hs, .refl⟩
  intro n hn
  rcases hcross n n hn with hold | ⟨hs, hd⟩
  · exact hr n hold
  · exact hback (hd.trans hs)

namespace Graph

/-- Dropping a connection leaves the others. -/
theorem mem_conns_dropConn {g : Graph} {c d : Connection} :
    d ∈ (g.dropConn c).conns ↔ d ∈ g.conns ∧ d.id ≠ c.id := by
  simp [dropConn]

/-- Appending a connection adds nothing else. -/
theorem mem_conns_pushConn {g : Graph} {src dst : Port} {c : Connection} :
    c ∈ (g.pushConn src dst).2.conns ↔ c ∈ g.conns ∨ c = ⟨g.lastConn + 1, src, dst⟩ := by
  simp [pushConn]

/-- Appending a connection adds one step. -/
theorem feeds_pushConn {g : Graph} {src dst : Port} {a b : NodeId} :
    (g.pushConn src dst).2.Feeds a b ↔ g.Feeds a b ∨ a = src.node ∧ b = dst.node := by
  simp only [Feeds, mem_conns_pushConn]
  constructor
  · rintro ⟨c, hc | rfl, rfl, rfl⟩
    · exact Or.inl ⟨c, hc, rfl, rfl⟩
    · exact Or.inr ⟨rfl, rfl⟩
  · rintro (⟨c, hc, rfl, rfl⟩ | ⟨rfl, rfl⟩)
    · exact ⟨c, Or.inl hc, rfl, rfl⟩
    · exact ⟨_, Or.inr rfl, rfl, rfl⟩

namespace WellFormed

variable {g : Graph}

/-- The empty graph satisfies the invariant. -/
theorem empty (catalog : Catalog) : (Graph.empty catalog).WellFormed where
  acyclic n hn := by
    obtain ⟨b, hb, -⟩ := (TransGen.head'_iff.mp hn)
    obtain ⟨c, hc, -⟩ := hb
    simp [Graph.empty] at hc
  feeds := by simp [Graph.empty, feed?, conn?]
  linked := by simp [Graph.empty]
  output := by simp [Graph.empty]
  params := by simp [Graph.empty]
  nodeIds := by simp [Graph.empty]
  connIds := by simp [Graph.empty]
  nodesAscending := List.Pairwise.nil
  connsAscending := List.Pairwise.nil
  kinds := by simp [Graph.empty]
  counters := by simp [Graph.empty, Issued]

/-- A new node has a number above all others and nothing touches it. -/
theorem pushNode (h : g.WellFormed) {kind : Kind} (hkind : kind ∈ g.catalog.kinds)
    (hfault : kind.Faultless) (hsingle : kind.isOutput = true → g.output = none) :
    (g.pushNode kind).2.WellFormed where
  acyclic := h.acyclic
  feeds := h.feeds
  linked c hc := by
    refine (h.linked c hc).mono ?_
    intro id n _ hn
    exact ⟨n, node?_pushNode hn kind, rfl⟩
  output id := by
    simp only [Graph.pushNode, List.mem_append, List.mem_singleton]
    cases hout : kind.isOutput with
    | false =>
      simp only [Bool.false_and, Bool.false_eq_true, if_false, h.output]
      constructor
      · rintro ⟨n, hn, hid, ho⟩
        exact ⟨n, Or.inl hn, hid, ho⟩
      · rintro ⟨n, hn | rfl, hid, ho⟩
        · exact ⟨n, hn, hid, ho⟩
        · simp [hout] at ho
    | true =>
      have hnone := hsingle hout
      simp only [hnone, Bool.true_and, Option.isNone_none, if_true, Option.some.injEq]
      constructor
      · rintro rfl
        exact ⟨_, Or.inr rfl, rfl, hout⟩
      · rintro ⟨n, hn | rfl, hid, ho⟩
        · have := (h.output n.id).mpr ⟨n, hn, rfl, ho⟩
          simp [hnone] at this
        · exact hid
  params n hn := by
    rcases List.mem_append.mp hn with hn | hn
    · exact h.params n hn
    · rw [List.mem_singleton.mp hn]
      simp only [Node.InRange, Signature.defaults, List.forall₂_map_right_iff]
      exact List.forall₂_same.mpr hfault.inRange_default
  nodeIds n hn := by
    rcases List.mem_append.mp hn with hn | hn
    · exact (h.nodeIds n hn).next.1
    · rw [List.mem_singleton.mp hn]
      exact h.counters.1
  connIds := h.connIds
  nodesAscending := h.nodesAscending.concat fun n hn => (h.nodeIds n hn).next.2
  connsAscending := h.connsAscending
  kinds n hn := by
    rcases List.mem_append.mp hn with hn | hn
    · exact h.kinds n hn
    · rw [List.mem_singleton.mp hn]
      exact hkind
  counters := ⟨h.counters.1.succ, h.counters.2⟩

/-- A new connection has a number above all others. -/
theorem ascending_pushConn (h : g.WellFormed) (src dst : Port) :
    Ascending Connection.id (g.pushConn src dst).2.conns :=
  h.connsAscending.concat fun c hc => (h.connIds c hc).next.2

/-- The index and the connections still agree after a connection to a free input. -/
theorem feed?_pushConn_iff (h : g.WellFormed) {src dst : Port} (hfree : g.feed? dst = none)
    (port : Port) (id : ConnId) :
    (g.pushConn src dst).2.feed? port = some id ↔
      ∃ c, (g.pushConn src dst).2.conn? id = some c ∧ c.id = id ∧ c.dst = port := by
  have hconn : ∀ c, (g.pushConn src dst).2.conn? id = some c ↔
      c ∈ (g.pushConn src dst).2.conns ∧ c.id = id :=
    fun c => (h.ascending_pushConn src dst).find?_eq_some_iff
  simp only [hconn, mem_conns_pushConn, feed?_pushConn]
  by_cases hp : port = dst
  · subst hp
    simp only [if_true, Option.some.injEq]
    constructor
    · rintro rfl
      exact ⟨_, ⟨Or.inr rfl, rfl⟩, rfl, rfl⟩
    · rintro ⟨c, ⟨hc | rfl, -⟩, hid, hd⟩
      · have := h.feed?_iff.mpr ⟨c, hc, rfl, hd⟩
        simp [hfree] at this
      · exact hid
  · simp only [hp, if_false, h.feed?_iff]
    constructor
    · rintro ⟨c, hc, hid, hd⟩
      exact ⟨c, ⟨Or.inl hc, hid⟩, hid, hd⟩
    · rintro ⟨c, ⟨hc | rfl, -⟩, hid, hd⟩
      · exact ⟨c, hc, hid, hd⟩
      · exact absurd hd.symm hp

/-- A connection that was checked can be added. -/
theorem pushConn (h : g.WellFormed) {src dst : Port} {srcSpec dstSpec : PortSpec}
    (hout : src.direction = .output) (hin : dst.direction = .input)
    (hsrc : g.portSpec src = .ok srcSpec) (hdst : g.portSpec dst = .ok dstSpec)
    (htype : srcSpec.type = dstSpec.type) (hfree : g.feed? dst = none)
    (hopen : g.reaches dst.node src.node = false) : (g.pushConn src dst).2.WellFormed := by
  refine
    { acyclic := ?_, feeds := h.feed?_pushConn_iff hfree, linked := ?_, output := h.output
      params := h.params, nodeIds := h.nodeIds, connIds := ?_
      nodesAscending := h.nodesAscending, connsAscending := h.ascending_pushConn src dst
      kinds := h.kinds, counters := ⟨h.counters.1, h.counters.2.succ⟩ }
  · refine acyclic_of_insert h.acyclic (s := src.node) (d := dst.node) ?_ ?_
    · rw [← reaches_iff, hopen]
      simp
    · exact fun a b => feeds_pushConn.mp
  · intro c hc
    rcases mem_conns_pushConn.mp hc with hc | rfl
    · exact h.linked c hc
    · exact ⟨hout, hin, srcSpec, dstSpec, hsrc, hdst, htype⟩
  · intro c hc
    rcases mem_conns_pushConn.mp hc with hc | rfl
    · exact (h.connIds c hc).next.1
    · exact h.counters.2

/-- A listed connection can be dropped. -/
theorem dropConn (h : g.WellFormed) {c : Connection} (hc : c ∈ g.conns) :
    (g.dropConn c).WellFormed := by
  have hasc : Ascending Connection.id (g.dropConn c).conns := h.connsAscending.filter _
  refine
    { acyclic := ?_, feeds := ?_, linked := ?_, output := h.output, params := h.params
      nodeIds := h.nodeIds, connIds := ?_, nodesAscending := h.nodesAscending
      connsAscending := hasc, kinds := h.kinds, counters := h.counters }
  · intro n hn
    refine h.acyclic n (TransGen.mono ?_ _ _ hn)
    rintro a b ⟨d, hd, rfl, rfl⟩
    exact ⟨d, (mem_conns_dropConn.mp hd).1, rfl, rfl⟩
  · intro port id
    have hconn : ∀ d, (g.dropConn c).conn? id = some d ↔
        d ∈ (g.dropConn c).conns ∧ d.id = id :=
      fun d => hasc.find?_eq_some_iff
    simp only [hconn, mem_conns_dropConn, feed?_dropConn]
    by_cases hp : port = c.dst
    · subst hp
      simp only [if_true, reduceCtorEq, false_iff]
      rintro ⟨d, ⟨⟨hd, hne⟩, -⟩, -, hdst⟩
      exact hne (congrArg Connection.id (h.eq_of_dst_eq hd hc hdst))
    · simp only [hp, if_false, h.feed?_iff]
      constructor
      · rintro ⟨d, hd, hid, hdst⟩
        refine ⟨d, ⟨⟨hd, ?_⟩, hid⟩, hid, hdst⟩
        intro hsame
        rw [h.connsAscending.eq_of_key_eq hd hc hsame] at hdst
        exact hp hdst.symm
      · rintro ⟨d, ⟨⟨hd, -⟩, -⟩, hid, hdst⟩
        exact ⟨d, hd, hid, hdst⟩
  · intro d hd
    exact h.linked d (mem_conns_dropConn.mp hd).1
  · intro d hd
    exact h.connIds d (mem_conns_dropConn.mp hd).1

/-- Listed connections can be dropped one after the other. -/
theorem foldl_dropConn (h : g.WellFormed) {removed : List Connection}
    (hmem : ∀ c ∈ removed, c ∈ g.conns) (hasc : Ascending Connection.id removed) :
    (removed.foldl Graph.dropConn g).WellFormed := by
  induction removed generalizing g with
  | nil => exact h
  | cons c rest ih =>
    obtain ⟨hfirst, hrest⟩ := List.pairwise_cons.mp hasc
    refine ih (h.dropConn (hmem c (List.mem_cons_self ..))) ?_ hrest
    intro d hd
    have hlt : c.id < d.id := hfirst d hd
    exact mem_conns_dropConn.mpr ⟨hmem d (List.mem_cons_of_mem c hd), Int.ne_of_gt hlt⟩

/-- A node that nothing touches can be left out. -/
theorem dropNode (h : g.WellFormed) {id : NodeId}
    (hfree : ∀ c ∈ g.conns, c.src.node ≠ id ∧ c.dst.node ≠ id) :
    ({ g with
      nodes := g.nodes.filter (·.id != id)
      output := if g.output = some id then none else g.output } : Graph).WellFormed where
  acyclic := h.acyclic
  feeds := h.feeds
  linked c hc := by
    refine (h.linked c hc).mono ?_
    intro k n hk hn
    have hne : k ≠ id := by
      rcases hk with rfl | rfl
      · exact (hfree c hc).1
      · exact (hfree c hc).2
    obtain ⟨hmem, hid⟩ := h.node?_iff.mp hn
    refine ⟨n, (h.nodesAscending.filter _).find?_eq_some_iff.mpr ⟨?_, hid⟩, rfl⟩
    exact List.mem_filter.mpr ⟨hmem, by simp [hid, hne]⟩
  output k := by
    simp only [List.mem_filter, bne_iff_ne, ne_eq]
    by_cases ho : g.output = some id
    · simp only [ho, if_true, reduceCtorEq, false_iff]
      rintro ⟨n, ⟨hn, hne⟩, hid, hout⟩
      have := (h.output n.id).mpr ⟨n, hn, rfl, hout⟩
      rw [ho] at this
      exact hne (Option.some.inj this).symm
    · simp only [ho, if_false, h.output]
      constructor
      · rintro ⟨n, hn, rfl, hout⟩
        refine ⟨n, ⟨hn, ?_⟩, rfl, hout⟩
        rintro rfl
        exact ho ((h.output _).mpr ⟨n, hn, rfl, hout⟩)
      · rintro ⟨n, ⟨hn, -⟩, hid, hout⟩
        exact ⟨n, hn, hid, hout⟩
  params n hn := h.params n (List.mem_filter.mp hn).1
  nodeIds n hn := h.nodeIds n (List.mem_filter.mp hn).1
  connIds := h.connIds
  nodesAscending := h.nodesAscending.filter _
  connsAscending := h.connsAscending
  kinds n hn := h.kinds n (List.mem_filter.mp hn).1
  counters := h.counters

/-- A node goes with everything that touches it. -/
theorem withoutNode (h : g.WellFormed) (id : NodeId) : (g.withoutNode id).WellFormed := by
  have hdropped : ((g.touching id).foldl Graph.dropConn g).WellFormed :=
    h.foldl_dropConn (fun c hc => (List.mem_filter.mp hc).1) (h.connsAscending.filter _)
  have hfree : ∀ c ∈ ((g.touching id).foldl Graph.dropConn g).conns,
      c.src.node ≠ id ∧ c.dst.node ≠ id := by
    intro c hc
    rw [Graph.foldl_dropConn] at hc
    obtain ⟨hmem, hkept⟩ := List.mem_filter.mp hc
    by_contra htouch
    have htouch : c ∈ g.touching id :=
      List.mem_filter.mpr ⟨hmem, by simpa [or_iff_not_and_not] using htouch⟩
    simpa using List.all_eq_true.mp hkept c htouch
  have hgone := hdropped.dropNode hfree
  rw [Graph.foldl_dropConn] at hgone
  rw [Graph.withoutNode, Graph.foldl_dropConn]
  exact hgone

/-- Looking up a node after one was changed. -/
theorem node?_updateNode (h : g.WellFormed) {id k : NodeId} {f : Node → Node}
    (hid : ∀ n, (f n).id = n.id) {n : Node} (hn : g.node? k = some n) :
    (g.updateNode id f).node? k = some (if n.id = id then f n else n) := by
  have hkeep : ∀ n : Node, (if n.id = id then f n else n).id = n.id := by
    intro n
    split
    · exact hid n
    · rfl
  obtain ⟨hmem, rfl⟩ := h.node?_iff.mp hn
  refine (h.nodesAscending.map hkeep).find?_eq_some_iff.mpr ⟨?_, hkeep n⟩
  exact List.mem_map.mpr ⟨n, hmem, rfl⟩

/-- A node may change as long as number, kind and ranges stay. -/
theorem updateNode (h : g.WellFormed) {id : NodeId} {f : Node → Node}
    (hid : ∀ n, (f n).id = n.id) (hkind : ∀ n, (f n).kind = n.kind)
    (hrange : ∀ n ∈ g.nodes, n.id = id → n.InRange → (f n).InRange) :
    (g.updateNode id f).WellFormed := by
  have hmem : ∀ n, n ∈ (g.updateNode id f).nodes →
      ∃ m ∈ g.nodes, n.id = m.id ∧ n.kind = m.kind ∧ n.InRange := by
    intro n hn
    obtain ⟨m, hm, rfl⟩ := List.mem_map.mp hn
    refine ⟨m, hm, ?_⟩
    split
    next he => exact ⟨hid m, hkind m, hrange m hm he (h.params m hm)⟩
    next => exact ⟨rfl, rfl, h.params m hm⟩
  refine
    { acyclic := h.acyclic, feeds := h.feeds, linked := ?_, output := ?_, params := ?_
      nodeIds := ?_, connIds := h.connIds, nodesAscending := h.nodesAscending.map ?_
      connsAscending := h.connsAscending, kinds := ?_, counters := h.counters }
  · intro c hc
    refine (h.linked c hc).mono ?_
    intro k n _ hn
    refine ⟨_, h.node?_updateNode hid hn, ?_⟩
    split
    · exact hkind n
    · rfl
  · intro k
    rw [show (g.updateNode id f).output = g.output from rfl, h.output]
    constructor
    · rintro ⟨n, hn, rfl, hout⟩
      refine ⟨_, List.mem_map.mpr ⟨n, hn, rfl⟩, ?_⟩
      split
      · exact ⟨hid n, by rw [hkind]; exact hout⟩
      · exact ⟨rfl, hout⟩
    · rintro ⟨n, hn, rfl, hout⟩
      obtain ⟨m, hm, hi, hk, -⟩ := hmem n hn
      exact ⟨m, hm, hi.symm, by rw [← hk]; exact hout⟩
  · intro n hn
    obtain ⟨_, _, _, _, hin⟩ := hmem n hn
    exact hin
  · intro n hn
    obtain ⟨m, hm, hi, -⟩ := hmem n hn
    rw [hi]
    exact h.nodeIds m hm
  · intro n
    split
    · exact hid n
    · rfl
  · intro n hn
    obtain ⟨m, hm, -, hk, -⟩ := hmem n hn
    rw [hk]
    exact h.kinds m hm

end WellFormed

/-- Values stay related to their places when one is replaced by a related one. -/
theorem forall₂_set {α β : Type} {r : α → β → Prop} {as : List α} {bs : List β}
    (h : List.Forall₂ r as bs) {i : Nat} {a : α} {b : β} (ha : as[i]? = some a) (hab : r a b) :
    List.Forall₂ r as (bs.set i b) := by
  induction h generalizing i with
  | nil => exact .nil
  | cons hhead htail ih =>
    cases i with
    | zero =>
      obtain rfl : _ = a := by simpa using ha
      exact .cons hab htail
    | succ i => exact .cons hhead (ih (by simpa using ha))

/-- Every step keeps the invariant, given that the catalog has no faulty kinds. -/
theorem WellFormed.step {g g' : Graph} {r : Receipt} (h : g.WellFormed)
    (hcat : ∀ k ∈ g.catalog.kinds, k.Faultless) (hstep : g.Step r g') : g'.WellFormed := by
  cases hstep with
  | push kind known single => exact h.pushNode known (hcat kind known) single
  | remove id live => exact h.withoutNode id
  | connect src dst srcSpec dstSpec outwards inwards source target distinct typed free open_ =>
    exact h.pushConn outwards inwards source target typed free open_
  | disconnect id c found => exact h.dropConn (h.conn?_iff.mp found).1
  | set id node index spec value found named inRange =>
    refine h.updateNode (fun _ => rfl) (fun _ => rfl) ?_
    rintro n hn rfl hin
    obtain ⟨hmem, hid⟩ := h.node?_iff.mp found
    obtain rfl := h.nodesAscending.eq_of_key_eq hmem hn hid
    exact forall₂_set hin named inRange
  | place id position live => exact h.updateNode (fun _ => rfl) (fun _ => rfl) fun _ _ _ hin => hin

/-- No step changes the catalog. -/
theorem Step.catalog_eq {g g' : Graph} {r : Receipt} (h : g.Step r g') :
    g'.catalog = g.catalog := by
  cases h with
  | remove id live => rw [withoutNode, foldl_dropConn]
  | _ => rfl

/-- A reached graph is over its catalog and satisfies the invariant. -/
theorem Reached.wellFormed {catalog : Catalog} (hcat : catalog.Registered) {g : Graph}
    (h : g.Reached catalog) : g.WellFormed ∧ g.catalog = catalog := by
  refine h.induction (P := fun g => g.WellFormed ∧ g.catalog = catalog) ⟨.empty catalog, rfl⟩ ?_
  rintro g r g' ⟨hwf, hc⟩ hstep
  exact ⟨hwf.step (by rw [hc]; exact hcat.faultless) hstep, hstep.catalog_eq.trans hc⟩

/-- The nodes of a reached graph are of faultless kinds. -/
theorem Reached.faultless {catalog : Catalog} (hcat : catalog.Registered) {g : Graph}
    (h : g.Reached catalog) : ∀ n ∈ g.nodes, n.kind.Faultless := by
  obtain ⟨hwf, hc⟩ := h.wellFormed hcat
  intro n hn
  exact hcat.faultless _ (hc ▸ hwf.kinds n hn)

/-! ## Numbers are given out once -/

/-- A step moves the node counter by the number it gives out, if any. -/
theorem Step.lastNode_eq {g g' : Graph} {r : Receipt} (h : g.Step r g') :
    match r.node? with
    | some id => id = g.lastNode + 1 ∧ g'.lastNode = id
    | none => g'.lastNode = g.lastNode := by
  cases h with
  | push kind known single => exact ⟨rfl, rfl⟩
  | remove id live => rw [withoutNode, foldl_dropConn]; rfl
  | _ => rfl

/-- A step moves the connection counter by the number it gives out, if any. -/
theorem Step.lastConn_eq {g g' : Graph} {r : Receipt} (h : g.Step r g') :
    match r.conn? with
    | some id => id = g.lastConn + 1 ∧ g'.lastConn = id
    | none => g'.lastConn = g.lastConn := by
  cases h with
  | connect src dst srcSpec dstSpec outwards inwards source target distinct typed free open_ =>
    exact ⟨rfl, rfl⟩
  | remove id live => rw [withoutNode, foldl_dropConn]; rfl
  | _ => rfl

/-- Numbers drawn from a counter during a run ascend from where the counter stood. -/
theorem receipts_ascend (drawn : Receipt → Option Int) (counter : Graph → Int)
    (hstep : ∀ g r g', g.Step r g' → match drawn r with
      | some id => id = counter g + 1 ∧ counter g' = id
      | none => counter g' = counter g)
    (g : Graph) (edits : List Edit) :
    ((g.receipts edits).filterMap drawn).Pairwise (· < ·) ∧
      ∀ id ∈ (g.receipts edits).filterMap drawn, counter g < id := by
  induction edits generalizing g with
  | nil => simp [receipts]
  | cons e rest ih =>
    unfold receipts
    split
    next r g' happly =>
      have hcount := hstep g r g' (step_of_apply happly)
      obtain ⟨hpair, habove⟩ := ih g'
      cases hr : drawn r with
      | none =>
        rw [hr] at hcount
        simp only [List.filterMap_cons, hr]
        exact ⟨hpair, fun id hid => hcount ▸ habove id hid⟩
      | some id =>
        rw [hr] at hcount
        obtain ⟨hnext, hnow⟩ := hcount
        simp only [List.filterMap_cons, hr, List.pairwise_cons, List.mem_cons]
        refine ⟨⟨fun k hk => hnow ▸ habove k hk, hpair⟩, ?_⟩
        rintro k (rfl | hk)
        · omega
        · have := habove k hk
          omega
    next => exact ih g

/-- Numbers in strictly ascending order do not repeat. -/
theorem nodup_of_ascending {ids : List Int} (h : ids.Pairwise (· < ·)) : ids.Nodup :=
  h.imp fun hlt => Int.ne_of_lt hlt

/-- Whatever drafts were registered and whatever edits were tried, accepted or not, the graph
satisfies the invariant, its parameters are numbers, and no node or connection number was given
out twice on the way. -/
theorem edits_keep_invariant (drafts : List Draft) (edits : List Edit) :
    let start := Graph.empty (drafts.foldl Catalog.extend .empty)
    let g := start.run edits
    g.WellFormed ∧ (∀ n ∈ g.nodes, ∀ v ∈ n.params, v.isNaN = false) ∧
      ((start.receipts edits).filterMap Receipt.node?).Nodup ∧
      ((start.receipts edits).filterMap Receipt.conn?).Nodup := by
  intro start g
  have hcat : (drafts.foldl Catalog.extend .empty).Registered := ⟨drafts, rfl⟩
  have hwf : g.WellFormed := (Reached.wellFormed hcat ⟨edits, rfl⟩).1
  refine ⟨hwf, ?_, ?_, ?_⟩
  · intro n hn v hv
    obtain ⟨i, hi, rfl⟩ := List.mem_iff_getElem.mp hv
    have hrange := (List.forall₂_iff_get.mp (hwf.params n hn)).2 i
      (by rw [(hwf.params n hn).length_eq]; exact hi) hi
    exact ParamSpec.isNaN_of_inRange hrange
  · exact nodup_of_ascending
      (receipts_ascend Receipt.node? Graph.lastNode (fun _ _ _ h => h.lastNode_eq) start edits).1
  · exact nodup_of_ascending
      (receipts_ascend Receipt.conn? Graph.lastConn (fun _ _ _ h => h.lastConn_eq) start edits).1

end Graph

end FieldGraph
