import FieldGraph.Proofs.Graph.Upstream

/-!
# Edits aside of the output

A node that does not feed the output may hang off nodes that do, and may come and go with its
connections. Whatever happens to such nodes, the graph shows the same upstream of the output: an
edit aside is one whose node, or whose end of a connection, does not feed the output at the moment
of the edit. Since the same nodes feed the output afterwards, the argument goes on along a run.
-/

namespace FieldGraph

/-- An edit that leaves what feeds the output alone: it adds a node, moves any node on the canvas,
sets a parameter of a node or removes one that does not feed the output, or makes or removes a
connection that ends at such a node. -/
def Edit.Aside (g : Graph) : Edit → Prop
  | addNode _ => True
  | setPosition _ _ => True
  | setParameter id _ _ => ¬ g.FeedsOutput id
  | removeNode id => ¬ g.FeedsOutput id
  | connect _ dst => ¬ g.FeedsOutput dst.node
  | disconnect id => ∀ c, g.conn? id = some c → ¬ g.FeedsOutput c.dst.node

namespace Graph

/-- Every edit of a run is aside at its moment. -/
def StaysAside (g : Graph) : List Edit → Prop
  | [] => True
  | e :: rest => e.Aside g ∧ (g.edit e).StaysAside rest

variable {g : Graph}

/-- The first edit of a run is aside, and the others are after it. -/
theorem staysAside_run_cons {before rest : List Edit} {e : Edit} :
    (g.run before).StaysAside (e :: rest) ↔
      e.Aside (g.run before) ∧ (g.run (before ++ [e])).StaysAside rest := by
  rw [run, run, List.foldl_append]
  rfl

namespace WellFormed

/-! ## Nodes -/

/-- A new node is not seen upstream of an output that exists. -/
theorem sameUpstream_pushNode (h : g.WellFormed) {root : NodeId} (hout : g.output = some root)
    (kind : Kind) : SameUpstream g (g.pushNode kind).2 where
  output := by simp [Graph.pushNode, hout]
  same id hid := by
    obtain ⟨n, hn⟩ := h.isLive_of_feedsOutput hid
    exact ⟨by rw [hn, node?_pushNode hn], fun _ => rfl⟩

/-- A node that feeds the output may change its place only. -/
theorem sameUpstream_updateNode (h : g.WellFormed) {id : NodeId} {f : Node → Node}
    (hid : ∀ n, (f n).id = n.id)
    (hsame : g.FeedsOutput id → ∀ n, (f n).unplaced = n.unplaced) :
    SameUpstream g (g.updateNode id f) where
  output := rfl
  same k hk := by
    obtain ⟨n, hn⟩ := h.isLive_of_feedsOutput hk
    refine ⟨?_, fun _ => rfl⟩
    rw [h.node?_updateNode hid hn, hn, Option.map_some, Option.map_some]
    split
    next hnid =>
      have hup : g.FeedsOutput id := by rwa [← hnid, (h.node?_iff.mp hn).2]
      rw [hsame hup]
    · rfl

/-! ## Connections -/

/-- A connection that does not end upstream is not seen there. -/
theorem sameUpstream_of_conns (h : g.WellFormed) {g' : Graph} (h' : g'.WellFormed)
    (houtput : g.output = g'.output)
    (hnode : ∀ id, g.FeedsOutput id → ∀ n, g.node? id = some n → g'.node? id = some n)
    (hconns : ∀ c, g.FeedsOutput c.dst.node → (c ∈ g.conns ↔ c ∈ g'.conns)) :
    SameUpstream g g' where
  output := houtput
  same id hid := by
    obtain ⟨n, hn⟩ := h.isLive_of_feedsOutput hid
    refine ⟨by rw [hn, hnode id hid n hn], h.source?_congr h' ?_⟩
    rintro src dst rfl
    constructor
    · rintro ⟨c, hc, rfl, rfl⟩
      exact ⟨c, (hconns c hid).mp hc, rfl, rfl⟩
    · rintro ⟨c, hc, rfl, rfl⟩
      exact ⟨c, (hconns c hid).mpr hc, rfl, rfl⟩

/-- A new connection is seen only where it ends. -/
theorem sameUpstream_pushConn (h : g.WellFormed) {src dst : Port}
    (h' : (g.pushConn src dst).2.WellFormed) (hdst : ¬ g.FeedsOutput dst.node) :
    SameUpstream g (g.pushConn src dst).2 := by
  refine h.sameUpstream_of_conns h' rfl (fun _ _ _ hn => hn) ?_
  intro c hc
  have hne : c ≠ ⟨g.lastConn + 1, src, dst⟩ := by
    rintro rfl
    exact hdst hc
  rw [mem_conns_pushConn, or_iff_left hne]

/-- A connection that goes is missed only where it ended. -/
theorem sameUpstream_dropConn (h : g.WellFormed) {dropped : Connection}
    (hmem : dropped ∈ g.conns) (hdst : ¬ g.FeedsOutput dropped.dst.node) :
    SameUpstream g (g.dropConn dropped) := by
  refine h.sameUpstream_of_conns (h.dropConn hmem) rfl (fun _ _ _ hn => hn) ?_
  intro c hc
  rw [mem_conns_dropConn]
  refine ⟨fun hold => ⟨hold, fun hsame => ?_⟩, fun hkept => hkept.1⟩
  rw [h.connsAscending.eq_of_key_eq hold hmem hsame] at hc
  exact hdst hc

/-- What is left without a node are the connections that do not touch it. -/
theorem mem_conns_withoutNode (h : g.WellFormed) {id : NodeId} {c : Connection} :
    c ∈ (g.withoutNode id).conns ↔ c ∈ g.conns ∧ c.src.node ≠ id ∧ c.dst.node ≠ id := by
  simp only [Graph.withoutNode, Graph.foldl_dropConn, List.mem_filter, List.all_eq_true,
    bne_iff_ne, touching, Bool.or_eq_true, beq_iff_eq]
  refine and_congr_right fun hc => ⟨fun hkept => ?_, ?_⟩
  · rw [← not_or]
    exact fun htouch => hkept c ⟨hc, htouch⟩ rfl
  · rintro ⟨hsrc, hdst⟩ d ⟨hd, htouch⟩ hsame
    obtain rfl := h.connsAscending.eq_of_key_eq hc hd hsame
    exact htouch.elim hsrc hdst

/-- A node that does not feed the output may go with everything that touches it. -/
theorem sameUpstream_withoutNode (h : g.WellFormed) {id : NodeId} (hid : ¬ g.FeedsOutput id) :
    SameUpstream g (g.withoutNode id) := by
  have h' := h.withoutNode id
  refine h.sameUpstream_of_conns h' ?_ ?_ ?_
  · have hne : g.output ≠ some id := fun hout => hid ⟨id, hout, .refl⟩
    simp [Graph.withoutNode, hne]
  · rintro k hk n hn
    obtain ⟨hmem, rfl⟩ := h.node?_iff.mp hn
    have hne : n.id ≠ id := fun he => hid (he ▸ hk)
    exact h'.node?_iff.mpr ⟨List.mem_filter.mpr ⟨hmem, by simp [hne]⟩, rfl⟩
  · -- Both ends of a connection that ends upstream are upstream.
    intro c hc
    rw [h.mem_conns_withoutNode]
    refine ⟨fun hold => ⟨hold, ?_, ?_⟩, fun hkept => hkept.1⟩
    · rintro rfl
      exact hid (hc.head ⟨c, hold, rfl, rfl⟩)
    · rintro rfl
      exact hid hc

end WellFormed

/-! ## Edits and runs -/

/-- An accepted edit that is aside is not seen upstream of the output. -/
theorem WellFormed.sameUpstream_of_aside (h : g.WellFormed) {root : NodeId}
    (hout : g.output = some root) {e : Edit} (haside : e.Aside g) {r : Receipt} {g' : Graph}
    (h' : g'.WellFormed) (hok : e.apply g = .ok (r, g')) : SameUpstream g g' := by
  cases e with
  | addNode kind =>
    obtain ⟨⟨id, g₁⟩, hadd, he⟩ := map_eq_ok_iff.mp hok
    cases he
    cases step_of_addNode hadd with
    | push kind known single => exact h.sameUpstream_pushNode hout kind
  | removeNode id =>
    obtain ⟨⟨conns, g₁⟩, hremove, he⟩ := map_eq_ok_iff.mp hok
    cases he
    obtain ⟨-, hsame⟩ := removeNode_eq_ok_iff.mp hremove
    cases hsame
    exact h.sameUpstream_withoutNode haside
  | connect src dst =>
    obtain ⟨⟨id, g₁⟩, hconnect, he⟩ := map_eq_ok_iff.mp hok
    cases he
    obtain ⟨-, -, _, _, -, -, -, -, -, -, hpush⟩ := connect_eq_ok_iff.mp hconnect
    obtain ⟨-, rfl⟩ := Prod.mk.inj hpush
    exact h.sameUpstream_pushConn h' haside
  | disconnect id =>
    obtain ⟨g₁, hdisconnect, he⟩ := map_eq_ok_iff.mp hok
    cases he
    obtain ⟨c, hc, rfl⟩ := disconnect_eq_ok_iff.mp hdisconnect
    exact h.sameUpstream_dropConn (h.conn?_iff.mp hc).1 (haside c hc)
  | setParameter id name value =>
    obtain ⟨g₁, hset, he⟩ := map_eq_ok_iff.mp hok
    cases he
    obtain ⟨_, _, _, -, -, -, -, rfl⟩ := setParameter_eq_ok_iff.mp hset
    exact h.sameUpstream_updateNode (fun _ => rfl) fun hup => absurd hup haside
  | setPosition id position =>
    obtain ⟨g₁, hplace, he⟩ := map_eq_ok_iff.mp hok
    cases he
    obtain ⟨-, rfl⟩ := setPosition_eq_ok_iff.mp hplace
    exact h.sameUpstream_updateNode (fun _ => rfl) fun _ _ => rfl

/-- One edit of a run, accepted or not, keeps the invariant and is not seen upstream. -/
theorem WellFormed.edit_aside (h : g.WellFormed) (hcat : ∀ k ∈ g.catalog.kinds, k.Faultless)
    {root : NodeId} (hout : g.output = some root) {e : Edit} (haside : e.Aside g) :
    (g.edit e).WellFormed ∧ (g.edit e).catalog = g.catalog ∧ SameUpstream g (g.edit e) := by
  unfold Graph.edit
  split
  next r g' hok =>
    have hstep := step_of_apply hok
    have h' := h.step hcat hstep
    exact ⟨h', hstep.catalog_eq, h.sameUpstream_of_aside hout haside h' hok⟩
  next => exact ⟨h, rfl, .refl g⟩

/-- A run of edits that stays aside is not seen upstream of the output. -/
theorem StaysAside.sameUpstream (hcat : ∀ k ∈ g.catalog.kinds, k.Faultless) (h : g.WellFormed)
    {root : NodeId} (hout : g.output = some root) {edits : List Edit}
    (haside : g.StaysAside edits) : SameUpstream g (g.run edits) := by
  induction edits generalizing g with
  | nil => exact .refl g
  | cons e rest ih =>
    obtain ⟨hwf, hcatalog, hsame⟩ := h.edit_aside hcat hout haside.1
    exact hsame.trans h hwf
      (ih (hcatalog ▸ hcat) hwf (hsame.output.symm.trans hout) haside.2)

end Graph

end FieldGraph
