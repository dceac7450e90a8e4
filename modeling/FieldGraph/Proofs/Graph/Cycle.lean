import FieldGraph.Proofs.Graph.Canonical

/-!
# Reports of cycles

Ordering does not rely on connections being acyclic. Nodes that draining leaves over are fed by one
another, so a walk from supplier to supplier never gets stuck among them. It cannot meet new nodes
for ever either, and once it comes back to a node, the nodes it passed since then form a cycle.

It does rely on connections ending at inputs, which every edit sees to. Edges are counted wherever
they end, but suppliers are looked for at inputs only: a node that is fed through another port waits
for a supplier that no walk finds.
-/

namespace FieldGraph.Graph

open Relation

variable {g : Graph} {root : NodeId}

/-- A connection between nodes that feed a node. -/
def FeedsWithin (g : Graph) (root a b : NodeId) : Prop :=
  g.Feeds a b ∧ ReflTransGen g.Feeds b root

/-- The nodes along a cycle of connections among what feeds a node, the first of them repeated at
the end. -/
structure Circuit (g : Graph) (root : NodeId) (path : List NodeId) : Prop where
  /-- There is a step. -/
  long : 2 ≤ path.length
  closed : path.getLast? = path.head?
  distinct : path.dropLast.Nodup
  feeding : ∀ id ∈ path, ReflTransGen g.Feeds id root
  /-- A connection leads from every node to the next. -/
  joined : path.IsChain g.Feeds

/-- Distinct nodes, each feeding the next and the last one feeding the first, close to a circuit. -/
theorem circuit_of_turn {turn : List NodeId} {last : NodeId} (hlast : turn.getLast? = some last)
    (hdistinct : turn.Nodup) (hfeeding : ∀ id ∈ turn, ReflTransGen g.Feeds id root)
    (hchain : (last :: turn).IsChain g.Feeds) : g.Circuit root (turn ++ turn.take 1) := by
  cases turn with
  | nil => cases hlast
  | cons first rest =>
    obtain ⟨hback, hforward⟩ := List.isChain_cons_cons.mp hchain
    rw [List.take_succ_cons, List.take_zero]
    refine
      { long := by simp
        closed := by rw [List.getLast?_concat]; rfl
        distinct := by rwa [List.dropLast_concat]
        feeding := ?_
        joined := List.isChain_append.mpr ⟨hforward, List.isChain_singleton first, ?_⟩ }
    · intro id hid
      rcases List.mem_append.mp hid with hid | hid
      · exact hfeeding id hid
      · rw [List.mem_singleton.mp hid]
        exact hfeeding first (List.mem_cons_self ..)
    · intro x hx y hy
      rw [hlast, Option.mem_some_iff] at hx
      rw [List.head?_singleton, Option.mem_some_iff] at hy
      rw [← hx, ← hy]
      exact hback

/-! ## Walking back -/

/-- Where a walk from supplier to supplier stands: what it has met, newest first, what is still
fresh, and the node it has come to. -/
structure Walk (g : Graph) (left fresh path : List NodeId) (id : NodeId) : Prop where
  here : id ∈ left
  passed : ∀ x ∈ path, x ∈ left
  distinct : path.Nodup
  unmet : fresh.Nodup
  apart : ∀ x ∈ path, x ∉ fresh
  covered : ∀ x ∈ left, x ∈ fresh ∨ x ∈ path
  joined : (id :: path).IsChain g.Feeds

namespace Walk

variable {left fresh path : List NodeId} {id : NodeId}

theorem start (hleft : left.Nodup) (hid : id ∈ left) : g.Walk left left [] id where
  here := hid
  passed := by simp
  distinct := List.nodup_nil
  unmet := hleft
  apart := by simp
  covered x hx := Or.inl hx
  joined := List.isChain_singleton id

/-- A walk that has come to a fresh node goes on to a supplier. -/
theorem next (h : g.Walk left fresh path id) (hid : id ∈ fresh) {supplier : NodeId}
    (hsupplier : supplier ∈ left) (hfeeds : g.Feeds supplier id) :
    g.Walk left (fresh.erase id) (id :: path) supplier where
  here := hsupplier
  passed := List.forall_mem_cons.mpr ⟨h.here, h.passed⟩
  distinct := List.nodup_cons.mpr ⟨fun hmem => h.apart id hmem hid, h.distinct⟩
  unmet := h.unmet.erase id
  apart x hx := by
    rw [h.unmet.mem_erase_iff]
    rintro ⟨hne, hfresh⟩
    exact h.apart x ((List.mem_cons.mp hx).resolve_left hne) hfresh
  covered x hx := by
    rw [h.unmet.mem_erase_iff, List.mem_cons]
    by_cases he : x = id
    · exact Or.inr (Or.inl he)
    · rcases h.covered x hx with hfresh | hpath
      · exact Or.inl ⟨he, hfresh⟩
      · exact Or.inr (Or.inr hpath)
  joined := List.isChain_cons_cons.mpr ⟨hfeeds, h.joined⟩

/-- A walk that has come back to a node closes a cycle: the nodes it passed since then. -/
theorem circuit (h : g.Walk left fresh path id) (hid : id ∉ fresh)
    (hleft : ∀ x ∈ left, ReflTransGen g.Feeds x root) :
    let turn := path.takeWhile (· != id) ++ [id]
    g.Circuit root (turn ++ turn.take 1) := by
  have hmet : id ∈ path := (h.covered id h.here).resolve_left hid
  obtain ⟨since, earlier, rfl, hnot⟩ := List.eq_append_cons_of_mem hmet
  have hsince : (since ++ id :: earlier).takeWhile (· != id) = since := by
    have hother : ∀ x ∈ since, (x != id) = true := by
      intro x hx
      exact bne_iff_ne.mpr fun he => hnot (he ▸ hx)
    rw [List.takeWhile_append_of_pos hother, List.takeWhile_cons_of_neg (by simp),
      List.append_nil]
  have hsplit : since ++ id :: earlier = (since ++ [id]) ++ earlier := by simp
  rw [hsince]
  refine circuit_of_turn List.getLast?_concat ?_ ?_ ?_
  · have hdistinct := h.distinct
    rw [hsplit] at hdistinct
    exact hdistinct.of_append_left
  · intro x hx
    refine hleft x (h.passed x ?_)
    rw [hsplit]
    exact List.mem_append_left _ hx
  · have hjoined := h.joined
    rw [hsplit, ← List.cons_append] at hjoined
    exact hjoined.left_of_append

end Walk

/-- A walk among nodes that are fed by one another ends in the report of a circuit. -/
theorem closeCycle_eq_cycle {left fresh path : List NodeId} {id : NodeId}
    (hsupplied : ∀ b ∈ left, ∃ a, g.leftSupplier? left b = some a ∧ a ∈ left ∧ g.Feeds a b)
    (hleft : ∀ x ∈ left, ReflTransGen g.Feeds x root) (hwalk : g.Walk left fresh path id) :
    ∃ reported, g.closeCycle left fresh path id = .cycle reported ∧ g.Circuit root reported := by
  fun_induction closeCycle g left fresh path id with
  | case1 fresh path id hfresh supplier hsome ih =>
    obtain ⟨a, ha, hmem, hfeeds⟩ := hsupplied id hwalk.here
    obtain rfl : a = supplier := Option.some.inj (ha.symm.trans hsome)
    exact ih (hwalk.next hfresh hmem hfeeds)
  | case2 fresh path id hfresh hnone =>
    obtain ⟨a, ha, -⟩ := hsupplied id hwalk.here
    cases ha.symm.trans hnone
  | case3 fresh path id hmet => exact ⟨_, rfl, hwalk.circuit hmet hleft⟩

/-! ## Ordering any graph -/

namespace Directed

variable (h : g.Directed)

include h

/-- The edges drained for a node are the connections between nodes that feed it. -/
theorem leads_entering : Leads (g.entering root) = g.FeedsWithin root := by
  funext a b
  exact propext h.mem_entering

/-- What is left over was upstream. -/
theorem path_of_left {b : NodeId} (hb : b ∈ (g.drained root).2) : ReflTransGen g.Feeds b root :=
  h.mem_upstream.mp ((g.drained_perm root).mem_iff.mp (List.mem_append_right _ hb))

/-- A node left over has a supplier left over. -/
theorem leftSupplier?_of_left (hout : g.output = some root) {b : NodeId}
    (hb : b ∈ (g.drained root).2) :
    ∃ a, g.leftSupplier? (g.drained root).2 b = some a ∧ a ∈ (g.drained root).2 ∧
      g.Feeds a b := by
  obtain ⟨n, hn⟩ := Option.isSome_iff_exists.mp
    (h.isLive_of_path (h.output root hout) (h.path_of_left hb))
  obtain ⟨hmem, rfl⟩ := h.node?_iff.mp hn
  -- Draining got stuck on an edge whose source is upstream and was not taken.
  obtain ⟨a, hab, htaken⟩ := drain_stuck _ _ hb
  have hupstream := (g.drained_perm root).mem_iff.mpr (h.source_of_entering hab)
  have ha : a ∈ (g.drained root).2 := (List.mem_append.mp hupstream).resolve_left htaken
  have hsupplier : a ∈ g.suppliers n := (h.mem_suppliers hmem).mpr (h.mem_entering.mp hab).1
  have hsome : ((g.suppliers n).find? (· ∈ (g.drained root).2)).isSome = true :=
    List.find?_isSome.mpr ⟨a, hsupplier, decide_eq_true ha⟩
  obtain ⟨first, hfirst⟩ := Option.isSome_iff_exists.mp hsome
  refine ⟨first, ?_, ?_, ?_⟩
  · rw [leftSupplier?, hn]
    exact hfirst
  · have hfound := List.find?_some hfirst
    exact of_decide_eq_true hfound
  · exact (h.mem_suppliers hmem).mp (List.mem_of_find?_eq_some hfirst)

/-- There is an evaluation order, or a circuit is reported. -/
theorem order_cases (hout : g.output = some root) :
    (∃ order, g.order = .ok order ∧ g.EvaluationOrder root order) ∨
      ∃ path, g.order = .error (.cycle path) ∧ g.Circuit root path := by
  cases hleft : (g.drained root).2 with
  | nil => exact Or.inl ⟨_, h.order_eq_ok hout hleft, h.evaluationOrder_drained hleft⟩
  | cons start rest =>
    have hnodup : (g.drained root).2.Nodup :=
      ((g.drained_perm root).nodup_iff.mpr (g.nodup_upstream root)).of_append_right
    have hsupplied := fun b => h.leftSupplier?_of_left hout (b := b)
    have hpath : ∀ b ∈ (g.drained root).2, ReflTransGen g.Feeds b root := fun _ => h.path_of_left
    rw [hleft] at hnodup hsupplied hpath
    obtain ⟨path, hcycle, hcircuit⟩ :=
      closeCycle_eq_cycle hsupplied hpath (.start hnodup (List.mem_cons_self ..))
    refine Or.inr ⟨path, ?_, hcircuit⟩
    rw [h.order_eq hout, ← Prod.eta (g.drained root), hleft]
    exact congrArg Except.error hcycle

/-- There is an order exactly when the nodes that feed the output form no cycle. -/
theorem order_isOk_iff (hout : g.output = some root) :
    (∃ order, g.order = .ok order) ↔ ∀ n, ¬ TransGen (g.FeedsWithin root) n n := by
  constructor
  · rintro ⟨order, hok⟩ n hn
    rcases h.order_cases hout with ⟨order', hok', horder⟩ | ⟨path, herror, -⟩
    · have hforward := (topologicalOrder_iff.mpr horder).forward
      -- Positions in the order grow along every path of connections.
      have hgrow : ∀ b, TransGen (g.FeedsWithin root) n b → order'.idxOf n < order'.idxOf b := by
        intro b hb
        have hstep : ∀ x y, g.FeedsWithin root x y → order'.idxOf x < order'.idxOf y := by
          rintro _ _ ⟨⟨c, hc, rfl, rfl⟩, hpath⟩
          exact hforward c hc ((horder.mem_iff _).mpr (.head ⟨c, hc, rfl, rfl⟩ hpath))
            ((horder.mem_iff _).mpr hpath)
        induction hb with
        | single hab => exact hstep _ _ hab
        | tail _ hbc ih => exact ih.trans (hstep _ _ hbc)
      exact lt_irrefl _ (hgrow n hn)
    · cases hok.symm.trans herror
  · intro hacyclic
    rw [← h.leads_entering] at hacyclic
    have hleft : (g.drained root).2 = [] :=
      drain_complete (fun a b => h.source_of_entering) hacyclic
    exact ⟨_, h.order_eq_ok hout hleft⟩

end Directed

/-- Whatever its connections are, as long as they and the index of fed inputs agree, go from
existing ports to existing inputs, and the output is live: ordering a graph never breaks down.
Without an output that is the answer. With one there is an order exactly when the nodes feeding it
form no cycle, and otherwise the nodes along such a cycle are reported. -/
theorem order_reports_cycle (g : Graph) (h : g.Consistent)
    (hinputs : ∀ c ∈ g.conns, c.dst.direction = .input) :
    (∀ cause, g.order ≠ .error (.breakdown cause)) ∧
    (g.output = none → g.order = .error .noOutput) ∧
    ∀ root, g.output = some root →
      ((∃ order, g.order = .ok order) ↔ ∀ n, ¬ TransGen (g.FeedsWithin root) n n) ∧
      ((∃ n, TransGen (g.FeedsWithin root) n n) →
        ∃ path, g.order = .error (.cycle path) ∧ g.Circuit root path) := by
  have hdirected : g.Directed := ⟨h, hinputs⟩
  have hnone : g.output = none → g.order = .error .noOutput := by
    intro hout
    rw [Graph.order, hout]
  refine ⟨?_, hnone, fun root hout => ⟨hdirected.order_isOk_iff hout, ?_⟩⟩
  · intro cause hbroken
    cases hout : g.output with
    | none => cases (hnone hout).symm.trans hbroken
    | some root =>
      rcases hdirected.order_cases hout with ⟨order, hok, -⟩ | ⟨path, hcycle, -⟩
      · cases hok.symm.trans hbroken
      · cases hcycle.symm.trans hbroken
  · rintro ⟨n, hn⟩
    rcases hdirected.order_cases hout with ⟨order, hok, -⟩ | hcycle
    · exact absurd hn ((hdirected.order_isOk_iff hout).mp ⟨order, hok⟩ n)
    · exact hcycle

/-! ## Connections that no edit makes -/

/-- A connection may be added without any check, as long as its ends exist and nothing ends at the
second one. -/
theorem WellFormed.consistent_pushConn (h : g.WellFormed) {src dst : Port}
    (hsrc : ∃ spec, g.portSpec src = .ok spec) (hdst : ∃ spec, g.portSpec dst = .ok spec)
    (hfree : g.feed? dst = none) : (g.pushConn src dst).2.Consistent where
  nodes := h.nodesAscending
  conns := h.ascending_pushConn src dst
  feeds port id := by
    rw [h.feed?_pushConn_iff hfree]
    refine exists_congr fun c => and_congr_right fun hc => and_iff_right ?_
    exact ((h.ascending_pushConn src dst).find?_eq_some_iff.mp hc).2
  source c hc := by
    rcases mem_conns_pushConn.mp hc with hold | rfl
    · exact h.directed.source c hold
    · exact hsrc
  target c hc := by
    rcases mem_conns_pushConn.mp hc with hold | rfl
    · exact h.directed.target c hold
    · exact hdst
  output := h.directed.output

/-- A port is described if its description can be computed. -/
theorem exists_portSpec {port : Port} (h : (g.portSpec port).isOk = true) :
    ∃ spec, g.portSpec port = .ok spec := by
  cases hport : g.portSpec port with
  | error reason =>
    rw [hport] at h
    cases h
  | ok spec => exact ⟨spec, rfl⟩

/-- Two nodes in a row before an output. -/
def row : List Edit :=
  [.addNode "translate", .addNode "translate", .addNode "output",
    .connect (.outOf 1 0) (.into 2 0), .connect (.outOf 2 0) (.into 3 0)]

/-- If the second node also feeds the first, both are reported. -/
theorem order_reports_cycle_row :
    let g := (((Graph.empty .standard).run row).pushConn (.outOf 2 0) (.into 1 0)).2
    g.Consistent ∧ (∀ c ∈ g.conns, c.dst.direction = .input) ∧ g.output = some 3 ∧
      (∃ n, TransGen (g.FeedsWithin 3) n n) ∧
      g.order = .error (.cycle [2, 1, 2]) ∧ g.Circuit 3 [2, 1, 2] := by
  intro g
  have hwf : ((Graph.empty .standard).run row).WellFormed :=
    (Reached.wellFormed Catalog.standard_registered ⟨_, rfl⟩).1
  have hends : ((Graph.empty .standard).run row).feed? (.into 1 0) = none ∧
      (((Graph.empty .standard).run row).portSpec (.outOf 2 0)).isOk = true ∧
      (((Graph.empty .standard).run row).portSpec (.into 1 0)).isOk = true := by
    rw [Catalog.standard_eq]
    decide +kernel
  have hrun : g.output = some 3 ∧ g.order = .error (.cycle [2, 1, 2]) := by
    simp only [g, Catalog.standard_eq]
    decide +kernel
  obtain ⟨hfree, hsrc, hdst⟩ := hends
  obtain ⟨hout, horder⟩ := hrun
  have hconsistent : g.Consistent :=
    hwf.consistent_pushConn (exists_portSpec hsrc) (exists_portSpec hdst) hfree
  have hinputs : ∀ c ∈ g.conns, c.dst.direction = .input := by
    intro c hc
    rcases mem_conns_pushConn.mp hc with hold | rfl
    · exact hwf.directed.inputs c hold
    · rfl
  obtain ⟨hiff, hcycle⟩ := (order_reports_cycle g hconsistent hinputs).2.2 3 hout
  have hcyclic : ∃ n, TransGen (g.FeedsWithin 3) n n := by
    by_contra hnone
    obtain ⟨order, hok⟩ := hiff.mpr (not_exists.mp hnone)
    cases hok.symm.trans horder
  obtain ⟨path, hpath, hcircuit⟩ := hcycle hcyclic
  obtain rfl : path = [2, 1, 2] := by
    have hsame := hpath.symm.trans horder
    simpa using hsame
  exact ⟨hconsistent, hinputs, hout, hcyclic, horder, hcircuit⟩

/-- A sphere beside a node before an output. -/
def spareSphere : List Edit :=
  [.addNode "sphere", .addNode "translate", .addNode "output",
    .connect (.outOf 2 0) (.into 3 0)]

/-- If the sphere is connected to the output port of the other node, ordering breaks down, although
everything but the direction of that port is in order and there is no cycle. -/
theorem order_breaks_down_at_output_port :
    let g := (((Graph.empty .standard).run spareSphere).pushConn (.outOf 1 0) (.outOf 2 0)).2
    g.Consistent ∧ g.output = some 3 ∧ (∀ n, ¬ TransGen (g.FeedsWithin 3) n n) ∧
      g.order = .error (.breakdown .stuckWalk) := by
  intro g
  have hwf : ((Graph.empty .standard).run spareSphere).WellFormed :=
    (Reached.wellFormed Catalog.standard_registered ⟨_, rfl⟩).1
  have hends : ((Graph.empty .standard).run spareSphere).feed? (.outOf 2 0) = none ∧
      (((Graph.empty .standard).run spareSphere).portSpec (.outOf 1 0)).isOk = true ∧
      (((Graph.empty .standard).run spareSphere).portSpec (.outOf 2 0)).isOk = true := by
    rw [Catalog.standard_eq]
    decide +kernel
  have hrun : g.output = some 3 ∧ g.order = .error (.breakdown .stuckWalk) := by
    simp only [g, Catalog.standard_eq]
    decide +kernel
  have hforward : ∀ c ∈ g.conns, c.src.node < c.dst.node := by
    simp only [g, Catalog.standard_eq]
    decide +kernel
  obtain ⟨hfree, hsrc, hdst⟩ := hends
  obtain ⟨hout, horder⟩ := hrun
  refine ⟨hwf.consistent_pushConn (exists_portSpec hsrc) (exists_portSpec hdst) hfree, hout, ?_,
    horder⟩
  -- Numbers grow along every connection.
  have hgrow : ∀ a b, TransGen (g.FeedsWithin 3) a b → a < b := by
    intro a b hab
    induction hab with
    | single hfeeds =>
      obtain ⟨⟨c, hc, rfl, rfl⟩, -⟩ := hfeeds
      exact hforward c hc
    | tail _ hfeeds ih =>
      obtain ⟨⟨c, hc, rfl, rfl⟩, -⟩ := hfeeds
      exact ih.trans (hforward c hc)
  exact fun n hn => lt_irrefl n (hgrow n n hn)

end FieldGraph.Graph
