import FieldGraph.Graph.Order
import FieldGraph.Proofs.Graph.Preservation
import Mathlib.Data.Fintype.Card
import Mathlib.Data.Set.Finite.Basic
import Mathlib.Order.WellFounded

/-!
# Evaluation orders

Ancestors are found over the index of fed inputs, nodes are drained over the connections; the
invariant makes both the same edges. Draining gets stuck only where every node left over is fed
by another one left over, and then the connections hold a cycle. Hence every graph with an
output has an order: it lists what feeds the output, suppliers first and the output last.
-/

namespace FieldGraph.Graph

open Relation

variable {g : Graph}

/-! ## Suppliers and ancestors -/

/-- A described input is one of the inputs of its node. -/
theorem input_of_portSpec {p : Port} {spec : PortSpec} (hin : p.direction = .input)
    (h : g.portSpec p = .ok spec) :
    ∃ n, ∃ i : Nat, g.node? p.node = some n ∧ p = .into p.node i ∧
      n.kind.inputs[i]? = some spec := by
  obtain ⟨n, hn⟩ := node?_of_portSpec h
  refine ⟨n, p.index.toNat, hn, ?_⟩
  simp only [portSpec, hn, hin] at h
  split at h
  · cases h
  next hneg =>
    split at h
    next found hfound =>
      cases h
      refine ⟨?_, hfound⟩
      cases p
      simp only [Port.into, Port.mk.injEq, true_and]
      exact ⟨hin, (Int.toNat_of_nonneg (Int.not_lt.mp hneg)).symm⟩
    · cases h

/-- A described output is one of the outputs of its node. -/
theorem output_of_portSpec {p : Port} {spec : PortSpec} (hout : p.direction = .output)
    (h : g.portSpec p = .ok spec) :
    ∃ n, ∃ i : Nat, g.node? p.node = some n ∧ n.kind.outputs[i]? = some spec := by
  obtain ⟨n, hn⟩ := node?_of_portSpec h
  refine ⟨n, p.index.toNat, hn, ?_⟩
  simp only [portSpec, hn, hout] at h
  split at h
  · cases h
  · split at h
    next found hfound =>
      cases h
      exact hfound
    · cases h

/-- Nothing feeds an input exactly when the index has no entry for it. -/
theorem incoming?_eq_none_iff {dst : Port} : g.incoming? dst = none ↔ g.feed? dst = none := by
  simp [incoming?]

/-- A graph whose parts fit together, whether or not the connections form a cycle and whichever
ports they join. -/
structure Consistent (g : Graph) : Prop where
  /-- A number belongs to one node. -/
  nodes : Ascending Node.id g.nodes
  /-- A number belongs to one connection. -/
  conns : Ascending Connection.id g.conns
  /-- The index and the connections agree. -/
  feeds : ∀ dst id, g.feed? dst = some id ↔ ∃ c, g.conn? id = some c ∧ c.dst = dst
  /-- Every connection starts at a port that exists. -/
  source : ∀ c ∈ g.conns, ∃ spec, g.portSpec c.src = .ok spec
  /-- Every connection ends at a port that exists. -/
  target : ∀ c ∈ g.conns, ∃ spec, g.portSpec c.dst = .ok spec
  /-- The output, if there is one, is live. -/
  output : ∀ root, g.output = some root → g.isLive root = true

/-- What every traversal of a graph relies on: a traversal looks for suppliers at the inputs of a
node and would miss a connection that ends elsewhere. -/
structure Directed (g : Graph) : Prop extends Consistent g where
  inputs : ∀ c ∈ g.conns, c.dst.direction = .input

namespace WellFormed

/-- The output is live. -/
theorem isLive_output (h : g.WellFormed) {root : NodeId} (hout : g.output = some root) :
    ∃ n, g.node? root = some n ∧ n.kind.isOutput = true := by
  obtain ⟨n, hn, hid, ho⟩ := (h.output root).mp hout
  exact ⟨n, h.node?_iff.mpr ⟨hn, hid⟩, ho⟩

/-- Graphs that edits produce are consistent, and their connections end at inputs. -/
theorem directed (h : g.WellFormed) : g.Directed where
  nodes := h.nodesAscending
  conns := h.connsAscending
  feeds dst id := by
    rw [h.feeds]
    refine exists_congr fun c => and_congr_right fun hc => ?_
    exact and_iff_right (h.conn?_iff.mp hc).2
  source c hc := by
    obtain ⟨-, -, src, -, hsrc, -⟩ := h.linked c hc
    exact ⟨src, hsrc⟩
  target c hc := by
    obtain ⟨-, -, -, dst, -, hdst, -⟩ := h.linked c hc
    exact ⟨dst, hdst⟩
  output root hout := by
    obtain ⟨n, hn, -⟩ := h.isLive_output hout
    simp [isLive, hn]
  inputs c hc := by
    obtain ⟨-, hin, -⟩ := h.linked c hc
    exact hin

end WellFormed

namespace Consistent

/-- A lookup of a node finds the listed node with the number. -/
theorem node?_iff (h : g.Consistent) {id : NodeId} {n : Node} :
    g.node? id = some n ↔ n ∈ g.nodes ∧ n.id = id :=
  h.nodes.find?_eq_some_iff

/-- A lookup of a connection finds the listed connection with the number. -/
theorem conn?_iff (h : g.Consistent) {id : ConnId} {c : Connection} :
    g.conn? id = some c ↔ c ∈ g.conns ∧ c.id = id :=
  h.conns.find?_eq_some_iff

/-- What feeds an input is the connection that ends there. -/
theorem incoming?_iff (h : g.Consistent) {dst : Port} {c : Connection} :
    g.incoming? dst = some c ↔ c ∈ g.conns ∧ c.dst = dst := by
  simp only [incoming?, Option.map_eq_some_iff]
  constructor
  · rintro ⟨id, hid, rfl⟩
    obtain ⟨d, hd, hdst⟩ := (h.feeds dst id).mp hid
    rw [hd, Option.getD_some]
    exact ⟨(h.conn?_iff.mp hd).1, hdst⟩
  · rintro ⟨hc, hdst⟩
    have hfound : g.conn? c.id = some c := h.conn?_iff.mpr ⟨hc, rfl⟩
    exact ⟨c.id, (h.feeds dst c.id).mpr ⟨c, hfound, hdst⟩, by rw [hfound, Option.getD_some]⟩

/-- What feeds a live node is live. -/
theorem isLive_of_path (h : g.Consistent) {a root : NodeId} (hroot : g.isLive root = true)
    (hpath : ReflTransGen g.Feeds a root) : g.isLive a = true := by
  rcases hpath.cases_head with rfl | ⟨b, ⟨c, hc, rfl, -⟩, -⟩
  · exact hroot
  · obtain ⟨src, hsrc⟩ := h.source c hc
    obtain ⟨n, hn⟩ := node?_of_portSpec hsrc
    simp [isLive, hn]

end Consistent

namespace Directed

/-- The suppliers of a node are the nodes with a connection to it. -/
theorem mem_suppliers (h : g.Directed) {n : Node} (hn : n ∈ g.nodes) {a : NodeId} :
    a ∈ g.suppliers n ↔ g.Feeds a n.id := by
  simp only [suppliers, inputConns, List.mem_filterMap, List.mem_map, List.mem_range]
  constructor
  · rintro ⟨_, ⟨i, -, rfl⟩, hsrc⟩
    obtain ⟨c, hc, rfl⟩ := Option.map_eq_some_iff.mp hsrc
    obtain ⟨hmem, hdst⟩ := h.incoming?_iff.mp hc
    exact ⟨c, hmem, rfl, by rw [hdst]; rfl⟩
  · rintro ⟨c, hc, rfl, hdst⟩
    obtain ⟨dst, hport⟩ := h.target c hc
    obtain ⟨m, i, hm, hp, hi⟩ := input_of_portSpec (h.inputs c hc) hport
    obtain ⟨hmem, hid⟩ := h.node?_iff.mp hm
    have hsame : m = n := h.nodes.eq_of_key_eq hmem hn (hid.trans hdst)
    subst hsame
    refine ⟨_, ⟨i, (List.getElem?_eq_some_iff.mp hi).1, rfl⟩, ?_⟩
    rw [h.incoming?_iff.mpr ⟨hc, by rw [← hdst]; exact hp⟩, Option.map_some]

/-- The edges searched for ancestors are the connections, backwards. -/
theorem leads_supplyEdges_iff (h : g.Directed) {a b : NodeId} :
    Leads g.supplyEdges b a ↔ g.Feeds a b := by
  simp only [Leads, supplyEdges, List.mem_flatMap, List.mem_map, Prod.mk.injEq]
  constructor
  · rintro ⟨n, hn, s, hs, rfl, rfl⟩
    exact (h.mem_suppliers hn).mp hs
  · intro hfeeds
    obtain ⟨c, hc, rfl, rfl⟩ := hfeeds
    obtain ⟨dst, hdst⟩ := h.target c hc
    obtain ⟨n, hn⟩ := node?_of_portSpec hdst
    obtain ⟨hmem, hid⟩ := h.node?_iff.mp hn
    exact ⟨n, hmem, c.src.node, (h.mem_suppliers hmem).mpr ⟨c, hc, rfl, hid.symm⟩, hid, rfl⟩

/-- The ancestors of a node are the nodes with a path of connections to it. -/
theorem mem_ancestors (h : g.Directed) {a root : NodeId} :
    a ∈ g.ancestors root ↔ ReflTransGen g.Feeds a root := by
  have hflip : Leads g.supplyEdges = fun x y => g.Feeds y x := by
    funext x y
    exact propext h.leads_supplyEdges_iff
  rw [ancestors, mem_search_iff, hflip, ← reflTransGen_swap]

/-- No ancestor of a live node is missing. -/
theorem hasMissingAncestor_eq_false (h : g.Directed) {root : NodeId}
    (hroot : g.isLive root = true) : g.hasMissingAncestor root = false := by
  simp only [hasMissingAncestor, List.any_eq_false, Bool.not_eq_true', Bool.not_eq_false]
  exact fun a ha => h.isLive_of_path hroot (h.mem_ancestors.mp ha)

end Directed

/-! ## Draining -/

/-- Sorting rearranges. -/
theorem sortIds_perm (ids : List NodeId) : (sortIds ids).Perm ids := by
  have hinsert : ∀ (id : NodeId) (l : List NodeId), (insertId id l).Perm (id :: l) := by
    intro id l
    induction l with
    | nil => exact .refl _
    | cons other rest ih =>
      unfold insertId
      split
      · exact .refl _
      · exact (ih.cons other).trans (.swap id other rest)
  induction ids with
  | nil => exact .refl _
  | cons id rest ih => exact (hinsert id _).trans (ih.cons id)

/-- Sorted numbers ascend. -/
theorem pairwise_sortIds (ids : List NodeId) : (sortIds ids).Pairwise (· ≤ ·) := by
  have hinsert : ∀ (id : NodeId) (l : List NodeId), l.Pairwise (· ≤ ·) →
      (insertId id l).Pairwise (· ≤ ·) ∧ ∀ x ∈ insertId id l, x = id ∨ x ∈ l := by
    intro id l hl
    induction l with
    | nil => simp [insertId]
    | cons other rest ih =>
      obtain ⟨hother, hrest⟩ := List.pairwise_cons.mp hl
      obtain ⟨hsorted, hmem⟩ := ih hrest
      unfold insertId
      split
      next hle =>
        refine ⟨List.pairwise_cons.mpr ⟨?_, hl⟩, by simp⟩
        rintro x (_ | ⟨_, hx⟩)
        · exact hle
        · exact Int.le_trans hle (hother x hx)
      next hlt =>
        refine ⟨List.pairwise_cons.mpr ⟨?_, hsorted⟩, ?_⟩
        · intro x hx
          rcases hmem x hx with rfl | hx
          · exact Int.le_of_lt (Int.not_le.mp hlt)
          · exact hother x hx
        · rintro x (_ | ⟨_, hx⟩)
          · exact Or.inr (List.mem_cons_self ..)
          · exact (hmem x hx).imp_right (List.mem_cons_of_mem other)
  induction ids with
  | nil => exact List.Pairwise.nil
  | cons id rest ih => exact (hinsert id _ ih).1

/-- Draining loses no node. -/
theorem drain_perm (remaining : List NodeId) (edges : List (NodeId × NodeId)) :
    ((drain remaining edges).1 ++ (drain remaining edges).2).Perm remaining := by
  fun_induction drain remaining edges with
  | case1 remaining edges hnone => exact .refl _
  | case2 remaining edges n hready taken left hrec ih =>
    rw [hrec] at ih
    exact (ih.cons n).trans (List.perm_cons_erase (ready?_mem hready)).symm

/-- A node is taken only after the sources of all edges that enter it. -/
theorem drain_supplied (remaining : List NodeId) (edges : List (NodeId × NodeId))
    {before after : List NodeId} {a b : NodeId}
    (htaken : (drain remaining edges).1 = before ++ b :: after) (hab : (a, b) ∈ edges) :
    a ∈ before := by
  fun_induction drain remaining edges generalizing before with
  | case1 remaining edges hnone => simp at htaken
  | case2 remaining edges n hready taken left hrec ih =>
    cases before with
    | nil =>
      obtain ⟨rfl, -⟩ := List.cons.inj htaken
      have hnone := List.find?_some hready
      simp only [List.all_eq_true, bne_iff_ne] at hnone
      exact absurd rfl (hnone (a, n) hab)
    | cons first before =>
      obtain ⟨rfl, hlater⟩ := List.cons.inj htaken
      by_cases ha : a = n
      · exact ha ▸ List.mem_cons_self ..
      · rw [hrec] at ih
        exact List.mem_cons_of_mem n (ih hlater (mem_without.mpr ⟨hab, ha⟩))

/-- A node is left over only because of an edge from a node that was not taken. -/
theorem drain_stuck (remaining : List NodeId) (edges : List (NodeId × NodeId)) {b : NodeId}
    (hb : b ∈ (drain remaining edges).2) :
    ∃ a, (a, b) ∈ edges ∧ a ∉ (drain remaining edges).1 := by
  fun_induction drain remaining edges with
  | case1 remaining edges hnone =>
    have hblocked := List.find?_eq_none.mp hnone b hb
    simp only [List.all_eq_true, bne_iff_ne, ne_eq, not_forall, Decidable.not_not] at hblocked
    obtain ⟨⟨a, c⟩, hmem, rfl⟩ := hblocked
    exact ⟨a, hmem, by simp⟩
  | case2 remaining edges n hready taken left hrec ih =>
    rw [hrec] at ih
    obtain ⟨a, hab, ha⟩ := ih hb
    obtain ⟨hmem, hne⟩ := mem_without.mp hab
    exact ⟨a, hmem, by simp [hne, ha]⟩

/-- A finite set in which every node is fed from within the set holds a cycle. -/
theorem eq_nil_of_acyclic {r : NodeId → NodeId → Prop} (hr : ∀ n, ¬ TransGen r n n)
    {left : List NodeId} (hfed : ∀ b ∈ left, ∃ a ∈ left, r a b) : left = [] := by
  by_contra hne
  obtain ⟨start, hstart⟩ := List.exists_mem_of_ne_nil left hne
  let below (x y : { n // n ∈ left }) : Prop := TransGen r x.val y.val
  have : Finite { n // n ∈ left } := List.finite_toSet left
  have : IsTrans { n // n ∈ left } below := ⟨fun _ _ _ hxy hyz => hxy.trans hyz⟩
  have : Std.Irrefl below := ⟨fun x hx => hr x.val hx⟩
  have hwf : WellFounded below := Finite.wellFounded_of_trans_of_irrefl below
  obtain ⟨⟨b, hb⟩, -, hmin⟩ := hwf.has_min Set.univ ⟨⟨start, hstart⟩, trivial⟩
  obtain ⟨a, ha, hab⟩ := hfed b hb
  exact hmin ⟨a, ha⟩ trivial (.single hab)

/-- Draining an acyclic set of nodes takes them all. -/
theorem drain_complete {remaining : List NodeId} {edges : List (NodeId × NodeId)}
    (hsource : ∀ a b, (a, b) ∈ edges → a ∈ remaining)
    (hacyclic : ∀ n, ¬ TransGen (Leads edges) n n) : (drain remaining edges).2 = [] := by
  refine eq_nil_of_acyclic hacyclic ?_
  intro b hb
  obtain ⟨a, hab, ha⟩ := drain_stuck remaining edges hb
  have hmem := (drain_perm remaining edges).mem_iff.mpr (hsource a b hab)
  exact ⟨a, (List.mem_append.mp hmem).resolve_left ha, hab⟩

/-! ## Orders -/

/-- A list of nodes in which a graph can be evaluated up to a node. -/
structure EvaluationOrder (g : Graph) (root : NodeId) (order : List NodeId) : Prop where
  /-- No node is listed twice. -/
  nodup : order.Nodup
  /-- Listed is exactly what feeds the node. -/
  mem_iff : ∀ id, id ∈ order ↔ ReflTransGen g.Feeds id root
  /-- Every node comes after what feeds it. -/
  supplied : ∀ before b after, order = before ++ b :: after → ∀ a, g.Feeds a b → a ∈ before

/-- Nothing comes after the node evaluated for. -/
theorem EvaluationOrder.eq_nil_of_root {root : NodeId} {before after : List NodeId}
    (h : g.EvaluationOrder root (before ++ root :: after)) : after = [] := by
  -- Along a path to the root every node stands no later than the node it feeds.
  have hearly : ∀ x, ReflTransGen g.Feeds x root → x ∈ before ++ [root] := by
    intro x hx
    induction hx using ReflTransGen.head_induction_on with
    | refl => simp
    | head hstep _ ih =>
      refine List.mem_append_left _ ?_
      rcases List.mem_append.mp ih with hc | hc
      · obtain ⟨pre, post, rfl⟩ := List.append_of_mem hc
        exact List.mem_append_left _ (h.supplied pre _ (post ++ root :: after) (by simp) _ hstep)
      · rw [List.mem_singleton.mp hc] at hstep
        exact h.supplied before root after rfl _ hstep
  cases after with
  | nil => rfl
  | cons b after =>
    have hb := hearly b ((h.mem_iff b).mp (by simp))
    have hdisjoint := List.disjoint_of_nodup_append
      (show ((before ++ [root]) ++ b :: after).Nodup by simpa using h.nodup)
    exact absurd (List.mem_cons_self ..) (hdisjoint hb)

/-- The node evaluated for comes last. -/
theorem EvaluationOrder.eq_root_of_last {root last : NodeId} {before : List NodeId}
    (h : g.EvaluationOrder root (before ++ [last])) : last = root := by
  rcases List.mem_append.mp ((h.mem_iff root).mpr .refl) with hmem | hmem
  · obtain ⟨pre, post, rfl⟩ := List.append_of_mem hmem
    rw [List.append_assoc, List.cons_append] at h
    simpa using h.eq_nil_of_root
  · exact (List.mem_singleton.mp hmem).symm

/-- What feeds a node, itself included, in ascending order. -/
def upstream (g : Graph) (root : NodeId) : List NodeId := sortIds (g.ancestors root)

/-- The edges that end at something that feeds a node. -/
def entering (g : Graph) (root : NodeId) : List (NodeId × NodeId) :=
  g.edges.filter (·.2 ∈ g.upstream root)

/-- What draining takes of the nodes upstream and what it leaves over. -/
def drained (g : Graph) (root : NodeId) : List NodeId × List NodeId :=
  drain (g.upstream root) (g.entering root)

theorem nodup_upstream (g : Graph) (root : NodeId) : (g.upstream root).Nodup :=
  (sortIds_perm _).nodup_iff.mpr (nodup_search _ _ _ List.nodup_nil)

theorem drained_perm (g : Graph) (root : NodeId) :
    ((g.drained root).1 ++ (g.drained root).2).Perm (g.upstream root) :=
  drain_perm _ _

namespace Directed

variable {root : NodeId}

theorem mem_upstream (h : g.Directed) {a : NodeId} :
    a ∈ g.upstream root ↔ ReflTransGen g.Feeds a root :=
  (sortIds_perm _).mem_iff.trans h.mem_ancestors

theorem mem_entering (h : g.Directed) {a b : NodeId} :
    (a, b) ∈ g.entering root ↔ g.Feeds a b ∧ ReflTransGen g.Feeds b root := by
  rw [entering, List.mem_filter, decide_eq_true_eq, h.mem_upstream, ← leads_edges_iff]
  rfl

/-- An edge that ends upstream also starts there. -/
theorem source_of_entering (h : g.Directed) {a b : NodeId} (hab : (a, b) ∈ g.entering root) :
    a ∈ g.upstream root := by
  obtain ⟨hfeeds, hpath⟩ := h.mem_entering.mp hab
  exact h.mem_upstream.mpr (.head hfeeds hpath)

/-- Ordering drains what is upstream of the output; nodes left over are searched for a cycle. -/
theorem order_eq (h : g.Directed) (hout : g.output = some root) :
    g.order = match g.drained root with
      | (order, []) => .ok order
      | (_, start :: rest) =>
          .error (g.closeCycle (start :: rest) (start :: rest) [] start) := by
  rw [Graph.order, hout]
  simp only [h.hasMissingAncestor_eq_false (h.output root hout)]
  rfl

/-- What is drained completely comes out in an evaluation order. -/
theorem evaluationOrder_drained (h : g.Directed) (hleft : (g.drained root).2 = []) :
    g.EvaluationOrder root (g.drained root).1 := by
  have hperm := g.drained_perm root
  rw [hleft, List.append_nil] at hperm
  refine ⟨hperm.nodup_iff.mpr (g.nodup_upstream root),
    fun id => hperm.mem_iff.trans h.mem_upstream, ?_⟩
  intro before b after hsplit a hab
  have hb : b ∈ g.upstream root := hperm.mem_iff.mp (by rw [hsplit]; simp)
  exact drain_supplied _ _ hsplit (h.mem_entering.mpr ⟨hab, h.mem_upstream.mp hb⟩)

/-- If nothing is left over, what was drained is the order. -/
theorem order_eq_ok (h : g.Directed) (hout : g.output = some root)
    (hleft : (g.drained root).2 = []) : g.order = .ok (g.drained root).1 := by
  rw [h.order_eq hout, ← Prod.eta (g.drained root), hleft]

end Directed

/-- Without cycles nothing is left over. -/
theorem WellFormed.drained_left (h : g.WellFormed) (root : NodeId) : (g.drained root).2 = [] := by
  refine drain_complete (fun a b => h.directed.source_of_entering) fun n hn => ?_
  exact h.acyclic n (TransGen.mono (fun a b hab => (h.directed.mem_entering.mp hab).1) _ _ hn)

/-- The order of a well-formed graph drains what is upstream of the output. -/
theorem WellFormed.order_eq_drained (h : g.WellFormed) {root : NodeId}
    (hout : g.output = some root) : g.order = .ok (g.drained root).1 :=
  h.directed.order_eq_ok hout (h.drained_left root)

/-- A graph with an output has an evaluation order for it. -/
theorem WellFormed.order_eq_ok (h : g.WellFormed) {root : NodeId} (hout : g.output = some root) :
    ∃ order, g.order = .ok order ∧ g.EvaluationOrder root order :=
  ⟨_, h.order_eq_drained hout, h.directed.evaluationOrder_drained (h.drained_left root)⟩

end FieldGraph.Graph
