import FieldGraph.Proofs.Graph.Order
import FieldGraph.Proofs.Kind.Standard

/-!
# The canonical order

A graph can be listed in many ways so that connections go forward. Draining takes the lowest number
that is ready, and the first number of any such list is ready: where the two part for the first
time, the drained list has the lower number. So the order of a graph is the least of all.
-/

namespace FieldGraph.Graph

open Relation

variable {g : Graph} {root : NodeId} {order : List NodeId}

/-- A list of a node and what feeds it in which every connection between listed nodes goes from an
earlier to a later one. -/
structure TopologicalOrder (g : Graph) (root : NodeId) (order : List NodeId) : Prop where
  nodup : order.Nodup
  mem_iff : ∀ id, id ∈ order ↔ ReflTransGen g.Feeds id root
  forward : ∀ c ∈ g.conns, c.src.node ∈ order → c.dst.node ∈ order →
    order.idxOf c.src.node < order.idxOf c.dst.node

/-- In a list without repetitions an element comes before another exactly when it stands in front
of it. -/
theorem idxOf_lt_iff {before after : List NodeId} {a b : NodeId}
    (hnodup : (before ++ b :: after).Nodup) :
    (before ++ b :: after).idxOf a < (before ++ b :: after).idxOf b ↔ a ∈ before := by
  have hb : b ∉ before := by
    intro hmem
    exact List.disjoint_of_nodup_append hnodup hmem (List.mem_cons_self ..)
  rw [List.idxOf_append_of_notMem hb, List.idxOf_cons_self, Nat.add_zero]
  exact ((List.prefix_append before (b :: after)).mem_iff_idxOf_lt_length a).symm

/-- Connections go forward exactly when every node comes after what feeds it. -/
theorem topologicalOrder_iff : g.TopologicalOrder root order ↔ g.EvaluationOrder root order := by
  constructor
  · intro h
    refine ⟨h.nodup, h.mem_iff, ?_⟩
    rintro before _ after rfl _ ⟨c, hc, rfl, rfl⟩
    have hdst : c.dst.node ∈ before ++ c.dst.node :: after := by simp
    have hsrc : c.src.node ∈ before ++ c.dst.node :: after :=
      (h.mem_iff _).mpr (.head ⟨c, hc, rfl, rfl⟩ ((h.mem_iff _).mp hdst))
    exact (idxOf_lt_iff h.nodup).mp (h.forward c hc hsrc hdst)
  · intro h
    refine ⟨h.nodup, h.mem_iff, ?_⟩
    intro c hc _ hdst
    obtain ⟨before, after, rfl⟩ := List.append_of_mem hdst
    exact (idxOf_lt_iff h.nodup).mpr (h.supplied before _ after rfl _ ⟨c, hc, rfl, rfl⟩)

/-! ## The least order -/

/-- The first node of a list in which nodes come after the sources of their edges is ready. -/
theorem ready_of_supplied {edges : List (NodeId × NodeId)} {first : NodeId} {rest : List NodeId}
    (hsupplied : ∀ before b after, first :: rest = before ++ b :: after →
      ∀ a, (a, b) ∈ edges → a ∈ before) :
    (edges.all (·.2 != first)) = true := by
  rw [List.all_eq_true]
  rintro ⟨a, b⟩ hab
  rw [bne_iff_ne]
  rintro rfl
  exact absurd (hsupplied [] b rest rfl a hab) List.not_mem_nil

/-- Draining an ascending list yields the least list in which nodes come after the sources of
their edges. -/
theorem drain_lex (remaining : List NodeId) (edges : List (NodeId × NodeId))
    (hsorted : remaining.Pairwise (· ≤ ·)) {other : List NodeId} (hperm : other.Perm remaining)
    (hsupplied : ∀ before b after, other = before ++ b :: after →
      ∀ a, (a, b) ∈ edges → a ∈ before) :
    (drain remaining edges).1 = other ∨ List.Lex (· < ·) (drain remaining edges).1 other := by
  fun_induction drain remaining edges generalizing other with
  | case1 remaining edges hnone =>
    cases other with
    | nil => exact Or.inl rfl
    | cons first rest => exact Or.inr .nil
  | case2 remaining edges n hready taken left hrec ih =>
    rw [hrec] at ih
    cases other with
    | nil =>
      have hmem := hperm.mem_iff.mpr (ready?_mem hready)
      simp at hmem
    | cons first rest =>
      -- Both lists start with ready nodes, of which draining takes the lowest.
      have hfirst : first ∈ remaining := hperm.mem_iff.mp (List.mem_cons_self ..)
      have hle : n ≤ first := by
        obtain ⟨-, before, after, hsplit, hblocked⟩ := List.find?_eq_some_iff_append.mp hready
        rw [hsplit] at hfirst hsorted
        rcases List.mem_append.mp hfirst with hearly | hlate
        · have hnot := hblocked first hearly
          rw [ready_of_supplied hsupplied] at hnot
          cases hnot
        · rcases List.mem_cons.mp hlate with rfl | hlate
          · exact le_rfl
          · exact List.rel_of_pairwise_cons (List.pairwise_append.mp hsorted).2.1 hlate
      rcases Int.lt_or_eq_of_le hle with hlt | rfl
      · exact Or.inr (.rel hlt)
      · have hrest : rest.Perm (remaining.erase n) := by
          have herased := hperm.erase n
          rwa [List.erase_cons_head] at herased
        have hlater : ∀ before b after, rest = before ++ b :: after →
            ∀ a, (a, b) ∈ without edges n → a ∈ before := by
          intro before b after hsplit a hab
          obtain ⟨hmem, hne⟩ := mem_without.mp hab
          have hbefore := hsupplied (n :: before) b after (by rw [hsplit]; rfl) a hmem
          exact (List.mem_cons.mp hbefore).resolve_left hne
        exact (ih (hsorted.sublist List.erase_sublist) hrest hlater).imp (congrArg (n :: ·)) .cons

/-- No evaluation order is smaller than the one that draining finds. -/
theorem Directed.drained_least (h : g.Directed) (horder : g.EvaluationOrder root order) :
    (g.drained root).1 = order ∨ List.Lex (· < ·) (g.drained root).1 order := by
  refine drain_lex _ _ (pairwise_sortIds _) ?_ ?_
  · refine (List.perm_ext_iff_of_nodup horder.nodup (g.nodup_upstream root)).mpr fun id => ?_
    rw [horder.mem_iff, h.mem_upstream]
  · intro before b after hsplit a hab
    exact horder.supplied before b after hsplit a (h.mem_entering.mp hab).1

/-- Over every registered catalog, every graph that edits lead to and that has an output node has an
order: it lists the output node and what feeds it, without repetitions, so that every connection
between listed nodes goes forward. The output node comes last, and no other such list is smaller. -/
theorem order_is_least (drafts : List Draft) (edits : List Edit) :
    let g := (Graph.empty (drafts.foldl Catalog.extend .empty)).run edits
    ∀ output ∈ g.nodes, output.kind.isOutput = true →
      ∃ order, g.order = .ok order ∧ g.TopologicalOrder output.id order ∧
        order.getLast? = some output.id ∧
        ∀ other, g.TopologicalOrder output.id other →
          order = other ∨ List.Lex (· < ·) order other := by
  intro g output hmem hends
  have hwf : g.WellFormed := (Reached.wellFormed ⟨drafts, rfl⟩ ⟨edits, rfl⟩).1
  have hout : g.output = some output.id := (hwf.output _).mpr ⟨output, hmem, rfl, hends⟩
  have horder := hwf.directed.evaluationOrder_drained (hwf.drained_left output.id)
  refine ⟨_, hwf.order_eq_drained hout, topologicalOrder_iff.mpr horder, ?_, ?_⟩
  · have hne := List.ne_nil_of_mem ((horder.mem_iff output.id).mpr .refl)
    rw [← List.dropLast_append_getLast hne] at horder
    rw [List.getLast?_eq_some_getLast hne, horder.eq_root_of_last]
  · intro other hother
    exact hwf.directed.drained_least (topologicalOrder_iff.mp hother)

/-- A graph whose numbers do not follow its connections: the output is numbered first, a moved
sphere is joined with a cube that has a lower number, and a torus feeds nothing. -/
def scattered : List Edit :=
  [.addNode "output", .addNode "union", .addNode "cube", .addNode "torus", .addNode "translate",
    .addNode "sphere", .connect (.outOf 2 0) (.into 1 0), .connect (.outOf 5 0) (.into 2 0),
    .connect (.outOf 3 0) (.into 2 1), .connect (.outOf 6 0) (.into 5 0)]

/-- The cube comes before the sphere, which comes before what moves it. -/
theorem order_is_least_scattered :
    let g := (Graph.empty .standard).run scattered
    ∃ output ∈ g.nodes, output.kind.isOutput = true ∧ g.order = .ok [3, 6, 5, 2, output.id] ∧
      g.TopologicalOrder output.id [3, 6, 5, 2, output.id] ∧
      ∀ other, g.TopologicalOrder output.id other →
        [3, 6, 5, 2, output.id] = other ∨ List.Lex (· < ·) [3, 6, 5, 2, output.id] other := by
  intro g
  have hfound : (g.nodes.find? (·.kind.isOutput)).map (·.id) = some 1 := by
    simp only [g, Catalog.standard_eq]
    decide +kernel
  have hlisted : g.order.toOption = some [3, 6, 5, 2, 1] := by
    simp only [g, Catalog.standard_eq]
    decide +kernel
  obtain ⟨drafts, hdrafts⟩ := Catalog.standard_registered
  have hleast := order_is_least drafts scattered
  rw [← hdrafts] at hleast
  obtain ⟨output, hfind, hid⟩ := Option.map_eq_some_iff.mp hfound
  have hmem := List.mem_of_find?_eq_some hfind
  have hends := List.find?_some hfind
  obtain ⟨order, horder, htopological, -, hleast⟩ := hleast output hmem hends
  rw [show g.order = .ok order from horder, Except.toOption, Option.some.injEq, ← hid] at hlisted
  subst hlisted
  exact ⟨output, hmem, hends, horder, htopological, hleast⟩

end FieldGraph.Graph
