import FieldGraph.Graph.Basic
import Mathlib.Logic.Relation

/-!
# What a search finds

The search drops the edges of a node when it first meets the node, so every edge is followed at
most once. It still finds exactly the nodes that some path of the given edges reaches: nothing
is found without a path, and what is found is closed under the edges.
-/

namespace FieldGraph.Graph

open Relation

/-- One step along a listed edge. -/
def Leads (edges : List (NodeId × NodeId)) (a b : NodeId) : Prop := (a, b) ∈ edges

/-- The targets of a node are the ends of its edges. -/
theorem mem_targets {edges : List (NodeId × NodeId)} {n b : NodeId} :
    b ∈ targets edges n ↔ (n, b) ∈ edges := by
  simp only [targets, List.mem_map, List.mem_filter, beq_iff_eq]
  constructor
  · rintro ⟨⟨x, y⟩, ⟨hmem, rfl⟩, rfl⟩
    exact hmem
  · intro h
    exact ⟨(n, b), ⟨h, rfl⟩, rfl⟩

/-- What is left after a node is dropped are the edges of other nodes. -/
theorem mem_without {edges : List (NodeId × NodeId)} {n a b : NodeId} :
    (a, b) ∈ without edges n ↔ (a, b) ∈ edges ∧ a ≠ n := by
  simp [without]

/-- Everything met before the search is still there after it. -/
theorem subset_search (edges : List (NodeId × NodeId)) (stack seen : List NodeId) :
    seen ⊆ search edges stack seen := by
  fun_induction search edges stack seen with
  | case1 edges seen => exact fun _ h => h
  | case2 edges seen n rest hn ih => exact ih
  | case3 edges seen n rest hn ih => exact fun x hx => ih (List.mem_cons_of_mem n hx)

/-- Every node waiting on the stack is met in the end. -/
theorem stack_subset_search (edges : List (NodeId × NodeId)) (stack seen : List NodeId) :
    stack ⊆ search edges stack seen := by
  fun_induction search edges stack seen with
  | case1 edges seen => simp
  | case2 edges seen n rest hn ih =>
    intro x hx
    rcases List.mem_cons.mp hx with rfl | hx
    · exact subset_search _ _ _ hn
    · exact ih hx
  | case3 edges seen n rest hn ih =>
    intro x hx
    rcases List.mem_cons.mp hx with rfl | hx
    · exact subset_search _ _ _ (List.mem_cons_self ..)
    · exact ih (List.mem_append_right _ hx)

/-- What is found is closed under the edges that were still to be followed. -/
theorem search_closed (edges : List (NodeId × NodeId)) (stack seen : List NodeId) {a b : NodeId}
    (he : (a, b) ∈ edges) (ha : a ∈ search edges stack seen) (hs : a ∉ seen) :
    b ∈ search edges stack seen := by
  fun_induction search edges stack seen with
  | case1 edges seen => exact absurd ha hs
  | case2 edges seen n rest hn ih => exact ih he ha hs
  | case3 edges seen n rest hn ih =>
    by_cases han : a = n
    · subst han
      exact stack_subset_search _ _ _ (List.mem_append_left _ (mem_targets.mpr he))
    · exact ih (mem_without.mpr ⟨he, han⟩) ha (by simp [han, hs])

/-- Nothing is found that no path leads to. -/
theorem search_sound (edges : List (NodeId × NodeId)) (stack seen : List NodeId) {x : NodeId}
    (hx : x ∈ search edges stack seen) :
    x ∈ seen ∨ ∃ s ∈ stack, ReflTransGen (Leads edges) s x := by
  fun_induction search edges stack seen with
  | case1 edges seen => exact Or.inl hx
  | case2 edges seen n rest hn ih =>
    refine (ih hx).imp_right ?_
    rintro ⟨s, hs, hpath⟩
    exact ⟨s, List.mem_cons_of_mem n hs, hpath⟩
  | case3 edges seen n rest hn ih =>
    rcases ih hx with hseen | ⟨s, hs, hpath⟩
    · rcases List.mem_cons.mp hseen with rfl | hseen
      · exact Or.inr ⟨x, List.mem_cons_self .., .refl⟩
      · exact Or.inl hseen
    · have hwide : ReflTransGen (Leads edges) s x :=
        ReflTransGen.mono (fun a b hab => (mem_without.mp hab).1) _ _ hpath
      rcases List.mem_append.mp hs with hs | hs
      · exact Or.inr ⟨n, List.mem_cons_self .., .head (mem_targets.mp hs) hwide⟩
      · exact Or.inr ⟨s, List.mem_cons_of_mem n hs, hwide⟩

/-- A search from one node finds exactly what paths from it reach. -/
theorem mem_search_iff (edges : List (NodeId × NodeId)) (start goal : NodeId) :
    goal ∈ search edges [start] [] ↔ ReflTransGen (Leads edges) start goal := by
  constructor
  · intro h
    rcases search_sound edges [start] [] h with h | ⟨s, hs, hpath⟩
    · simp at h
    · rwa [List.mem_singleton.mp hs] at hpath
  · intro h
    induction h with
    | refl => exact stack_subset_search _ _ _ (List.mem_singleton.mpr rfl)
    | tail _ hstep ih => exact search_closed _ _ _ hstep ih (by simp)

/-- No node is met twice. -/
theorem nodup_search (edges : List (NodeId × NodeId)) (stack seen : List NodeId)
    (h : seen.Nodup) : (search edges stack seen).Nodup := by
  fun_induction search edges stack seen with
  | case1 edges seen => exact h
  | case2 edges seen n rest hn ih => exact ih h
  | case3 edges seen n rest hn ih => exact ih (List.nodup_cons.mpr ⟨hn, h⟩)

end FieldGraph.Graph
