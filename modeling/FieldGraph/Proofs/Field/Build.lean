import FieldGraph.Field.Build
import FieldGraph.Proofs.Graph.Wiring

/-!
# When a field is built

A field is built from an order exactly as far as the wires of its nodes are served. What an
input of a node is answered by is what its wire brings; this holds for every effect and however
shared nodes are treated.
-/

namespace FieldGraph.Field

open FieldGraph.Graph

variable {m : Type → Type} {g : Graph}

/-- The inputs of a node are what its wires bring. -/
theorem resolve_eq_ok_iff {node : Node} {built : List (NodeId × Sampler m)} {index : Nat}
    {ports : List PortSpec} {inputs : List (PortType × Option (Sampler m))} :
    resolve g node built index ports = .ok inputs ↔
      List.Forall₂ (Wire.Brings built) (g.wiresFrom node.id index ports) inputs := by
  induction ports generalizing index inputs with
  | nil => simp [resolve, eq_comm]
  | cons port rest ih =>
    rw [resolve, wiresFrom_cons, wire]
    cases hin : g.incoming? (.into node.id index) with
    | none =>
      cases hopt : port.optional with
      | false =>
        simp only [Bool.false_eq_true, if_false, reduceCtorEq, false_iff]
        rintro (_ | ⟨⟨hyes⟩, -⟩)
        simp [hopt] at hyes
      | true =>
        simp only [if_true, bind_eq_ok_iff, ih]
        constructor
        · rintro ⟨later, hlater, he⟩
          cases he
          exact .cons (.nothing hopt) hlater
        · rintro (_ | ⟨⟨-⟩, hlater⟩)
          exact ⟨_, hlater, rfl⟩
    | some conn =>
      simp only [Option.map_some]
      cases hfind : built.find? (·.1 == conn.src.node) with
      | none =>
        simp only [reduceCtorEq, false_iff]
        rintro (_ | ⟨⟨⟩ | ⟨hfound⟩, -⟩)
        simp [hfind] at hfound
      | some entry =>
        obtain ⟨key, feed⟩ := entry
        simp only [bind_eq_ok_iff, ih]
        constructor
        · rintro ⟨later, hlater, he⟩
          cases he
          exact .cons (.source hfind) hlater
        · rintro (_ | ⟨⟨⟩ | ⟨hfound⟩, hlater⟩)
          obtain ⟨rfl, rfl⟩ := Prod.mk.inj (Option.some.inj (hfind.symm.trans hfound))
          exact ⟨_, hlater, rfl⟩

variable [Monad m]

/-- An order that can be worked off yields a field. -/
theorem buildFrom_eq_ok {share : Nat → Sampler m → Sampler m} {consumed done rest : List NodeId}
    (h : g.Runnable done rest) {built : List (NodeId × Sampler m)} (hdone : built.map (·.1) = done)
    (position : Nat) : ∃ sampler, buildFrom share g consumed built position rest = .ok sampler := by
  induction h generalizing built position with
  | last n live ends served =>
    subst hdone
    obtain ⟨inputs, hinputs⟩ := exists_brings_iff.mpr served
    rw [buildFrom, live]
    simp only [resolve_eq_ok_iff.mpr hinputs, ends]
    exact ⟨_, rfl⟩
  | @next done rest n live inner served later ih =>
    subst hdone
    obtain ⟨inputs, hinputs⟩ := exists_brings_iff.mpr served
    obtain ⟨next, rest, rfl⟩ := List.exists_cons_of_ne_nil later.ne_nil
    rw [buildFrom, live]
    simp only [resolve_eq_ok_iff.mpr hinputs]
    exact ih rfl _

/-- A field is built from an order that can be worked off. -/
theorem exists_of_runnable {order : List NodeId} (h : g.Runnable [] order) (bounds : Box) :
    ∃ field, Field.of g order bounds = .ok field := by
  obtain ⟨sampler, hbuild⟩ : ∃ sampler, build remember g order = .ok sampler :=
    buildFrom_eq_ok h rfl 0
  exact ⟨⟨sampler, bounds, order.length⟩, by rw [Field.of, hbuild]; rfl⟩

/-- Whatever a field was built from is complete. -/
theorem complete_of_buildFrom {share : Nat → Sampler m → Sampler m} {consumed rest : List NodeId}
    {built : List (NodeId × Sampler m)} {position : Nat} {sampler : Sampler m}
    (h : buildFrom share g consumed built position rest = .ok sampler) :
    ∀ id ∈ rest, ∃ n, g.node? id = some n ∧ g.Complete n := by
  induction rest generalizing built position with
  | nil => simp
  | cons id rest ih =>
    rw [buildFrom] at h
    cases hn : g.node? id with
    | none => simp [hn] at h
    | some n =>
      rw [hn] at h
      obtain ⟨inputs, hinputs, hlater⟩ := bind_eq_ok_iff.mp h
      have hserved := exists_brings_iff.mp ⟨inputs, resolve_eq_ok_iff.mp hinputs⟩
      rw [List.forall_mem_cons]
      refine ⟨⟨n, hn, ?_⟩, ?_⟩
      · rintro ⟨port, source⟩ hw rfl
        exact hserved _ hw
      · cases rest with
        | nil => simp
        | cons next rest => exact ih hlater

end FieldGraph.Field
