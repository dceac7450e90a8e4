import FieldGraph.Proofs.Graph.Wiring
import FieldGraph.Proofs.Shader.Reuse

/-!
# When a shader is generated

Generation looks up what feeds a node the same way the construction of the field does. Over an
order that can be worked off, every node contributes code, so the one thing that can still go
wrong is the naming: two bodies that claim one name, or two library functions that share one.
-/

namespace FieldGraph.Compiler

open FieldGraph.Graph

variable {g : Graph}

/-- What a wire brings, seen as a call. -/
def asCall (input : PortType × Option Shader.Supply) : Input :=
  ⟨input.1, input.2.map fun supply q => supply.name ++ "(" ++ q ++ ")"⟩

/-- What a wire brings, put in place. -/
def asInline (input : PortType × Option Shader.Supply) : Input :=
  ⟨input.1, input.2.map (·.inline)⟩

/-- Both views of the inputs of a node are views of what its wires bring. -/
theorem resolveInputs_eq_ok_iff {node : Node} {supplies : List (NodeId × Shader.Supply)}
    {index : Nat} {ports : List PortSpec} {views : List Input × List Input} :
    resolveInputs g node supplies index ports = .ok views ↔
      ∃ brought, List.Forall₂ (Wire.Brings supplies) (g.wiresFrom node.id index ports) brought ∧
        views = (brought.map asCall, brought.map asInline) := by
  induction ports generalizing index views with
  | nil => simp [resolveInputs, eq_comm]
  | cons port rest ih =>
    rw [resolveInputs, wiresFrom_cons, wire]
    cases hin : g.incoming? (.into node.id index) with
    | none =>
      cases hopt : port.optional with
      | false =>
        simp only [Bool.false_eq_true, if_false, reduceCtorEq, false_iff]
        rintro ⟨_, _ | ⟨⟨hyes⟩, -⟩, -⟩
        simp [hopt] at hyes
      | true =>
        simp only [if_true, bind_eq_ok_iff, ih]
        constructor
        · rintro ⟨_, ⟨brought, hlater, rfl⟩, he⟩
          cases he
          exact ⟨(port.type, none) :: brought, .cons (.nothing hopt) hlater, rfl⟩
        · rintro ⟨_, _ | ⟨⟨-⟩, hlater⟩, rfl⟩
          exact ⟨_, ⟨_, hlater, rfl⟩, rfl⟩
    | some conn =>
      simp only [Option.map_some]
      cases hfind : supplies.find? (·.1 == conn.src.node) with
      | none =>
        simp only [reduceCtorEq, false_iff]
        rintro ⟨_, _ | ⟨⟨⟩ | ⟨hfound⟩, -⟩, -⟩
        simp [hfind] at hfound
      | some entry =>
        obtain ⟨key, supply⟩ := entry
        simp only [bind_eq_ok_iff, ih]
        constructor
        · rintro ⟨_, ⟨brought, hlater, rfl⟩, he⟩
          cases he
          exact ⟨(port.type, some supply) :: brought, .cons (.source hfind) hlater, rfl⟩
        · rintro ⟨_, _ | ⟨⟨⟩ | ⟨hfound⟩, hlater⟩, rfl⟩
          obtain ⟨rfl, rfl⟩ := Prod.mk.inj (Option.some.inj (hfind.symm.trans hfound))
          exact ⟨_, ⟨_, hlater, rfl⟩, rfl⟩

/-- A node contributes its code exactly when it is in its place and its wires are served. -/
theorem contribute_eq_ok_iff {c : Compiler} {length position : Nat} {consumed : List NodeId}
    {id : NodeId} {supplies : List (NodeId × Shader.Supply)} {uniforms : List Float32}
    {part : Contribution} :
    c.contribute g length consumed position id supplies uniforms = .ok part ↔
      ∃ n brought, g.node? id = some n ∧ n.kind.isOutput = (position + 1 == length) ∧
        List.Forall₂ (Wire.Brings supplies) (g.wires n) brought ∧
        part = c.contribution n (1 < consumed.count id) uniforms (brought.map asCall)
          (brought.map asInline) := by
  unfold contribute
  cases hn : g.node? id with
  | none => simp
  | some n =>
    by_cases hplace : n.kind.isOutput = (position + 1 == length)
    · simp only [hplace, bne_self_eq_false, Bool.false_eq_true, if_false]
      constructor
      · intro h
        obtain ⟨views, hviews, he⟩ := bind_eq_ok_iff.mp h
        obtain ⟨brought, hbrought, rfl⟩ := resolveInputs_eq_ok_iff.mp hviews
        cases he
        exact ⟨n, brought, rfl, hplace, hbrought, rfl⟩
      · rintro ⟨_, brought, ⟨⟩, -, hbrought, rfl⟩
        exact bind_eq_ok_iff.mpr ⟨_, resolveInputs_eq_ok_iff.mpr ⟨brought, hbrought, rfl⟩, rfl⟩
    · have hmisplaced : (n.kind.isOutput != (position + 1 == length)) = true := by
        simpa using hplace
      simp only [hmisplaced, if_true]
      refine iff_of_false nofun ?_
      rintro ⟨_, _, ⟨⟩, hyes, -⟩
      exact hplace hyes

/-- A node in its place whose wires are served contributes its code. -/
theorem contribute_eq_ok (c : Compiler) {n : Node} (live : g.node? n.id = some n)
    {length position : Nat} (hplace : n.kind.isOutput = (position + 1 == length))
    (consumed : List NodeId) {supplies : List (NodeId × Shader.Supply)}
    {brought : List (PortType × Option Shader.Supply)}
    (hbrought : List.Forall₂ (Wire.Brings supplies) (g.wires n) brought)
    (uniforms : List Float32) :
    c.contribute g length consumed position n.id supplies uniforms =
      .ok (c.contribution n (1 < consumed.count n.id) uniforms (brought.map asCall)
        (brought.map asInline)) :=
  contribute_eq_ok_iff.mpr ⟨n, brought, live, hplace, hbrought, rfl⟩

/-- A node whose code is known is taken up, unless its name is claimed for another body. -/
theorem generateNode_cases {c : Compiler} {length position : Nat} {consumed : List NodeId}
    {id : NodeId} {done : Progress} {part : Contribution}
    (hpart : c.contribute g length consumed position id done.supplies done.uniforms = .ok part) :
    (∃ isNew names, claim done.names part.code.name part.code.body = some (isNew, names) ∧
      c.generateNode g length consumed position id done = .ok (c.record done part isNew names)) ∨
    c.generateNode g length consumed position id done =
      .error (.nameConflict part.code.kind id part.code.name part.code.body) := by
  simp only [generateNode, hpart, bind, Except.bind]
  cases hclaim : claim done.names part.code.name part.code.body with
  | none => exact Or.inr rfl
  | some claimed => exact Or.inl ⟨claimed.1, claimed.2, rfl, rfl⟩

/-- A node is taken up exactly when it contributes code whose name can be claimed. -/
theorem generateNode_eq_ok_iff {c : Compiler} {length position : Nat} {consumed : List NodeId}
    {id : NodeId} {before after : Progress} :
    c.generateNode g length consumed position id before = .ok after ↔
      ∃ part isNew names,
        c.contribute g length consumed position id before.supplies before.uniforms = .ok part ∧
        claim before.names part.code.name part.code.body = some (isNew, names) ∧
        after = c.record before part isNew names := by
  rw [generateNode, bind_eq_ok_iff]
  refine exists_congr fun part => ?_
  cases hclaim : claim before.names part.code.name part.code.body with
  | none => simp [hclaim]
  | some claimed =>
    obtain ⟨isNew, names⟩ := claimed
    simp only [hclaim, pure, Except.pure, Except.ok.injEq, Option.some.injEq, Prod.mk.injEq]
    constructor
    · rintro ⟨hpart, rfl⟩
      exact ⟨isNew, names, hpart, ⟨rfl, rfl⟩, rfl⟩
    · rintro ⟨_, _, hpart, ⟨rfl, rfl⟩, rfl⟩
      exact ⟨hpart, rfl⟩

/-- What the nodes from a position on contribute. -/
def partsFrom (c : Compiler) (g : Graph) (length : Nat) (consumed : List NodeId)
    (position : Nat) : List NodeId → List (NodeId × Shader.Supply) → List Float32 →
      Except GenerateError (List Contribution)
  | [], _, _ => .ok []
  | id :: rest, supplies, uniforms => do
      let part ← c.contribute g length consumed position id supplies uniforms
      let later ← partsFrom c g length consumed (position + 1) rest
        ((part.code.node, part.supply) :: supplies) part.uniforms
      return part :: later

/-- What the nodes of an order contribute. -/
def parts (c : Compiler) (g : Graph) (order : List NodeId) :
    Except GenerateError (List Contribution) :=
  c.partsFrom g order.length (g.consumed order) 0 order [] []

/-- The nodes of an order that can be worked off all contribute. -/
theorem partsFrom_eq_ok (c : Compiler) {consumed done rest : List NodeId}
    (h : g.Runnable done rest) {length position : Nat} (hlength : position + rest.length = length)
    {supplies : List (NodeId × Shader.Supply)} (hdone : supplies.map (·.1) = done)
    (uniforms : List Float32) :
    ∃ parts, c.partsFrom g length consumed position rest supplies uniforms = .ok parts := by
  induction h generalizing position supplies uniforms with
  | last n live ends served =>
    subst hdone
    obtain ⟨brought, hbrought⟩ := exists_brings_iff.mpr served
    have hplace : n.kind.isOutput = (position + 1 == length) := by simpa [ends] using hlength
    rw [partsFrom, c.contribute_eq_ok live hplace consumed hbrought uniforms]
    exact ⟨_, rfl⟩
  | @next done rest n live inner served later ih =>
    subst hdone
    obtain ⟨brought, hbrought⟩ := exists_brings_iff.mpr served
    rw [List.length_cons] at hlength
    have hplace : n.kind.isOutput = (position + 1 == length) := by
      have hrest := List.length_pos_iff.mpr later.ne_nil
      rw [inner, eq_comm, beq_eq_false_iff_ne]
      omega
    have hpart := c.contribute_eq_ok live hplace consumed hbrought uniforms
    obtain ⟨parts, hparts⟩ : ∃ parts, c.partsFrom g length consumed (position + 1) rest
        ((n.id, _) :: supplies) _ = .ok parts := ih (by omega) rfl _
    exact ⟨_, bind_eq_ok_iff.mpr ⟨_, hpart, bind_eq_ok_iff.mpr ⟨parts, hparts, rfl⟩⟩⟩

/-- What contributions add to the code there is, whatever becomes of the names. -/
structure Progress.Collects (before : Progress) (parts : List Contribution) (after : Progress) :
    Prop where
  codes : after.codes = before.codes ++ parts.map (·.code)
  library : after.library = (parts.flatMap (·.library)).foldl Shader.addFunction before.library
  uniforms : after.uniforms = parts.foldl (fun _ part => part.uniforms) before.uniforms
  expression : after.expression = parts.foldl
    (fun text part => if part.isOutput then part.inline "p" else text) before.expression

/-- Nothing is added by nothing. -/
theorem Progress.Collects.refl (done : Progress) : done.Collects [] done :=
  ⟨by simp, rfl, rfl, rfl⟩

/-- A contribution that is taken up comes before those that are taken up later. -/
theorem Progress.Collects.of_record {c : Compiler} {before after : Progress} {part : Contribution}
    {later : List Contribution} {isNew : Bool} {names : List (UInt64 × UInt64)}
    (h : (c.record before part isNew names).Collects later after) :
    before.Collects (part :: later) after := by
  refine ⟨by simp [h.codes, record], ?_, h.uniforms, h.expression⟩
  rw [h.library, List.flatMap_cons, List.foldl_append]
  rfl

/-- A contribution is the code of the node with a number. -/
def Contributes (c : Compiler) (g : Graph) (id : NodeId) (part : Contribution) : Prop :=
  ∃ n shared uniforms calls inlines, g.node? id = some n ∧
    part = c.contribution n shared uniforms calls inlines

/-- Every one of the contributions is the code of a node. -/
theorem exists_node_of_contributes {c : Compiler} {rest : List NodeId} {parts : List Contribution}
    (h : List.Forall₂ (c.Contributes g) rest parts) {part : Contribution} (hpart : part ∈ parts) :
    ∃ n shared uniforms calls inlines, g.node? n.id = some n ∧
      part = c.contribution n shared uniforms calls inlines := by
  induction h with
  | nil => cases hpart
  | cons hfirst _ ih =>
    rcases List.mem_cons.mp hpart with rfl | hpart
    · obtain ⟨n, shared, uniforms, calls, inlines, hn, he⟩ := hfirst
      obtain rfl := id_of_node? hn
      exact ⟨n, shared, uniforms, calls, inlines, hn, he⟩
    · exact ih hpart

section

variable {c : Compiler} {consumed rest : List NodeId} {length position : Nat}
  {supplies : List (NodeId × Shader.Supply)} {uniforms : List Float32}

/-- Every node from a position on contributes its code. -/
theorem contributes_of_partsFrom {parts : List Contribution}
    (h : c.partsFrom g length consumed position rest supplies uniforms = .ok parts) :
    List.Forall₂ (c.Contributes g) rest parts := by
  induction rest generalizing position supplies uniforms parts with
  | nil =>
    cases h
    exact .nil
  | cons id rest ih =>
    obtain ⟨part, hpart, hbind⟩ := bind_eq_ok_iff.mp h
    obtain ⟨later, hlater, he⟩ := bind_eq_ok_iff.mp hbind
    cases he
    obtain ⟨n, brought, hn, -, -, rfl⟩ := contribute_eq_ok_iff.mp hpart
    exact .cons ⟨n, _, _, _, _, hn, rfl⟩ (ih hlater)

/-- A node finds what the nodes before it supply, the last one first. -/
theorem contribute_of_partsFrom {earlier later : List Contribution} {part : Contribution}
    (h : c.partsFrom g length consumed position rest supplies uniforms =
      .ok (earlier ++ part :: later)) :
    ∃ position id uniforms, c.contribute g length consumed position id
      ((earlier.map fun p => (p.code.node, p.supply)).reverse ++ supplies) uniforms =
        .ok part := by
  induction earlier generalizing rest position supplies uniforms with
  | nil =>
    cases rest with
    | nil => cases h
    | cons id rest =>
      obtain ⟨first, hfirst, hbind⟩ := bind_eq_ok_iff.mp h
      obtain ⟨_, -, he⟩ := bind_eq_ok_iff.mp hbind
      cases he
      exact ⟨position, id, uniforms, hfirst⟩
  | cons first earlier ih =>
    cases rest with
    | nil => cases h
    | cons id rest =>
      obtain ⟨_, -, hbind⟩ := bind_eq_ok_iff.mp h
      obtain ⟨_, hlater, he⟩ := bind_eq_ok_iff.mp hbind
      cases he
      simpa using ih hlater

/-- Generation takes up what the nodes contribute. -/
theorem partsFrom_of_generateFrom {before after : Progress}
    (h : c.generateFrom g length consumed position rest before = .ok after) :
    ∃ parts, c.partsFrom g length consumed position rest before.supplies before.uniforms =
      .ok parts ∧ before.Collects parts after := by
  induction rest generalizing position before with
  | nil =>
    cases h
    exact ⟨[], rfl, .refl _⟩
  | cons id rest ih =>
    obtain ⟨next, hnode, hlater⟩ := generateFrom_cons_eq_ok_iff.mp h
    obtain ⟨part, isNew, names, hpart, -, rfl⟩ := generateNode_eq_ok_iff.mp hnode
    obtain ⟨later, hparts, hcollects⟩ := ih hlater
    refine ⟨part :: later, ?_, hcollects.of_record⟩
    exact bind_eq_ok_iff.mpr ⟨part, hpart, bind_eq_ok_iff.mpr ⟨later, hparts, rfl⟩⟩

end

/-- Generation of what all nodes contribute finishes or finds two bodies for one name. -/
theorem generateFrom_cases {c : Compiler} {consumed rest : List NodeId} {length position : Nat}
    (before : Progress) {parts : List Contribution}
    (h : c.partsFrom g length consumed position rest before.supplies before.uniforms =
      .ok parts) :
    (∃ after, c.generateFrom g length consumed position rest before = .ok after) ∨
      ∃ kind id name body names, c.generateFrom g length consumed position rest before =
        .error ⟨.nameConflict kind id name body, names⟩ := by
  induction rest generalizing position before parts with
  | nil => exact Or.inl ⟨before, rfl⟩
  | cons id rest ih =>
    obtain ⟨part, hpart, hbind⟩ := bind_eq_ok_iff.mp h
    obtain ⟨later, hlater, -⟩ := bind_eq_ok_iff.mp hbind
    rw [generateFrom]
    rcases generateNode_cases hpart with ⟨isNew, names, -, hnode⟩ | hnode
    · rw [hnode]
      exact ih _ hlater
    · exact Or.inr ⟨_, _, _, _, _, by rw [hnode]⟩

/-- A node that contributes its code is complete. -/
theorem complete_of_contribute {c : Compiler} {length position : Nat} {consumed : List NodeId}
    {id : NodeId} {supplies : List (NodeId × Shader.Supply)} {uniforms : List Float32}
    {part : Contribution}
    (h : c.contribute g length consumed position id supplies uniforms = .ok part) :
    ∃ n, g.node? id = some n ∧ g.Complete n := by
  obtain ⟨n, brought, hn, -, hbrought, -⟩ := contribute_eq_ok_iff.mp h
  have hserved := exists_brings_iff.mp ⟨brought, hbrought⟩
  refine ⟨n, hn, ?_⟩
  rintro ⟨port, source⟩ hw rfl
  exact hserved _ hw

/-- Whatever code was generated from is complete. -/
theorem complete_of_generateFrom {c : Compiler} {consumed rest : List NodeId}
    {length position : Nat} {before after : Progress}
    (h : c.generateFrom g length consumed position rest before = .ok after) :
    ∀ id ∈ rest, ∃ n, g.node? id = some n ∧ g.Complete n := by
  induction rest generalizing position before with
  | nil => simp
  | cons id rest ih =>
    obtain ⟨next, hnode, hlater⟩ := generateFrom_cons_eq_ok_iff.mp h
    obtain ⟨part, _, _, hpart, -⟩ := generateNode_eq_ok_iff.mp hnode
    rw [List.forall_mem_cons]
    exact ⟨complete_of_contribute hpart, ih hlater⟩

/-- A shader is generated from an order that can be worked off, or else names conflict. -/
theorem generate_cases (c : Compiler) {order : List NodeId} (h : g.Runnable [] order) :
    (∃ shader c', c.generate g order = (.ok shader, c')) ∨
      ∃ e c', c.generate g order = (.error e, c') ∧ e.cause? = some .nameConflict := by
  have hstops : ∀ e names, c.finish g order = .error ⟨e, names⟩ → e.cause? = some .nameConflict →
      ∃ e c', c.generate g order = (.error e, c') ∧ e.cause? = some .nameConflict :=
    fun e names hstop hcause => ⟨e, _, generate_eq_error_iff.mpr ⟨names, hstop, rfl⟩, hcause⟩
  obtain ⟨parts, hparts⟩ : ∃ parts, c.parts g order = .ok parts :=
    c.partsFrom_eq_ok h (Nat.zero_add order.length) rfl []
  rcases generateFrom_cases {} hparts with ⟨after, hok⟩ | ⟨kind, id, name, body, names, hconflict⟩
  · cases hlibrary : Shader.conflict? after.library with
    | none =>
      have hfinish := finish_eq_ok_iff.mpr ⟨h.ne_nil, hok, hlibrary⟩
      exact Or.inl ⟨_, _, generate_eq_ok_iff.mpr ⟨after, hfinish, rfl, rfl⟩⟩
    | some name =>
      refine Or.inr (hstops (.libraryConflict name) after.names ?_ rfl)
      rw [finish_of_ne_nil c g h.ne_nil, hok]
      simp only [bind, Except.bind, checkLibrary, hlibrary]
  · refine Or.inr (hstops (.nameConflict kind id name body) names ?_ rfl)
    rw [finish_of_ne_nil c g h.ne_nil, hconflict]
    rfl

end FieldGraph.Compiler
