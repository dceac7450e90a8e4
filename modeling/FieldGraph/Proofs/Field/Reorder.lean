import FieldGraph.Proofs.Field.Build

/-!
# Fields do not depend on the order

Fields and shaders are made node by node along a list, each node from what was made of the nodes
that feed it. The list may name nodes that feed nothing and name nodes twice. What is made of a node
is determined all the same: by induction along one list it is what any other list makes of the
node. The plain meaning of a graph is therefore the same for every order a field is built from.
-/

namespace FieldGraph

namespace Graph

variable {α : Type} {g : Graph} {made made' : List (NodeId × α)}
  {rule : Node → List (PortType × Option α) → α}

/-! ## Values made of nodes -/

/-- What a wire takes from values made of nodes: nothing if nothing feeds the input, else a value
made of the source. -/
inductive Wire.Takes (made : List (NodeId × α)) : Wire → PortType × Option α → Prop where
  | nothing (port : PortSpec) : Takes made (port, none) (port.type, none)
  | source (port : PortSpec) {id : NodeId} {a : α} (found : (id, a) ∈ made) :
      Takes made (port, some id) (port.type, some a)

/-- What a wire brings it takes. -/
theorem Wire.Brings.takes {w : Wire} {input : PortType × Option α} (h : w.Brings made input) :
    w.Takes made input := by
  cases h with
  | nothing optional => exact .nothing _
  | @source port id key a found =>
    obtain rfl : key = id := by simpa using List.find?_some found
    exact .source port (List.mem_of_find?_eq_some found)

/-- What a wire takes stays there to take. -/
theorem Wire.Takes.mono {w : Wire} {input : PortType × Option α} (h : w.Takes made input)
    (hsub : made ⊆ made') : w.Takes made' input := by
  cases h with
  | nothing port => exact .nothing port
  | source port found => exact .source port (hsub found)

/-- Values made of nodes one after the other by a rule, the last one first. -/
inductive Made (g : Graph) (rule : Node → List (PortType × Option α) → α) :
    List (NodeId × α) → Prop where
  | nil : Made g rule []
  | cons {made : List (NodeId × α)} {n : Node} {taken : List (PortType × Option α)}
      (live : g.node? n.id = some n) (takes : List.Forall₂ (Wire.Takes made) (g.wires n) taken)
      (earlier : Made g rule made) : Made g rule ((n.id, rule n taken) :: made)

/-- Every value is made by the rule from some of the values. -/
theorem Made.exists_taken (h : g.Made rule made) {id : NodeId} {a : α} (ha : (id, a) ∈ made) :
    ∃ n taken, g.node? id = some n ∧ List.Forall₂ (Wire.Takes made) (g.wires n) taken ∧
      a = rule n taken := by
  induction h with
  | nil => cases ha
  | @cons made n taken live takes earlier ih =>
    have hsub : made ⊆ (n.id, rule n taken) :: made := List.subset_cons_self ..
    rcases List.mem_cons.mp ha with he | ha
    · cases he
      exact ⟨n, taken, live, takes.imp fun _ _ htakes => htakes.mono hsub, rfl⟩
    · obtain ⟨n', taken', live', takes', rfl⟩ := ih ha
      exact ⟨n', taken', live', takes'.imp fun _ _ htakes => htakes.mono hsub, rfl⟩

/-- Wires take the same from values that agree. -/
theorem eq_of_takes (hagree : ∀ id a b, (id, a) ∈ made → (id, b) ∈ made' → a = b) {ws : List Wire}
    {taken taken' : List (PortType × Option α)} (h : List.Forall₂ (Wire.Takes made) ws taken)
    (h' : List.Forall₂ (Wire.Takes made') ws taken') : taken = taken' := by
  induction h generalizing taken' with
  | nil =>
    cases h'
    rfl
  | cons hw _ ih =>
    cases h' with
    | cons hw' hws' =>
      rw [ih hws']
      cases hw with
      | nothing port =>
        cases hw'
        rfl
      | source port found =>
        cases hw' with
        | source _ found' => rw [hagree _ _ _ found found']

/-- What is made of a node does not depend on what was made before it, nor in which order. -/
theorem Made.eq_of_mem (h : g.Made rule made) (h' : g.Made rule made') {id : NodeId} {a b : α}
    (ha : (id, a) ∈ made) (hb : (id, b) ∈ made') : a = b := by
  induction h generalizing id a b with
  | nil => cases ha
  | @cons made n taken live takes earlier ih =>
    rcases List.mem_cons.mp ha with he | ha
    · cases he
      obtain ⟨n', taken', live', takes', rfl⟩ := h'.exists_taken hb
      obtain rfl : n = n' := Option.some.inj (live.symm.trans live')
      -- What the node takes was made before it, where both sides agree already.
      rw [eq_of_takes (fun _ _ _ ha hb => ih ha hb) takes takes']
    · exact ih ha hb

/-- There is one output node. -/
theorem WellFormed.id_eq_of_isOutput (h : g.WellFormed) {n n' : Node} (hn : g.node? n.id = some n)
    (hn' : g.node? n'.id = some n') (hends : n.kind.isOutput = true)
    (hends' : n'.kind.isOutput = true) : n.id = n'.id := by
  have hmem := (h.node?_iff.mp hn).1
  have hmem' := (h.node?_iff.mp hn').1
  exact h.id_eq_output hmem hends (h.output_eq hmem' hends')

end Graph

/-! ## Fields -/

namespace Field

variable {g : Graph}

/-- Whether a field is built depends neither on the effect of sampling nor on what is done to nodes
that are shared. -/
theorem exists_buildFrom {m m' : Type → Type} [Monad m] [Monad m']
    {share : Nat → Sampler m → Sampler m} (share' : Nat → Sampler m' → Sampler m')
    {consumed rest : List NodeId} {built : List (NodeId × Sampler m)}
    {built' : List (NodeId × Sampler m')} (hids : built.map (·.1) = built'.map (·.1))
    {position : Nat} {sampler : Sampler m}
    (h : buildFrom share g consumed built position rest = .ok sampler) :
    ∃ sampler', buildFrom share' g consumed built' position rest = .ok sampler' := by
  induction rest generalizing built built' position with
  | nil => cases h
  | cons id rest ih =>
    rw [buildFrom] at h ⊢
    cases hn : g.node? id with
    | none => simp [hn] at h
    | some n =>
      rw [hn] at h
      obtain ⟨inputs, hinputs, hlater⟩ := bind_eq_ok_iff.mp h
      -- Which wires are served depends only on which nodes are built.
      have hserved := Graph.exists_brings_iff.mp ⟨inputs, resolve_eq_ok_iff.mp hinputs⟩
      rw [hids] at hserved
      obtain ⟨inputs', hinputs'⟩ := Graph.exists_brings_iff.mpr hserved
      simp only [resolve_eq_ok_iff.mpr hinputs']
      cases rest with
      | nil =>
        cases hends : n.kind.isOutput with
        | false => simp [hends] at hlater
        | true => exact ⟨_, rfl⟩
      | cons next rest => exact ih (by simp [hids]) hlater

/-- The plain meaning is made node by node and belongs to an output node. -/
theorem made_of_buildFrom {consumed rest : List NodeId} {built : List (NodeId × Sampler Id)}
    (hbuilt : g.Made (nodeSampler (m := Id)) built) {position : Nat} {f : Sampler Id}
    (h : buildFrom (m := Id) (fun _ sampler => sampler) g consumed built position rest = .ok f) :
    ∃ output made, g.Made (nodeSampler (m := Id)) ((output.id, f) :: made) ∧
      g.node? output.id = some output ∧ output.kind.isOutput = true := by
  induction rest generalizing built position with
  | nil => cases h
  | cons id rest ih =>
    rw [buildFrom] at h
    cases hn : g.node? id with
    | none => simp [hn] at h
    | some n =>
      rw [hn] at h
      obtain rfl := Graph.id_of_node? hn
      obtain ⟨inputs, hinputs, hlater⟩ := bind_eq_ok_iff.mp h
      have htakes := (resolve_eq_ok_iff.mp hinputs).imp fun _ _ hbrings => hbrings.takes
      have hmade : g.Made (nodeSampler (m := Id)) ((n.id, nodeSampler n inputs) :: built) :=
        .cons hn htakes hbuilt
      simp only [ite_self] at hlater
      cases rest with
      | nil =>
        cases hends : n.kind.isOutput with
        | false => simp [hends] at hlater
        | true =>
          simp only [hends, if_true, Except.ok.injEq] at hlater
          exact ⟨n, built, hlater ▸ hmade, hn, hends⟩
      | cons next rest => exact ih hmade hlater

/-- The plain meaning of a graph does not depend on the order. -/
theorem plain_eq (hwf : g.WellFormed) {order order' : List NodeId} {f f' : Vec3 → Sample}
    (h : plain g order = .ok f) (h' : plain g order' = .ok f') : f = f' := by
  obtain ⟨output, made, hmade, hlive, hends⟩ := made_of_buildFrom .nil h
  obtain ⟨output', made', hmade', hlive', hends'⟩ := made_of_buildFrom .nil h'
  have hid := hwf.id_eq_of_isOutput hlive hlive' hends hends'
  rw [← hid] at hmade'
  exact hmade.eq_of_mem hmade' List.mem_cons_self List.mem_cons_self

/-- A field that is built has a plain meaning. -/
theorem exists_plain_of_eq_ok {order : List NodeId} {bounds : Box} {field : Field}
    (h : Field.of g order bounds = .ok field) : ∃ f, plain g order = .ok f := by
  obtain ⟨root, hroot, -⟩ := bind_eq_ok_iff.mp h
  have hbuild : buildFrom remember g (g.consumed order) [] 0 order = .ok root := hroot
  have hnothing : ([] : List (NodeId × Sampler (StateM Memory))).map (·.1) =
      ([] : List (NodeId × Sampler Id)).map (·.1) := rfl
  exact exists_buildFrom (fun _ sampler => sampler) hnothing hbuild

end Field

end FieldGraph
