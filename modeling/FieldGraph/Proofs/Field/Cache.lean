import FieldGraph.Field.Source
import FieldGraph.Proofs.Field.Build
import FieldGraph.Proofs.Field.Steady
import FieldGraph.Proofs.Kind.Standard

/-!
# Remembered samples are transparent

A field keeps, for every node that several inputs share, the point last sampled and its value, and
it keeps them from one point to the next and from one batch to the next. The value is used again
only at a point that compares equal, so it is the right one wherever samples do not tell such
points apart. The invariant says what every place of the memory may hold: a value that the plain
function of the node at that position has at the point beside it. Sampling any node keeps it, also
where a node is sampled at several points on the way to one distance.
-/

namespace FieldGraph.Field

open FieldGraph.Graph

/-! ## The memory -/

/-- Every remembered sample is the one that the function of its position has at its point. -/
def Faithful (origins : Nat → Vec3 → Sample) (memory : Memory) : Prop :=
  ∀ position last sample, memory[position]? = some (some (last, sample)) →
    sample = origins position last

/-- A computation that gives a value and keeps the memory faithful. -/
def Yields {α : Type} (origins : Nat → Vec3 → Sample) (x : StateM Memory α) (a : α) : Prop :=
  ∀ memory, Faithful origins memory →
    (x.run memory).1 = a ∧ Faithful origins (x.run memory).2

/-- A sampler that gives the samples of a function, whatever is remembered. -/
def Transparent (origins : Nat → Vec3 → Sample) (s : Sampler (StateM Memory))
    (f : Vec3 → Sample) : Prop :=
  ∀ p, Yields origins (s p) (f p)

variable {origins : Nat → Vec3 → Sample}

/-- Nothing remembered is faithful. -/
theorem faithful_fresh (field : Field) : Faithful origins field.fresh := by
  intro position last sample h
  simp [fresh, Array.getElem?_replicate] at h

/-- A sample that belongs to its position may be remembered. -/
theorem Faithful.set {memory : Memory} (h : Faithful origins memory) (position : Nat) (p : Vec3) :
    Faithful origins (memory.setIfInBounds position (some (p, origins position p))) := by
  intro other last sample hother
  rw [Array.getElem?_setIfInBounds] at hother
  by_cases hsame : position = other
  · subst hsame
    simp only [if_true, Option.ite_none_right_eq_some, Option.some.injEq] at hother
    obtain ⟨-, rfl, rfl⟩ := hother
    rfl
  · exact h other last sample (by simpa [hsame] using hother)

namespace Yields

/-- A value that is there needs no memory. -/
theorem pure {α : Type} (a : α) : Yields origins (pure a) a := fun _ h => ⟨rfl, h⟩

/-- One computation after another. -/
theorem bind {α β : Type} {x : StateM Memory α} {a : α} {next : α → StateM Memory β} {b : β}
    (hx : Yields origins x a) (hnext : Yields origins (next a) b) :
    Yields origins (x >>= next) b := by
  intro memory h
  obtain ⟨hvalue, hkept⟩ := hx memory h
  have hrun : (x >>= next).run memory = (next a).run (x.run memory).2 := by
    rw [← hvalue]
    rfl
  rw [hrun]
  exact hnext _ hkept

/-- A probe whose questions are answered rightly has the right result. -/
theorem probe {α : Type} {answer : Nat → Vec3 → StateM Memory Sample}
    {plainAnswer : Nat → Vec3 → Id Sample}
    (h : ∀ index q, Yields origins (answer index q) (plainAnswer index q)) (x : Probe α) :
    Yields origins (x.run answer) (x.run plainAnswer) := by
  induction x with
  | done result => exact .pure result
  | ask input point next ih => exact (h input point).bind (ih _)

end Yields

/-! ## Nodes -/

/-- An input that is answered alike on both sides. -/
def Alike (origins : Nat → Vec3 → Sample) (plain : PortType × Option (Vec3 → Sample))
    (kept : PortType × Option (Sampler (StateM Memory))) : Prop :=
  plain.1 = kept.1 ∧ Option.Rel (fun f s => Transparent origins s f) plain.2 kept.2

/-- Inputs that are alike have the same ones fed. -/
theorem wired_eq {plain : List (PortType × Option (Vec3 → Sample))}
    {kept : List (PortType × Option (Sampler (StateM Memory)))}
    (h : List.Forall₂ (Alike origins) plain kept) :
    plain.map (·.2.isSome) = kept.map (·.2.isSome) := by
  induction h with
  | nil => rfl
  | @cons first first' _ _ hfirst _ ih =>
    obtain ⟨type, feed⟩ := first
    obtain ⟨type', feed'⟩ := first'
    have hfed : feed.isSome = feed'.isSome := by
      obtain ⟨-, hfeed⟩ := hfirst
      cases hfeed <;> rfl
    rw [List.map_cons, List.map_cons, ih, hfed]

/-- Inputs that are alike answer alike. -/
theorem yields_answer {plain : List (PortType × Option (Vec3 → Sample))}
    {kept : List (PortType × Option (Sampler (StateM Memory)))}
    (h : List.Forall₂ (Alike origins) plain kept) (index : Nat) (q : Vec3) :
    Yields origins (answer kept index q) (answer (m := Id) plain index q) := by
  induction h generalizing index with
  | nil => exact .pure _
  | @cons first first' _ _ hfirst _ ih =>
    cases index with
    | succ index => exact ih index
    | zero =>
      obtain ⟨type, feed⟩ := first
      obtain ⟨type', feed'⟩ := first'
      obtain ⟨htype, hfeed⟩ := hfirst
      obtain rfl : type = type' := htype
      cases hfeed with
      | none => exact .pure _
      | some hsampler => exact hsampler q

/-- A node over inputs that are alike is transparent. -/
theorem transparent_nodeSampler (n : Node) {plain : List (PortType × Option (Vec3 → Sample))}
    {kept : List (PortType × Option (Sampler (StateM Memory)))}
    (h : List.Forall₂ (Alike origins) plain kept) :
    Transparent origins (nodeSampler n kept) (nodeSampler (m := Id) n plain) := by
  intro p
  have hplain : nodeSampler (m := Id) n plain p =
      (n.kind.evaluate p (kept.map (·.2.isSome)) n.params).run (answer (m := Id) plain) := by
    rw [← wired_eq h]
    rfl
  rw [hplain]
  exact .probe (yields_answer h) _

/-- The sample remembered for a point that compares equal. -/
def recalled? (memory : Memory) (position : Nat) (p : Vec3) : Option Sample :=
  match memory[position]? with
  | some (some (last, sample)) => if p.same last then some sample else none
  | _ => none

/-- A sample that is remembered is used again; else the node is sampled and the sample stored. -/
theorem run_remember (position : Nat) (s : Sampler (StateM Memory)) (p : Vec3) (memory : Memory) :
    (remember position s p).run memory =
      match recalled? memory position p with
      | some sample => (sample, memory)
      | none =>
          (((s p).run memory).1,
            ((s p).run memory).2.setIfInBounds position (some (p, ((s p).run memory).1))) := by
  change (match recalled? memory position p with
    | some sample => (pure sample : StateM Memory Sample)
    | none => s p >>= fun sample => do
        modify fun (memory : Memory) => memory.setIfInBounds position (some (p, sample))
        pure sample) memory = _
  cases recalled? memory position p <;> rfl

/-- What a faithful memory recalls for a steady position is the sample there. -/
theorem Faithful.recall {memory : Memory} (h : Faithful origins memory) {position : Nat}
    (hsteady : Steady (origins position)) {p : Vec3} {sample : Sample}
    (hrecall : recalled? memory position p = some sample) : sample = origins position p := by
  unfold recalled? at hrecall
  split at hrecall
  next last stored hstored =>
    rw [Option.ite_none_right_eq_some, Option.some.injEq] at hrecall
    obtain ⟨hsame, rfl⟩ := hrecall
    rw [h position last stored hstored, hsteady p last hsame]
  next => cases hrecall

/-- Remembering the last sample of a steady node is transparent. -/
theorem transparent_remember {position : Nat} {s : Sampler (StateM Memory)}
    (h : Transparent origins s (origins position)) (hsteady : Steady (origins position)) :
    Transparent origins (remember position s) (origins position) := by
  intro p memory hmemory
  rw [run_remember]
  cases hrecall : recalled? memory position p with
  | some sample => exact ⟨hmemory.recall hsteady hrecall, hmemory⟩
  | none =>
    obtain ⟨hvalue, hkept⟩ := h p memory hmemory
    dsimp only
    rw [hvalue]
    exact ⟨rfl, hkept.set position p⟩

/-! ## Building -/

/-- Functions that agree below a position. -/
def AgreeBelow (position : Nat) (a b : Nat → Vec3 → Sample) : Prop := ∀ i < position, a i = b i

/-- A node built before a position on both sides: plainly it is steady, and the other is
transparent, whatever belongs to the positions to come. -/
def Built (position : Nat) (origins : Nat → Vec3 → Sample) (plain : NodeId × (Vec3 → Sample))
    (kept : NodeId × Sampler (StateM Memory)) : Prop :=
  plain.1 = kept.1 ∧ Steady plain.2 ∧
    ∀ later, AgreeBelow position later origins → Transparent later kept.2 plain.2

/-- What was built before a position was built before the next. -/
theorem Built.next {position : Nat} {plain : NodeId × (Vec3 → Sample)}
    {kept : NodeId × Sampler (StateM Memory)} (h : Built position origins plain kept)
    (f : Vec3 → Sample) :
    Built (position + 1) (Function.update origins position f) plain kept := by
  obtain ⟨hid, hsteady, htransparent⟩ := h
  refine ⟨hid, hsteady, fun later hlater => htransparent later ?_⟩
  intro i hi
  rw [hlater i (by omega), Function.update_of_ne (by omega)]

variable {g : Graph}

/-- What a wire brings from one side it brings from the other. -/
theorem exists_brings {position : Nat} {plain : List (NodeId × (Vec3 → Sample))}
    {kept : List (NodeId × Sampler (StateM Memory))}
    (h : List.Forall₂ (Built position origins) plain kept) {ws : List Wire}
    {keptInputs : List (PortType × Option (Sampler (StateM Memory)))}
    (hkept : List.Forall₂ (Wire.Brings kept) ws keptInputs) :
    ∃ inputs, List.Forall₂ (Wire.Brings plain) ws inputs ∧
      (∀ input ∈ inputs, ∀ f, input.2 = some f → Steady f) ∧
      inputs.map (·.1) = ws.map (·.1.type) ∧
      ∀ later, AgreeBelow position later origins →
        List.Forall₂ (Alike later) inputs keptInputs := by
  induction hkept with
  | nil => exact ⟨[], .nil, by simp, rfl, fun _ _ => .nil⟩
  | @cons w b ws rest hw _ ih =>
    obtain ⟨inputs, hbrings, hsteady, htypes, halike⟩ := ih
    cases hw with
    | @nothing port optional =>
      refine ⟨(port.type, none) :: inputs, .cons (.nothing optional) hbrings, ?_, ?_, ?_⟩
      · simpa using hsteady
      · simp [htypes]
      · exact fun later hlater => .cons ⟨rfl, .none⟩ (halike later hlater)
    | @source port id key s found =>
      obtain ⟨⟨key', f⟩, hfind, hid, hsteadyf, htransparent⟩ := find?_of_forall₂ (fun _ _ hbuilt => hbuilt.1) h found
      refine ⟨(port.type, some f) :: inputs, .cons (.source hfind) hbrings, ?_, ?_, ?_⟩
      · simpa [hsteadyf] using hsteady
      · simp [htypes]
      · exact fun later hlater => .cons ⟨rfl, .some (htransparent later hlater)⟩ (halike later hlater)

/-- The inputs that wires bring have the types of the ports. -/
theorem types_wires (g : Graph) (n : Node) :
    (g.wires n).map (·.1.type) = n.kind.inputs.map (·.type) := by
  have hfrom : ∀ (index : Nat) (ports : List PortSpec),
      (g.wiresFrom n.id index ports).map (·.1.type) = ports.map (·.type) := by
    intro index ports
    induction ports generalizing index with
    | nil => rfl
    | cons port rest ih => simp [ih, wire]
  exact hfrom 0 n.kind.inputs

/-- One more node is built on both sides. -/
theorem built_node {n : Node} (hsteady : SteadyNode n) {position : Nat}
    {plain : List (NodeId × (Vec3 → Sample))} {kept : List (NodeId × Sampler (StateM Memory))}
    (h : List.Forall₂ (Built position origins) plain kept)
    {keptInputs : List (PortType × Option (Sampler (StateM Memory)))}
    (hkept : resolve g n kept 0 n.kind.inputs = .ok keptInputs) (id : NodeId) (shared : Prop)
    [Decidable shared] :
    ∃ inputs, resolve (m := Id) g n plain 0 n.kind.inputs = .ok inputs ∧
      Built (position + 1) (Function.update origins position (nodeSampler (m := Id) n inputs))
        (id, nodeSampler (m := Id) n inputs)
        (id, if shared then remember position (nodeSampler n keptInputs)
          else nodeSampler n keptInputs) := by
  obtain ⟨inputs, hbrings, hfeeds, htypes, halike⟩ :=
    exists_brings h (resolve_eq_ok_iff.mp hkept)
  have hown : Steady (nodeSampler (m := Id) n inputs) :=
    hsteady inputs ⟨htypes.trans (types_wires g n), hfeeds⟩
  refine ⟨inputs, resolve_eq_ok_iff.mpr hbrings, rfl, hown, ?_⟩
  intro later hlater
  have hposition : later position = nodeSampler (m := Id) n inputs := by
    rw [hlater position (Nat.lt_succ_self position), Function.update_self]
  have hbelow : AgreeBelow position later origins := by
    intro i hi
    rw [hlater i (by omega), Function.update_of_ne (by omega)]
  have hsampler := transparent_nodeSampler n (halike later hbelow)
  split
  · rw [← hposition] at hsampler hown ⊢
    exact transparent_remember hsampler hown
  · exact hsampler

/-- A field that is built has its plain meaning, and its root is transparent. -/
theorem exists_plain {consumed rest : List NodeId}
    (hsteady : ∀ id ∈ rest, ∀ n, g.node? id = some n → SteadyNode n) {position : Nat}
    {plain : List (NodeId × (Vec3 → Sample))} {kept : List (NodeId × Sampler (StateM Memory))}
    (h : List.Forall₂ (Built position origins) plain kept) {root : Sampler (StateM Memory)}
    (hroot : buildFrom remember g consumed kept position rest = .ok root) :
    ∃ f origins', buildFrom (m := Id) (fun _ s => s) g consumed plain position rest = .ok f ∧
      Transparent origins' root f := by
  induction rest generalizing position plain kept origins with
  | nil => cases hroot
  | cons id rest ih =>
    rw [List.forall_mem_cons] at hsteady
    rw [buildFrom] at hroot ⊢
    cases hn : g.node? id with
    | none => simp [hn] at hroot
    | some n =>
      rw [hn] at hroot
      obtain ⟨keptInputs, hinputs, hlater⟩ := bind_eq_ok_iff.mp hroot
      obtain ⟨inputs, hplain, hbuilt⟩ :=
        built_node (hsteady.1 n hn) h hinputs id (1 < consumed.count id)
      simp only [hplain, ite_self]
      cases rest with
      | nil =>
        cases hends : n.kind.isOutput with
        | false => simp [hends] at hlater
        | true =>
          simp only [hends, if_true, Except.ok.injEq] at hlater
          subst hlater
          exact ⟨_, _, rfl, hbuilt.2.2 _ fun _ _ => rfl⟩
      | cons next rest =>
        exact ih hsteady.2 (.cons hbuilt (h.imp fun _ _ hearlier => hearlier.next _)) hlater

/-! ## Batches -/

/-- The answers to batches of points, one after the other, from a memory on. -/
def answers (field : Field) : List (List Vec3 × Nat) → Memory →
    List (Except EvalError (List Float32))
  | [], _ => []
  | batch :: rest, memory =>
      let result := (field.source.evaluate batch.1 batch.2).run.run memory
      result.1 :: answers field rest result.2

/-- Points one after the other have the plain distances. -/
theorem yields_distances {field : Field} {f : Vec3 → Sample}
    (h : Transparent origins field.root f) (points : List Vec3) :
    Yields origins (field.distances points) (points.map fun p => (f p).s) := by
  induction points with
  | nil => exact .pure []
  | cons p rest ih => exact (h p).bind (ih.bind (.pure _))

/-- A batch that passes its checks has the plain distances. -/
theorem yields_evaluate {field : Field} {f : Vec3 → Sample}
    (h : Transparent origins field.root f) (points : List Vec3) (room : Nat) :
    Yields origins (field.source.evaluate points room).run
      ((Source.checkRoom points room).map fun _ => points.map fun p => (f p).s) := by
  cases hroom : Source.checkRoom points room with
  | error e =>
    have hrun : (field.source.evaluate points room).run = pure (.error e) := by
      simp only [source, hroom]
      rfl
    rw [hrun]
    exact .pure _
  | ok u =>
    have hrun : (field.source.evaluate points room).run =
        field.distances points >>= fun distances => pure (.ok distances) := by
      simp only [source, hroom]
      rfl
    rw [hrun]
    exact (yields_distances h points).bind (.pure _)

/-- Batches one after the other have the plain distances, whatever came before. -/
theorem answers_eq {field : Field} {f : Vec3 → Sample} (h : Transparent origins field.root f)
    (batches : List (List Vec3 × Nat)) {memory : Memory} (hmemory : Faithful origins memory) :
    field.answers batches memory = batches.map fun batch =>
      (Source.checkRoom batch.1 batch.2).map fun _ => batch.1.map fun p => (f p).s := by
  induction batches generalizing memory with
  | nil => rfl
  | cons batch rest ih =>
    obtain ⟨hresult, hkept⟩ := yields_evaluate h batch.1 batch.2 memory hmemory
    rw [answers, List.map_cons, ← hresult, ih hkept]

/-- Every field that is built from a graph whose nodes do not tell equal points apart gives the
distances of the plain meaning of the graph, batch after batch and whatever it has remembered: a
batch is refused only for the room it is given, and else each of its points has the distance that
the nodes give when nothing is remembered. -/
theorem cached_distances_eq_plain (g : Graph) (order : List NodeId) (bounds : Box) (field : Field)
    (h : Field.of g order bounds = .ok field)
    (hsteady : ∀ id ∈ order, ∀ n, g.node? id = some n → SteadyNode n) :
    ∃ f, plain g order = .ok f ∧ ∀ batches : List (List Vec3 × Nat),
      field.answers batches field.fresh = batches.map fun batch =>
        (Source.checkRoom batch.1 batch.2).map fun _ => batch.1.map fun p => (f p).s := by
  obtain ⟨root, hroot, he⟩ := bind_eq_ok_iff.mp h
  cases he
  have hnothing : List.Forall₂ (Built 0 fun _ _ => {}) [] [] := .nil
  obtain ⟨f, origins, hplain, htransparent⟩ := exists_plain hsteady hnothing hroot
  exact ⟨f, hplain, fun batches => answers_eq htransparent batches (faithful_fresh _)⟩

/-- Edits that join a sphere with its mirror image, so that the sphere is sampled at two points on
the way to one distance. -/
def mirroredSphere : List Edit :=
  [.addNode "sphere", .addNode "mirror", .addNode "union", .addNode "output",
    .connect (.outOf 1 0) (.into 2 0), .connect (.outOf 1 0) (.into 3 0),
    .connect (.outOf 2 0) (.into 3 1), .connect (.outOf 3 0) (.into 4 0)]

/-- The sphere and its image make a field. -/
theorem isOk_mirroredSphere :
    (Field.of ((Graph.empty .standard).run mirroredSphere) [1, 2, 3, 4] (.centred 4)).isOk = true := by
  rw [Catalog.standard_eq]
  decide +kernel

/-- The kinds of the nodes, by name. -/
theorem kinds_mirroredSphere :
    [1, 2, 3, 4].map (fun id =>
      (((Graph.empty .standard).run mirroredSphere).node? id).map (·.kind.id)) =
        [some "sphere", some "mirror", some "union", some "output"] := by
  rw [Catalog.standard_eq]
  decide +kernel

/-- The nodes of the sphere and its image are steady. -/
theorem steady_mirroredSphere : ∀ id ∈ [1, 2, 3, 4], ∀ n,
    ((Graph.empty .standard).run mirroredSphere).node? id = some n → SteadyNode n := by
  have hkind : ∀ {n : Node} {id : NodeId} {k : Kind},
      ((Graph.empty .standard).run mirroredSphere).node? id = some n → k ∈ Kind.standard →
      (((Graph.empty .standard).run mirroredSphere).node? id).map (·.kind.id) = some k.id →
      n.kind = k := by
    intro n id k hn hk hid
    obtain ⟨hwf, hcatalog⟩ := Reached.wellFormed Catalog.standard_registered ⟨mirroredSphere, rfl⟩
    have hstandard := hwf.kinds n (hwf.node?_iff.mp hn).1
    rw [hcatalog] at hstandard
    rw [hn, Option.map_some, Option.some.injEq] at hid
    exact Kind.eq_of_id (Catalog.mem_standard hstandard) hk hid
  have hids := kinds_mirroredSphere
  simp only [List.map_cons, List.map_nil, List.cons.injEq, and_true] at hids
  obtain ⟨hsphere, hmirror, hunion, houtput⟩ := hids
  simp only [List.forall_mem_cons]
  refine ⟨?_, ?_, ?_, ?_, by simp⟩
  · exact fun n hn => steadyNode_sphere (hkind hn (by simp [Kind.standard]) hsphere)
  · exact fun n hn => steadyNode_mirror (hkind hn (by simp [Kind.standard]) hmirror)
  · exact fun n hn =>
      steadyNode_combinator (hkind (k := Kind.union) hn (by simp [Kind.standard]) hunion)
  · exact fun n hn => steadyNode_output (hkind hn (by simp [Kind.standard]) houtput)

/-- The sphere and its image have the plain distances, batch after batch. -/
theorem cached_distances_mirroredSphere :
    let g := (Graph.empty .standard).run mirroredSphere
    (∀ id ∈ [1, 2, 3, 4], ∀ n, g.node? id = some n → SteadyNode n) ∧
    ∃ field, Field.of g [1, 2, 3, 4] (.centred 4) = .ok field ∧
    ∃ f, plain g [1, 2, 3, 4] = .ok f ∧ ∀ batches : List (List Vec3 × Nat),
      field.answers batches field.fresh = batches.map fun batch =>
        (Source.checkRoom batch.1 batch.2).map fun _ => batch.1.map fun p => (f p).s := by
  intro g
  have hok : (Field.of g [1, 2, 3, 4] (.centred 4)).isOk = true := isOk_mirroredSphere
  cases hfield : Field.of g [1, 2, 3, 4] (.centred 4) with
  | error e =>
    rw [hfield] at hok
    cases hok
  | ok field =>
    exact ⟨steady_mirroredSphere, field, rfl,
      cached_distances_eq_plain g _ _ field hfield steady_mirroredSphere⟩

end FieldGraph.Field
