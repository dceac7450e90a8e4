import FieldGraph.Proofs.Graph.Order

/-!
# Wires

Four traversals look at what feeds the inputs of a node: validation, ordering, the construction
of the field and the generation of the shader. What they see is said here once, as the wires of
a node: each input with the node that feeds it. A graph passes validation exactly when it has an
output and no wire upstream of the output lacks what it requires; then the evaluation order can
be worked off from the front, which is the relation `Runnable`.
-/

namespace FieldGraph.Graph

open Relation

/-! ## The wires of a node -/

/-- An input of a node with the node that feeds it. -/
abbrev Wire := PortSpec × Option NodeId

/-- The wire that ends at an input. -/
def wire (g : Graph) (id : NodeId) (port : PortSpec) (index : Nat) : Wire :=
  (port, (g.incoming? (.into id index)).map (·.src.node))

/-- The wires that end at inputs counted from an index on. -/
def wiresFrom (g : Graph) (id : NodeId) (index : Nat) (ports : List PortSpec) : List Wire :=
  (ports.zipIdx index).map fun (port, index) => g.wire id port index

/-- All wires of a node. -/
def wires (g : Graph) (n : Node) : List Wire := g.wiresFrom n.id 0 n.kind.inputs

@[simp] theorem wiresFrom_nil (g : Graph) (id : NodeId) (index : Nat) :
    g.wiresFrom id index [] = [] := rfl

@[simp] theorem wiresFrom_cons (g : Graph) (id : NodeId) (index : Nat) (port : PortSpec)
    (rest : List PortSpec) :
    g.wiresFrom id index (port :: rest) =
      g.wire id port index :: g.wiresFrom id (index + 1) rest := rfl

/-- Every input of a node is the end of one wire. -/
theorem mem_wires {g : Graph} {n : Node} {w : Wire} :
    w ∈ g.wires n ↔ ∃ i : Nat, ∃ port, n.kind.inputs[i]? = some port ∧ w = g.wire n.id port i := by
  simp only [wires, wiresFrom, List.mem_map, Prod.exists, List.mem_zipIdx_iff_getElem?]
  constructor
  · rintro ⟨port, i, hi, rfl⟩
    exact ⟨i, port, hi, rfl⟩
  · rintro ⟨i, port, hi, rfl⟩
    exact ⟨port, i, hi, rfl⟩

/-- Every required input of a node is fed. -/
def Complete (g : Graph) (n : Node) : Prop :=
  ∀ w ∈ g.wires n, w.2 = none → w.1.optional = true

/-- A wire that can be served once some nodes are done. -/
def Wire.Served (done : List NodeId) (w : Wire) : Prop :=
  match w.2 with
  | none => w.1.optional = true
  | some source => source ∈ done

variable {g : Graph}

/-- The source of a wire feeds the node. -/
theorem WellFormed.feeds_of_wire (h : g.WellFormed) {n : Node} {port : PortSpec}
    {source : NodeId} (hw : (port, some source) ∈ g.wires n) : g.Feeds source n.id := by
  obtain ⟨i, port', -, he⟩ := mem_wires.mp hw
  obtain ⟨-, hsource⟩ := Prod.mk.inj he
  obtain ⟨c, hc, rfl⟩ := Option.map_eq_some_iff.mp hsource.symm
  obtain ⟨hmem, hdst⟩ := h.directed.incoming?_iff.mp hc
  exact ⟨c, hmem, rfl, by rw [hdst]; rfl⟩

/-- The source of a wire is a node whose only output has the type of the input. -/
theorem WellFormed.source_of_wire (h : g.WellFormed) (hfault : ∀ n ∈ g.nodes, n.kind.Faultless)
    {n : Node} (hn : n ∈ g.nodes) {port : PortSpec} {source : NodeId}
    (hw : (port, some source) ∈ g.wires n) :
    ∃ m, g.node? source = some m ∧ m.kind.isOutput = false ∧ m.kind.resultType = port.type := by
  obtain ⟨i, port', hi, he⟩ := mem_wires.mp hw
  obtain ⟨rfl, hsource⟩ := Prod.mk.inj he
  obtain ⟨c, hc, rfl⟩ := Option.map_eq_some_iff.mp hsource.symm
  obtain ⟨hmem, hdst⟩ := h.directed.incoming?_iff.mp hc
  obtain ⟨hout, hin, src, dst, hsrc, hport, htype⟩ := h.linked c hmem
  obtain ⟨m, j, hm, hj⟩ := output_of_portSpec hout hsrc
  obtain ⟨n', i', hn', hp, hi'⟩ := input_of_portSpec hin hport
  -- The wire and the connection name the same input, hence the same port.
  have hnode : g.node? n.id = some n := h.node?_iff.mpr ⟨hn, rfl⟩
  rw [hdst] at hn' hp
  obtain rfl : n = n' := Option.some.inj (hnode.symm.trans hn')
  obtain rfl : i = i' := by
    simp only [Port.into, Port.mk.injEq, true_and] at hp
    exact Int.ofNat.inj hp
  obtain rfl : port = dst := Option.some.inj (hi.symm.trans hi')
  -- A kind without outputs has none to start a connection from; any other has one.
  have hkind := hfault m (h.node?_iff.mp hm).1
  cases ho : m.kind.isOutput with
  | true => simp [hkind.outputs_of_isOutput ho] at hj
  | false =>
    obtain ⟨only, honly⟩ := hkind.outputs_of_not_isOutput ho
    rw [honly, List.getElem?_singleton] at hj
    have hsame : only = src := by
      split at hj
      · exact Option.some.inj hj
      · cases hj
    exact ⟨m, hm, ho, by simp [Signature.resultType, honly, hsame, htype]⟩

/-! ## Validation -/

/-- The first output node found is the output of the graph. -/
theorem WellFormed.outputs_cases (h : g.WellFormed) :
    (g.outputs = [] ∧ g.output = none) ∨
      ∃ root rest, g.outputs = root :: rest ∧ g.output = some root := by
  have hmem : ∀ id, id ∈ g.outputs ↔ g.output = some id := by
    intro id
    rw [h.output id]
    simp only [outputs, List.mem_map, List.mem_filter]
    constructor
    · rintro ⟨n, ⟨hn, ho⟩, hid⟩
      exact ⟨n, hn, hid, ho⟩
    · rintro ⟨n, hn, hid, ho⟩
      exact ⟨n, ⟨hn, ho⟩, hid⟩
  cases ho : g.outputs with
  | nil =>
    refine Or.inl ⟨rfl, Option.eq_none_iff_forall_ne_some.mpr ?_⟩
    intro id hid
    have := (hmem id).mpr hid
    simp [ho] at this
  | cons root rest => exact Or.inr ⟨root, rest, rfl, (hmem root).mp (by simp [ho])⟩

/-- Validation of a well-formed graph always reports. -/
theorem WellFormed.validate_eq (h : g.WellFormed) : g.validate = .ok g.report := by
  rcases h.outputs_cases with ⟨ho, -⟩ | ⟨root, rest, ho, hroot⟩
  · simp [validate, ho]
  · have hmissing : g.hasMissingAncestor root = false :=
      h.directed.hasMissingAncestor_eq_false (h.directed.output root hroot)
    simp [validate, ho, hmissing]

/-- A node has one finding for every required input that nothing feeds. -/
theorem mem_unconnectedInputs {n : Node} {d : Diagnostic} :
    d ∈ g.unconnectedInputs n ↔ ∃ i : Nat, ∃ port, n.kind.inputs[i]? = some port ∧
      port.optional = false ∧ g.feed? (.into n.id i) = none ∧ d = unconnectedFinding n i port := by
  simp only [unconnectedInputs, List.mem_filterMap, Prod.exists, List.mem_zipIdx_iff_getElem?,
    Option.ite_none_right_eq_some, Bool.and_eq_true, Bool.not_eq_true', Option.isNone_iff_eq_none,
    Option.some.injEq]
  constructor
  · rintro ⟨port, i, hi, ⟨hrequired, hfree⟩, rfl⟩
    exact ⟨i, port, hi, hrequired, hfree, rfl⟩
  · rintro ⟨i, port, hi, hrequired, hfree, rfl⟩
    exact ⟨port, i, hi, ⟨hrequired, hfree⟩, rfl⟩

/-- A node has no finding about unconnected inputs exactly when it is complete. -/
theorem unconnectedInputs_eq_nil_iff {n : Node} :
    g.unconnectedInputs n = [] ↔ g.Complete n := by
  rw [List.eq_nil_iff_forall_not_mem]
  constructor
  · intro hnone w hw hopen
    obtain ⟨i, port, hi, rfl⟩ := mem_wires.mp hw
    have hfree := incoming?_eq_none_iff.mp (Option.map_eq_none_iff.mp hopen)
    by_contra hrequired
    exact hnone _ (mem_unconnectedInputs.mpr
      ⟨i, port, hi, Bool.eq_false_of_not_eq_true hrequired, hfree, rfl⟩)
  · intro hcomplete d hd
    obtain ⟨i, port, hi, hrequired, hfree, -⟩ := mem_unconnectedInputs.mp hd
    have hopen : (g.wire n.id port i).2 = none :=
      Option.map_eq_none_iff.mpr (incoming?_eq_none_iff.mpr hfree)
    have hoptional := hcomplete _ (mem_wires.mpr ⟨i, port, hi, rfl⟩) hopen
    cases hrequired.symm.trans hoptional

/-- The output is the only output node, so the findings about a node depend only on whether it
feeds the output. -/
theorem WellFormed.nodeFindings_eq (h : g.WellFormed) {root : NodeId} (hroot : g.output = some root)
    {n : Node} (hn : n ∈ g.nodes) :
    g.nodeFindings root (g.ancestors root) n =
      if n.id ∈ g.ancestors root then g.unconnectedInputs n else [unreachableFinding n] := by
  cases hout : n.kind.isOutput with
  | false => simp [nodeFindings, hout]
  | true =>
    have hid := h.id_eq_output hn hout hroot
    have hself : root ∈ g.ancestors root := h.directed.mem_ancestors.mpr .refl
    simp [nodeFindings, hid, hself]

/-- Nothing prevents compilation exactly when there is an output and everything that feeds it
is complete. -/
theorem WellFormed.errors_report_iff (h : g.WellFormed) :
    g.report.errors = [] ↔ ∃ root, g.output = some root ∧
      ∀ n ∈ g.nodes, ReflTransGen g.Feeds n.id root → g.Complete n := by
  rcases h.outputs_cases with ⟨ho, hnone⟩ | ⟨root, rest, ho, hroot⟩
  · simp [report, ho, hnone, Report.errors, noOutputFinding]
  · have hfind : ∀ n ∈ g.nodes, (∀ d ∈ g.nodeFindings root (g.ancestors root) n,
        ¬ d.severity = .error) ↔ (ReflTransGen g.Feeds n.id root → g.Complete n) := by
      intro n hn
      rw [h.nodeFindings_eq hroot hn, ← h.directed.mem_ancestors,
        ← unconnectedInputs_eq_nil_iff, List.eq_nil_iff_forall_not_mem]
      by_cases hmem : n.id ∈ g.ancestors root
      · simp only [hmem, if_true, true_imp_iff]
        refine forall₂_congr fun d hd => iff_of_false (not_not.mpr ?_) not_false
        obtain ⟨i, port, -, -, -, rfl⟩ := mem_unconnectedInputs.mp hd
        rfl
      · simp [hmem, unreachableFinding]
    simp only [report, ho, hroot, Report.errors, List.filter_eq_nil_iff, List.mem_flatMap,
      beq_iff_eq, Option.some.injEq, exists_eq_left']
    constructor
    · intro hall n hn
      exact (hfind n hn).mp fun d hd => hall d ⟨n, hn, hd⟩
    · rintro hall d ⟨n, hn, hd⟩
      exact (hfind n hn).mpr (hall n hn) d hd

/-! ## Serving wires -/

/-- What a wire brings, given what was made of the nodes done so far: nothing where the input may
stay open, else what was made of the source. -/
inductive Wire.Brings {α : Type} (made : List (NodeId × α)) : Wire → PortType × Option α → Prop
    where
  | nothing {port : PortSpec} (optional : port.optional = true) :
      Brings made (port, none) (port.type, none)
  | source {port : PortSpec} {id key : NodeId} {a : α}
      (found : made.find? (·.1 == id) = some (key, a)) :
      Brings made (port, some id) (port.type, some a)

/-- Lists that agree in their keys find related entries. -/
theorem find?_of_forall₂ {α β : Type} {r : NodeId × α → NodeId × β → Prop}
    (hkey : ∀ a b, r a b → a.1 = b.1) {as : List (NodeId × α)} {bs : List (NodeId × β)}
    (h : List.Forall₂ r as bs) {id : NodeId} {b : NodeId × β}
    (hfind : bs.find? (·.1 == id) = some b) :
    ∃ a, as.find? (·.1 == id) = some a ∧ r a b := by
  induction h with
  | nil => cases hfind
  | @cons a b' _ _ hfirst _ ih =>
    rw [List.find?_cons] at hfind
    rw [List.find?_cons, hkey a b' hfirst]
    cases hid : b'.1 == id with
    | true =>
      rw [hid] at hfind
      cases hfind
      exact ⟨a, rfl, hfirst⟩
    | false =>
      rw [hid] at hfind
      exact ih hfind

/-- Wires bring something exactly when they are served. -/
theorem exists_brings_iff {α : Type} {made : List (NodeId × α)} {ws : List Wire} :
    (∃ inputs, List.Forall₂ (Wire.Brings made) ws inputs) ↔
      ∀ w ∈ ws, w.Served (made.map (·.1)) := by
  induction ws with
  | nil => simp
  | cons w ws ih =>
    rw [List.forall_mem_cons, ← ih]
    constructor
    · rintro ⟨inputs, hinputs⟩
      cases hinputs with
      | cons hw hws =>
        refine ⟨?_, _, hws⟩
        cases hw with
        | nothing optional => exact optional
        | source found =>
          have hkey := List.find?_some found
          simp only [beq_iff_eq] at hkey
          exact List.mem_map.mpr ⟨_, List.mem_of_find?_eq_some found, hkey⟩
    · rintro ⟨hw, inputs, hws⟩
      obtain ⟨port, source⟩ := w
      cases source with
      | none => exact ⟨_, .cons (.nothing hw) hws⟩
      | some id =>
        obtain ⟨entry, hentry, hid⟩ := List.mem_map.mp hw
        obtain ⟨⟨key, a⟩, hfound⟩ : ∃ found, made.find? (·.1 == id) = some found :=
          Option.isSome_iff_exists.mp
            (List.find?_isSome.mpr ⟨entry, hentry, by simpa using hid⟩)
        exact ⟨_, .cons (.source hfound) hws⟩

/-! ## Working an order off -/

/-- A list of nodes that can be evaluated from the front, each with all its wires served by the
nodes done before it. The last node, and no other, ends the graph. -/
inductive Runnable (g : Graph) : (done rest : List NodeId) → Prop where
  | last {done : List NodeId} (n : Node) (live : g.node? n.id = some n)
      (ends : n.kind.isOutput = true) (served : ∀ w ∈ g.wires n, w.Served done) :
      Runnable g done [n.id]
  | next {done rest : List NodeId} (n : Node) (live : g.node? n.id = some n)
      (inner : n.kind.isOutput = false) (served : ∀ w ∈ g.wires n, w.Served done)
      (later : Runnable g (n.id :: done) rest) : Runnable g done (n.id :: rest)

/-- There is always a last node. -/
theorem Runnable.ne_nil {done rest : List NodeId} (h : g.Runnable done rest) : rest ≠ [] := by
  cases h <;> simp

/-- The wires of a complete node are served once everything that feeds it is done. -/
theorem Complete.served (h : g.WellFormed) {n : Node} (hn : g.Complete n) {done : List NodeId}
    (hdone : ∀ a, g.Feeds a n.id → a ∈ done) : ∀ w ∈ g.wires n, w.Served done := by
  rintro ⟨port, source⟩ hw
  cases source with
  | none => exact hn _ hw rfl
  | some a => exact hdone a (h.feeds_of_wire hw)

/-- An evaluation order for the output over complete nodes can be worked off. -/
theorem EvaluationOrder.runnable (h : g.WellFormed) {root : NodeId} {order : List NodeId}
    (horder : g.EvaluationOrder root order) (hroot : g.output = some root)
    (hcomplete : ∀ n ∈ g.nodes, ReflTransGen g.Feeds n.id root → g.Complete n) :
    g.Runnable [] order := by
  obtain ⟨root', hlive', hends⟩ := h.isLive_output hroot
  -- Generalised to any point of the order: what is done are the nodes before it.
  have hsuffix : ∀ (rest before done : List NodeId), order = before ++ rest →
      (∀ a ∈ before, a ∈ done) → rest ≠ [] → g.Runnable done rest := by
    intro rest
    induction rest with
    | nil => intro _ _ _ _ hne; exact absurd rfl hne
    | cons id rest ih =>
      intro before done hsplit hdone _
      have hpath : ReflTransGen g.Feeds id root := (horder.mem_iff id).mp (by simp [hsplit])
      obtain ⟨n, hn⟩ : ∃ n, g.node? id = some n :=
        Option.isSome_iff_exists.mp
          (h.directed.isLive_of_path (h.directed.output root hroot) hpath)
      obtain ⟨hmem, rfl⟩ := h.node?_iff.mp hn
      have hserved : ∀ w ∈ g.wires n, w.Served done :=
        (hcomplete n hmem hpath).served h fun a ha =>
          hdone a (horder.supplied before n.id rest hsplit a ha)
      subst hsplit
      cases rest with
      | nil =>
        obtain rfl := horder.eq_root_of_last
        obtain rfl : root' = n := Option.some.inj (hlive'.symm.trans hn)
        exact .last root' hn hends hserved
      | cons next rest =>
        refine .next n hn ?_ hserved (ih (before ++ [n.id]) (n.id :: done) (by simp) ?_ (by simp))
        · cases ho : n.kind.isOutput with
          | false => rfl
          | true =>
            obtain rfl := h.id_eq_output hmem ho hroot
            exact absurd horder.eq_nil_of_root (by simp)
        · intro a ha
          rcases List.mem_append.mp ha with ha | ha
          · exact List.mem_cons_of_mem _ (hdone a ha)
          · rw [List.mem_singleton.mp ha]
            exact List.mem_cons_self ..
  exact hsuffix order [] [] rfl (by simp) (List.ne_nil_of_mem ((horder.mem_iff root).mpr .refl))

end FieldGraph.Graph
