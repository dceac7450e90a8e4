import FieldGraph.Proofs.Field.Cache

/-!
# Shared nodes are run once

The number of ways from a node to the output can be exponential in the size of a graph. A field that
is sampled at a point runs each of its nodes at most once all the same, as long as the nodes sample
their inputs only where they are sampled themselves, and each input once. To say this a field is
watched: it is built by the same construction with every run of a node written down, and watching it
changes neither samples nor what is remembered.

The bound has two parts. A node that several inputs share is run only if its sample is not
remembered yet, and then it is. Every other node is run at most as often as the one node that it
feeds, which stands behind it in the order. What happens between two moments is described by `Pass`,
for any part of the work, and passes one after the other are a pass again.
-/

namespace FieldGraph

/-- A point whose coordinates are numbers compares equal to itself. -/
theorem Vec3.same_self {p : Vec3} (hx : p.x.isNaN = false) (hy : p.y.isNaN = false)
    (hz : p.z.isNaN = false) : p.same p = true := by
  rw [same, Single.beq_self hx, Single.beq_self hy, Single.beq_self hz]
  rfl

/-! ## Probes that stay in place -/

/-- A probe that asks at one point only, and neither twice for an input nor for one that was asked
for before. -/
inductive Probe.InPlace {α : Type} (p : Vec3) : (asked : List Nat) → Probe α → Prop where
  | done {asked : List Nat} (a : α) : InPlace p asked (.done a)
  | ask {asked : List Nat} {input : Nat} {next : Sample → Probe α} (fresh : input ∉ asked)
      (later : ∀ s, InPlace p (input :: asked) (next s)) : InPlace p asked (.ask input p next)

namespace Kind

variable {p : Vec3}

/-- Sampling one input stays in place. -/
theorem inPlace_sample (f : Sample → Sample) :
    ((Probe.sample 0 p).bind fun q => .done (f q)).InPlace p [] :=
  .ask List.not_mem_nil fun _ => .done _

/-- So does sampling an input and another that overrides a parameter. -/
theorem inPlace_override (wired : List Bool) (params : List Float32)
    (f : Sample → Float32 → Sample) :
    ((Probe.sample 0 p).bind fun q =>
      (overrideValue p wired params).bind fun v => .done (f q v)).InPlace p [] := by
  refine .ask List.not_mem_nil fun q => ?_
  unfold overrideValue
  split
  · exact .ask (by decide) fun _ => .done _
  · exact .done _

/-- Joining inputs from an index on stays in place if earlier ones only were asked for. -/
theorem inPlace_foldProbe (join : Float32 → Float32 → Float32) (f : Float32 → Sample)
    (wired : List Bool) {acc : Float32} {index : Nat} {asked : List Nat}
    (hasked : ∀ i ∈ asked, i < index) :
    ((foldProbe p join acc index wired).bind fun all => .done (f all)).InPlace p asked := by
  induction wired generalizing acc index asked with
  | nil => exact .done _
  | cons fed rest ih =>
    cases fed with
    | false => exact ih fun i hi => Nat.lt_succ_of_lt (hasked i hi)
    | true =>
      refine .ask (fun hmem => absurd (hasked index hmem) (Nat.lt_irrefl _)) fun s => ih ?_
      exact List.forall_mem_cons.mpr
        ⟨Nat.lt_succ_self _, fun i hi => Nat.lt_succ_of_lt (hasked i hi)⟩

/-- Combinators stay in place. -/
theorem inPlace_combinator {id : String} {library : List Shader.Function} {specs : List ParamSpec}
    {joinText : List String → String → String → String}
    {join : List Float32 → Float32 → Float32 → Float32} (wired : List Bool)
    (params : List Float32) :
    ((combinator id library specs joinText join).evaluate p wired params).InPlace p [] :=
  .ask List.not_mem_nil fun _ =>
    inPlace_foldProbe (join params) (fun all => { s := all }) _ (by simp)

/-- Of the standard kinds those stay in place that do not move the point. -/
theorem inPlace_standard : ∀ k ∈ standard,
    k.category ∈ [Category.primitive, .value, .combinator, .output] ∨ k.id ∈ ["round", "shell"] →
    ∀ p wired params, (k.evaluate p wired params).InPlace p [] := by
  simp only [standard, List.forall_mem_cons]
  refine ⟨fun _ _ _ _ => inPlace_sample _, fun _ _ _ _ => inPlace_sample _,
    fun _ _ _ _ => inPlace_sample _, fun _ _ _ _ => inPlace_sample _,
    fun h => absurd h (by decide), fun h => absurd h (by decide), fun h => absurd h (by decide),
    fun h => absurd h (by decide), fun h => absurd h (by decide),
    fun _ _ wired params => inPlace_override wired params _,
    fun _ _ wired params => inPlace_override wired params _,
    fun _ _ => inPlace_combinator, fun _ _ => inPlace_combinator, fun _ _ => inPlace_combinator,
    fun _ _ => inPlace_combinator, fun _ _ => inPlace_combinator, fun _ _ => inPlace_combinator,
    fun _ _ _ _ => .done _, fun _ _ _ _ => .done _, fun _ _ _ _ => .done _,
    fun _ _ _ _ => .ask List.not_mem_nil fun _ => .done _, by simp⟩

end Kind

/-! ## What nodes consume -/

namespace Graph

/-- What several nodes consume is what each of them does. -/
theorem consumed_append (g : Graph) (ids ids' : List NodeId) :
    g.consumed (ids ++ ids') = g.consumed ids ++ g.consumed ids' :=
  List.flatMap_append

/-- What is consumed is consumed by one of the nodes. -/
theorem exists_consumer {g : Graph} {ids : List NodeId} {id : NodeId} (h : id ∈ g.consumed ids) :
    ∃ consumer ∈ ids, id ∈ g.consumed [consumer] := by
  obtain ⟨consumer, hconsumer, hid⟩ := List.mem_flatMap.mp h
  exact ⟨consumer, hconsumer, List.mem_flatMap.mpr ⟨consumer, List.mem_singleton_self _, hid⟩⟩

/-- The node that feeds an input, if there is one. -/
def sourceAt (ws : List Wire) (index : Nat) : List NodeId := (ws[index]?.bind (·.2)).toList

/-- The nodes that feed the inputs not yet asked for, one for each input. -/
def unasked (ws : List Wire) (asked : List Nat) : List NodeId :=
  ((List.range ws.length).filter (· ∉ asked)).flatMap (sourceAt ws)

/-- An input that is asked for leaves the others. -/
theorem perm_unasked {ws : List Wire} {asked : List Nat} {index : Nat} (h : index ∉ asked) :
    (unasked ws asked).Perm (sourceAt ws index ++ unasked ws (index :: asked)) := by
  have hothers : (List.range ws.length).filter (· ∉ index :: asked) =
      ((List.range ws.length).filter (· ∉ asked)).filter (· != index) := by
    rw [List.filter_filter]
    refine List.filter_congr fun i _ => ?_
    by_cases hi : i = index <;> simp [hi]
  by_cases hindex : index < ws.length
  · have hmem : index ∈ (List.range ws.length).filter (· ∉ asked) := by simp [hindex, h]
    have hnodup : ((List.range ws.length).filter (· ∉ asked)).Nodup := List.nodup_range.filter _
    have hperm := List.perm_cons_erase hmem
    rw [hnodup.erase_eq_filter] at hperm
    rw [unasked, unasked, hothers, ← List.flatMap_cons]
    exact hperm.flatMap_right _
  · have hnone : sourceAt ws index = [] := by simp [sourceAt, hindex]
    have hsame : ((List.range ws.length).filter (· ∉ asked)).filter (· != index) =
        (List.range ws.length).filter (· ∉ asked) := by
      rw [List.filter_eq_self]
      intro i hi
      have hlt : i < ws.length := List.mem_range.mp (List.mem_of_mem_filter hi)
      exact bne_iff_ne.mpr fun heq => hindex (heq ▸ hlt)
    rw [hnone, List.nil_append, unasked, unasked, hothers, hsame]

/-- Every node that feeds an input still to be asked for is the source of a wire. -/
theorem exists_wire_of_mem_unasked {ws : List Wire} {asked : List Nat} {source : NodeId}
    (h : source ∈ unasked ws asked) : ∃ w ∈ ws, w.2 = some source := by
  obtain ⟨index, -, hsource⟩ := List.mem_flatMap.mp h
  rw [sourceAt, Option.mem_toList, Option.bind_eq_some_iff] at hsource
  obtain ⟨w, hw, hsource⟩ := hsource
  exact ⟨w, List.mem_of_getElem? hw, hsource⟩

/-- A node consumes what feeds its inputs. -/
theorem consumed_singleton {g : Graph} {id : NodeId} {n : Node} (h : g.node? id = some n) :
    g.consumed [id] = unasked (g.wires n) [] := by
  have hlength : (g.wires n).length = n.kind.inputs.length := by simp [wires, wiresFrom]
  have hsource : ∀ i < n.kind.inputs.length,
      ((g.incoming? (.into id i)).map (·.src.node)).toList = sourceAt (g.wires n) i := by
    intro i hi
    simp [sourceAt, wires, wiresFrom, hi, wire, id_of_node? h]
  have hall : (List.range n.kind.inputs.length).filter (· ∉ ([] : List Nat)) =
      List.range n.kind.inputs.length := by simp
  rw [consumed, List.flatMap_singleton, h, unasked, hlength, hall]
  dsimp only
  rw [List.filterMap_eq_flatMap_toList]
  exact List.flatMap_congr fun i hi => hsource i (List.mem_range.mp hi)

end Graph

namespace Field

open FieldGraph.Graph

/-! ## Watching a field -/

/-- What is seen of a field: what it remembers, and the nodes that were run so far. -/
structure Watch where
  memory : Memory
  calls : List NodeId

/-- Write a node down before it is run. -/
def logged (id : NodeId) (own : Sampler (StateM Watch)) : Sampler (StateM Watch) := fun p => do
  modify fun w => { w with calls := w.calls ++ [id] }
  own p

/-- Remember the last sample of a position, as a field does. -/
def rememberWatched (position : Nat) (s : Sampler (StateM Watch)) : Sampler (StateM Watch) :=
  fun p => do
    let w ← get
    (recalled? w.memory position p).elim
      (do
        let sample ← s p
        modify fun w => { w with memory := w.memory.setIfInBounds position (some (p, sample)) }
        return sample)
      pure

/-- A sample that is remembered is used again; else the node is sampled and the sample stored. -/
theorem run_rememberWatched (position : Nat) (s : Sampler (StateM Watch)) (p : Vec3) (w : Watch) :
    (rememberWatched position s p).run w =
      (recalled? w.memory position p).elim
        (((s p).run w).1, { ((s p).run w).2 with
          memory := ((s p).run w).2.memory.setIfInBounds position (some (p, ((s p).run w).1)) })
        fun sample => (sample, w) := by
  change ((recalled? w.memory position p).elim _ _ : StateM Watch Sample) w = _
  cases recalled? w.memory position p <;> rfl

/-- The node at a position of an order, watched: its runs are written down, and its last sample is
remembered if a field remembers it. -/
def watch (g : Graph) (order : List NodeId) (position : Nat) (own : Sampler (StateM Watch)) :
    Sampler (StateM Watch) :=
  let id := order.getD position 0
  if 1 < (g.consumed order).count id then rememberWatched position (logged id own)
  else logged id own

/-- A field that is watched. The construction looks only at nodes consumed more than once, so here
each node counts as consumed twice, and `watch` tells which of them are. -/
def watched (g : Graph) (order : List NodeId) : Except BuildError (Sampler (StateM Watch)) :=
  buildFrom (watch g order) g (order ++ order) [] 0 order

/-- A watched computation with the result of another one that remembers the same. -/
def Erases {α : Type} (x : StateM Memory α) (y : StateM Watch α) : Prop :=
  ∀ w, x.run w.memory = ((y.run w).1, (y.run w).2.memory)

namespace Erases

theorem pure {α : Type} (a : α) : Erases (pure a) (pure a) := fun _ => rfl

/-- One computation after another. -/
theorem bind {α β : Type} {x : StateM Memory α} {y : StateM Watch α} {next : α → StateM Memory β}
    {next' : α → StateM Watch β} (h : Erases x y) (hnext : ∀ a, Erases (next a) (next' a)) :
    Erases (x >>= next) (y >>= next') := by
  intro w
  have hrun : (x >>= next).run w.memory = (next (x.run w.memory).1).run (x.run w.memory).2 := rfl
  rw [hrun, h w]
  exact hnext _ _

/-- A probe whose questions are answered alike. -/
theorem probe {α : Type} {answer : Nat → Vec3 → StateM Memory Sample}
    {answer' : Nat → Vec3 → StateM Watch Sample}
    (h : ∀ index q, Erases (answer index q) (answer' index q)) (x : Probe α) :
    Erases (x.run answer) (x.run answer') := by
  induction x with
  | done result => exact .pure result
  | ask input point next ih => exact (h input point).bind ih

/-- Writing runs down changes nothing. -/
theorem logged {x : StateM Memory Sample} {own : Sampler (StateM Watch)} {p : Vec3}
    (h : Erases x (own p)) (id : NodeId) : Erases x (Field.logged id own p) := fun w =>
  h { w with calls := w.calls ++ [id] }

/-- Samples are remembered alike. -/
theorem remember {s : Sampler (StateM Memory)} {s' : Sampler (StateM Watch)} {p : Vec3}
    (h : Erases (s p) (s' p)) (position : Nat) :
    Erases (Field.remember position s p) (rememberWatched position s' p) := by
  intro w
  rw [run_remember, run_rememberWatched]
  cases recalled? w.memory position p with
  | some sample => rfl
  | none =>
    dsimp only
    rw [h w]
    rfl

end Erases

/-! ## What is run between two moments -/

/-- Whether a sample at a point is remembered for a position, as a number. -/
def held (p : Vec3) (memory : Memory) (position : Nat) : Nat :=
  (recalled? memory position p).isSome.toNat

/-- The nodes run between two moments, when no node but the allowed ones was asked for from outside,
each at most as often as it is listed. -/
structure Pass (g : Graph) (order : List NodeId) (p : Vec3) (done allowed : List NodeId)
    (before : Memory) (calls : List NodeId) (after : Memory) : Prop where
  size : after.size = before.size
  known : ∀ id ∈ calls, id ∈ done
  /-- A shared node is run only if its sample is not remembered, and then it is. -/
  shared : p.same p = true → ∀ (i : Nat) (id : NodeId), order[i]? = some id →
    1 < (g.consumed order).count id → calls.count id + held p before i ≤ held p after i
  /-- A node is run for the nodes that it feeds, unless it was asked for from outside. -/
  asked : ∀ id, calls.count id ≤ allowed.count id + (g.consumed calls).count id

variable {g : Graph} {order : List NodeId} {p : Vec3} {done allowed : List NodeId}

namespace Pass

/-- Nothing happens. -/
theorem refl (memory : Memory) : Pass g order p done [] memory [] memory where
  size := rfl
  known := by simp
  shared := by simp
  asked := by simp

/-- One pass after another. -/
theorem append {allowed' calls calls' : List NodeId} {before mid after : Memory}
    (h : Pass g order p done allowed before calls mid)
    (h' : Pass g order p done allowed' mid calls' after) :
    Pass g order p done (allowed ++ allowed') before (calls ++ calls') after where
  size := h'.size.trans h.size
  known := List.forall_mem_append.mpr ⟨h.known, h'.known⟩
  shared hp i id hi hshared := by
    have hfirst := h.shared hp i id hi hshared
    have hsecond := h'.shared hp i id hi hshared
    rw [List.count_append]
    omega
  asked id := by
    have hfirst := h.asked id
    have hsecond := h'.asked id
    simp only [consumed_append, List.count_append]
    omega

/-- More may be allowed, and more nodes known. -/
theorem mono {done' allowed' calls : List NodeId} {before after : Memory}
    (h : Pass g order p done allowed before calls after) (hdone : done ⊆ done')
    (hallowed : ∀ id, allowed.count id ≤ allowed'.count id) :
    Pass g order p done' allowed' before calls after where
  size := h.size
  known id hid := hdone (h.known id hid)
  shared := h.shared
  asked id := (h.asked id).trans (Nat.add_le_add_right (hallowed id) _)

/-- Running a node is what it asks for and one run more. If the node is shared, the run must end
with its sample remembered. -/
theorem call {id : NodeId} {calls : List NodeId} {before mid after : Memory}
    (h : Pass g order p done (g.consumed [id]) before calls mid) (hid : id ∉ done)
    (hsize : after.size = mid.size)
    (hown : p.same p = true → ∀ i : Nat, order[i]? = some id → 1 < (g.consumed order).count id →
      1 + held p before i ≤ held p after i)
    (hothers : ∀ i : Nat, order[i]? ≠ some id → held p after i = held p mid i) :
    Pass g order p (id :: done) [id] before (id :: calls) after where
  size := hsize.trans h.size
  known := List.forall_mem_cons.mpr
    ⟨List.mem_cons_self, fun other hother => List.mem_cons_of_mem id (h.known other hother)⟩
  shared hp i other hi hshared := by
    by_cases hother : id = other
    · subst hother
      have hnever : calls.count id = 0 := List.count_eq_zero.mpr fun hmem => hid (h.known id hmem)
      rw [List.count_cons_self, hnever]
      exact hown hp i hi hshared
    · rw [List.count_cons_of_ne hother, hothers i (by simpa [hi] using Ne.symm hother)]
      exact h.shared hp i other hi hshared
  asked other := by
    have hasked := h.asked other
    have hconsumed : g.consumed (id :: calls) = g.consumed [id] ++ g.consumed calls :=
      g.consumed_append [id] calls
    rw [hconsumed, List.count_append, List.count_cons, List.count_cons, List.count_nil]
    omega

end Pass

/-- A computation that is a pass, wherever it starts. -/
def Costs {α : Type} (g : Graph) (order : List NodeId) (p : Vec3) (done allowed : List NodeId)
    (y : StateM Watch α) : Prop :=
  ∀ w, w.memory.size = order.length → ∃ calls, (y.run w).2.calls = w.calls ++ calls ∧
    Pass g order p done allowed w.memory calls (y.run w).2.memory

namespace Costs

theorem pure {α : Type} (a : α) : Costs g order p done [] (pure a) := fun _ _ =>
  ⟨[], (List.append_nil _).symm, .refl _⟩

/-- One computation after another. -/
theorem bind {α β : Type} {y : StateM Watch α} {next : α → StateM Watch β} {allowed' : List NodeId}
    (h : Costs g order p done allowed y) (hnext : ∀ a, Costs g order p done allowed' (next a)) :
    Costs g order p done (allowed ++ allowed') (y >>= next) := by
  intro w hsize
  obtain ⟨calls, hcalls, hpass⟩ := h w hsize
  obtain ⟨calls', hcalls', hpass'⟩ := hnext (y.run w).1 (y.run w).2 (hpass.size.trans hsize)
  have hrun : (y >>= next).run w = (next (y.run w).1).run (y.run w).2 := rfl
  refine ⟨calls ++ calls', ?_, hrun ▸ hpass.append hpass'⟩
  rw [hrun, hcalls', hcalls, List.append_assoc]

/-- More may be allowed than is asked for. -/
theorem mono {α : Type} {y : StateM Watch α} {allowed' : List NodeId}
    (h : Costs g order p done allowed y) (hallowed : ∀ id, allowed.count id ≤ allowed'.count id) :
    Costs g order p done allowed' y := by
  intro w hsize
  obtain ⟨calls, hcalls, hpass⟩ := h w hsize
  exact ⟨calls, hcalls, hpass.mono (List.Subset.refl _) hallowed⟩

/-- A probe that stays in place costs what feeds the inputs that it may still ask for. -/
theorem probe {α : Type} {ws : List Wire} {answer : Nat → Vec3 → StateM Watch Sample}
    (hanswer : ∀ index, Costs g order p done (sourceAt ws index) (answer index p)) {x : Probe α}
    {asked : List Nat} (h : x.InPlace p asked) :
    Costs g order p done (unasked ws asked) (x.run answer) := by
  induction h with
  | done a => exact (Costs.pure a).mono (by simp)
  | ask fresh later ih =>
    refine ((hanswer _).bind ih).mono fun id => ?_
    rw [(perm_unasked fresh).count_eq]

end Costs

/-! ## Nodes -/

/-- Asking for a node costs the node itself, which is run first unless it is shared. -/
def Counts (g : Graph) (order done : List NodeId) (id : NodeId) (s : Sampler (StateM Watch)) :
    Prop :=
  ∀ p w, w.memory.size = order.length → ∃ calls, ((s p).run w).2.calls = w.calls ++ calls ∧
    Pass g order p done [id] w.memory calls ((s p).run w).2.memory ∧
    (¬ 1 < (g.consumed order).count id → calls.head? = some id)

/-- Storing a sample makes it remembered. -/
theorem held_setIfInBounds {memory : Memory} {position : Nat} (hposition : position < memory.size)
    (hp : p.same p = true) (sample : Sample) :
    held p (memory.setIfInBounds position (some (p, sample))) position = 1 := by
  simp [held, recalled?, hposition, hp]

/-- Storing a sample leaves other positions alone. -/
theorem held_setIfInBounds_of_ne {memory : Memory} {position i : Nat} (hi : i ≠ position)
    (value : Option (Vec3 × Sample)) :
    held p (memory.setIfInBounds position value) i = held p memory i := by
  simp [held, recalled?, Array.getElem?_setIfInBounds_ne hi.symm]

/-- A watched node is run once, or not at all if its sample is remembered. -/
theorem counts_watch (hnodup : order.Nodup) {position : Nat} {id : NodeId}
    (hposition : order[position]? = some id) (hid : id ∉ done) {own : Sampler (StateM Watch)}
    (hown : ∀ p, Costs g order p done (g.consumed [id]) (own p)) :
    Counts g order (id :: done) id (watch g order position own) := by
  intro p w hsize
  obtain ⟨calls, hcalls, hpass⟩ := hown p { w with calls := w.calls ++ [id] } hsize
  have hlogged : (logged id own p).run w = (own p).run { w with calls := w.calls ++ [id] } := rfl
  have hnamed : order.getD position 0 = id := by simp [List.getD, hposition]
  have hlt : position < order.length := (List.getElem?_eq_some_iff.mp hposition).1
  have hunique : ∀ i, order[i]? = some id → i = position := fun i hi =>
    (List.getElem?_inj (List.getElem?_eq_some_iff.mp hi).1 hnodup).mp (hi.trans hposition.symm)
  generalize (own p).run { w with calls := w.calls ++ [id] } = ran at hcalls hpass hlogged
  rw [List.append_assoc] at hcalls
  rw [watch, hnamed]
  split
  next hshared =>
    rw [run_rememberWatched, hlogged]
    cases hrecall : recalled? w.memory position p with
    | some sample =>
      -- Nothing is run, so that less happens than is allowed.
      exact ⟨[], (List.append_nil _).symm,
        (Pass.refl _).mono (List.Subset.refl _) (by simp), absurd hshared⟩
    | none =>
      have hnone : held p w.memory position = 0 := by simp [held, hrecall]
      have hroom : position < ran.2.memory.size := by rwa [hpass.size, hsize]
      rw [Option.elim_none]
      refine ⟨id :: calls, hcalls, hpass.call hid Array.size_setIfInBounds ?_ ?_, absurd hshared⟩
      · intro hp i hi _
        obtain rfl := hunique i hi
        rw [hnone, held_setIfInBounds hroom hp]
      · intro i hi
        exact held_setIfInBounds_of_ne (by rintro rfl; exact hi hposition) _
  next hsingle =>
    rw [hlogged]
    exact ⟨id :: calls, hcalls,
      hpass.call hid rfl (fun _ _ _ hshared => absurd hshared hsingle) fun _ _ => rfl, fun _ => rfl⟩

/-- A node as it is when watched and as a field has it. -/
structure Watched (g : Graph) (order done : List NodeId)
    (seen : NodeId × Sampler (StateM Watch)) (kept : NodeId × Sampler (StateM Memory)) : Prop where
  id : seen.1 = kept.1
  erases : ∀ p, Erases (kept.2 p) (seen.2 p)
  counts : Counts g order done seen.1 seen.2

/-- What is known of a node stays true when more nodes are done. -/
theorem Watched.mono {done' : List NodeId} {seen : NodeId × Sampler (StateM Watch)}
    {kept : NodeId × Sampler (StateM Memory)} (h : Watched g order done seen kept)
    (hdone : done ⊆ done') : Watched g order done' seen kept where
  id := h.id
  erases := h.erases
  counts p w hsize := by
    obtain ⟨calls, hcalls, hpass, hfirst⟩ := h.counts p w hsize
    exact ⟨calls, hcalls, hpass.mono hdone fun _ => le_rfl, hfirst⟩

/-- What wires bring to a node they bring to the watched node, and asking for an input costs the
node that feeds it. -/
theorem exists_brings_watched {kept : List (NodeId × Sampler (StateM Memory))}
    {seen : List (NodeId × Sampler (StateM Watch))}
    (h : List.Forall₂ (Watched g order done) seen kept) {ws : List Wire}
    {inputs : List (PortType × Option (Sampler (StateM Memory)))}
    (hkept : List.Forall₂ (Wire.Brings kept) ws inputs) :
    ∃ inputs', List.Forall₂ (Wire.Brings seen) ws inputs' ∧ ∀ index q,
      Erases (answer inputs index q) (answer inputs' index q) ∧
      Costs g order q done (sourceAt ws index) (answer inputs' index q) := by
  induction hkept with
  | nil => exact ⟨[], .nil, fun _ _ => ⟨.pure _, .pure _⟩⟩
  | @cons w input ws inputs hw _ ih =>
    obtain ⟨inputs', hbrings, hanswer⟩ := ih
    cases hw with
    | @nothing port optional =>
      refine ⟨(port.type, none) :: inputs', .cons (.nothing optional) hbrings, fun index q => ?_⟩
      cases index with
      | zero => exact ⟨.pure _, .pure _⟩
      | succ index => exact hanswer index q
    | @source port id key s found =>
      obtain ⟨⟨key', s'⟩, hfind, hwatched⟩ :=
        find?_of_forall₂ (fun _ _ hwatched => hwatched.id) h found
      obtain rfl : key' = id := by simpa using List.find?_some hfind
      refine ⟨(port.type, some s') :: inputs', .cons (.source hfind) hbrings, fun index q => ?_⟩
      cases index with
      | zero =>
        refine ⟨hwatched.erases q, fun w hsize => ?_⟩
        obtain ⟨calls, hcalls, hpass, -⟩ := hwatched.counts q w hsize
        exact ⟨calls, hcalls, hpass⟩
      | succ index => exact hanswer index q

/-- Wires say which inputs are fed. -/
theorem wired_of_brings {m : Type → Type} {built : List (NodeId × Sampler m)} {ws : List Wire}
    {inputs : List (PortType × Option (Sampler m))}
    (h : List.Forall₂ (Wire.Brings built) ws inputs) :
    inputs.map (·.2.isSome) = ws.map (·.2.isSome) := by
  induction h with
  | nil => rfl
  | cons hw _ ih =>
    rw [List.map_cons, List.map_cons, ih]
    cases hw <;> rfl

/-- A node that samples its inputs only where it is sampled, and each of them at most once. -/
def SamplesInPlace (g : Graph) (n : Node) : Prop :=
  ∀ p, (n.kind.evaluate p ((g.wires n).map (·.2.isSome)) n.params).InPlace p []

/-- One more node is watched. -/
theorem watched_node (hnodup : order.Nodup) {id : NodeId} {n : Node} (hn : g.node? id = some n)
    (hplace : SamplesInPlace g n) {position : Nat} (hposition : order[position]? = some id)
    (hid : id ∉ done) {kept : List (NodeId × Sampler (StateM Memory))}
    {seen : List (NodeId × Sampler (StateM Watch))}
    (h : List.Forall₂ (Watched g order done) seen kept)
    {inputs : List (PortType × Option (Sampler (StateM Memory)))}
    (hinputs : resolve g n kept 0 n.kind.inputs = .ok inputs) :
    ∃ inputs', resolve g n seen 0 n.kind.inputs = .ok inputs' ∧
      Watched g order (id :: done) (id, watch g order position (nodeSampler n inputs'))
        (id, if 1 < (g.consumed order).count id then remember position (nodeSampler n inputs)
          else nodeSampler n inputs) := by
  have hkept := resolve_eq_ok_iff.mp hinputs
  obtain ⟨inputs', hbrings, hanswer⟩ := exists_brings_watched h hkept
  have hwired : inputs'.map (·.2.isSome) = inputs.map (·.2.isSome) :=
    (wired_of_brings hbrings).trans (wired_of_brings hkept).symm
  have herases : ∀ p, Erases (nodeSampler n inputs p) (nodeSampler n inputs' p) := by
    intro p
    rw [nodeSampler, nodeSampler, hwired]
    exact .probe (fun index q => (hanswer index q).1) _
  have hcosts : ∀ p, Costs g order p done (g.consumed [id]) (nodeSampler n inputs' p) := by
    intro p
    rw [consumed_singleton hn, nodeSampler, wired_of_brings hbrings]
    exact .probe (fun index => (hanswer index p).2) (hplace p)
  refine ⟨inputs', resolve_eq_ok_iff.mpr hbrings, rfl, fun p => ?_,
    counts_watch hnodup hposition hid hcosts⟩
  dsimp only
  rw [watch, List.getD, hposition, Option.getD_some]
  split
  · exact .remember (.logged (herases p) id) position
  · exact .logged (herases p) id

/-- Every field can be watched. -/
theorem exists_watched (hnodup : order.Nodup)
    (hplace : ∀ id ∈ order, ∀ n, g.node? id = some n → SamplesInPlace g n) {rest : List NodeId}
    (horder : order = done.reverse ++ rest) {kept : List (NodeId × Sampler (StateM Memory))}
    {seen : List (NodeId × Sampler (StateM Watch))}
    (h : List.Forall₂ (Watched g order done) seen kept)
    {root : Sampler (StateM Memory)}
    (hroot : buildFrom remember g (g.consumed order) kept done.length rest = .ok root) :
    ∃ last root', order.getLast? = some last ∧
      buildFrom (watch g order) g (order ++ order) seen done.length rest = .ok root' ∧
      Watched g order order (last, root') (last, root) := by
  induction rest generalizing done kept seen with
  | nil => cases hroot
  | cons id rest ih =>
    have hmem : id ∈ order := by simp [horder]
    have hposition : order[done.length]? = some id := by simp [horder]
    have hid : id ∉ done := by
      rw [horder, List.nodup_append] at hnodup
      exact fun hdone => hnodup.2.2 id (List.mem_reverse.mpr hdone) id List.mem_cons_self rfl
    have htwice : 1 < (order ++ order).count id := by
      have hpos := List.count_pos_iff.mpr hmem
      rw [List.count_append]
      omega
    rw [buildFrom] at hroot ⊢
    cases hn : g.node? id with
    | none => simp [hn] at hroot
    | some n =>
      rw [hn] at hroot
      obtain ⟨inputs, hinputs, hlater⟩ := bind_eq_ok_iff.mp hroot
      obtain ⟨inputs', hinputs', hwatched⟩ :=
        watched_node hnodup hn (hplace id hmem n hn) hposition hid h hinputs
      simp only [hinputs', if_pos htwice]
      cases rest with
      | nil =>
        cases hends : n.kind.isOutput with
        | false => simp [hends] at hlater
        | true =>
          simp only [hends, if_true, Except.ok.injEq] at hlater
          subst hlater
          refine ⟨id, _, by simp [horder], rfl, hwatched.mono fun other hother => ?_⟩
          simpa [horder, or_comm] using hother
      | cons next rest =>
        have hsplit : order = (id :: done).reverse ++ next :: rest := by simp [horder]
        have hearlier := h.imp fun _ _ hnode => hnode.mono (List.subset_cons_self id done)
        have hbuilt := ih hsplit (.cons hwatched hearlier) hlater
        exact hbuilt

/-! ## Counting -/

/-- What feeds a node of an order that a field was built from stands before it. -/
theorem consumed_of_buildFrom {m : Type → Type} [Monad m] {share : Nat → Sampler m → Sampler m}
    {consumed rest : List NodeId} {built : List (NodeId × Sampler m)} {position : Nat}
    {root : Sampler m} (h : buildFrom share g consumed built position rest = .ok root)
    {before after : List NodeId} {id : NodeId} (hrest : rest = before ++ id :: after) :
    ∀ source ∈ g.consumed [id], source ∈ built.map (·.1) ∨ source ∈ before := by
  induction before generalizing built position rest with
  | nil =>
    subst hrest
    intro source hsource
    rw [List.nil_append, buildFrom] at h
    cases hn : g.node? id with
    | none => simp [hn] at h
    | some n =>
      rw [hn] at h
      obtain ⟨inputs, hinputs, -⟩ := bind_eq_ok_iff.mp h
      have hserved := exists_brings_iff.mp ⟨inputs, resolve_eq_ok_iff.mp hinputs⟩
      rw [consumed_singleton hn] at hsource
      obtain ⟨⟨port, feed⟩, hw, hfeed⟩ := exists_wire_of_mem_unasked hsource
      obtain rfl : feed = some source := hfeed
      exact .inl (hserved _ hw)
  | cons first before ih =>
    subst hrest
    intro source hsource
    obtain ⟨next, later, hlater⟩ := List.exists_cons_of_ne_nil
      (List.append_ne_nil_of_right_ne_nil before (List.cons_ne_nil id after))
    rw [List.cons_append, hlater, buildFrom] at h
    cases hn : g.node? first with
    | none => simp [hn] at h
    | some n =>
      rw [hn] at h
      obtain ⟨inputs, -, hbuild⟩ := bind_eq_ok_iff.mp h
      have hearlier := ih hbuild hlater.symm source hsource
      simp only [List.map_cons, List.mem_cons] at hearlier ⊢
      tauto

/-- Nodes that are called at most once and come from a list consume at most what the list does. -/
theorem count_consumed_le {calls later : List NodeId} {id : NodeId}
    (h : ∀ consumer ∈ calls, id ∈ g.consumed [consumer] →
      consumer ∈ later ∧ calls.count consumer ≤ 1) :
    (g.consumed calls).count id ≤ (g.consumed later).count id := by
  have hconsumers : ∀ ids : List NodeId,
      (g.consumed (ids.filter (id ∈ g.consumed [·]))).count id = (g.consumed ids).count id := by
    intro ids
    induction ids with
    | nil => rfl
    | cons first ids ih =>
      have hfirst : g.consumed (first :: ids) = g.consumed [first] ++ g.consumed ids :=
        g.consumed_append [first] ids
      rw [hfirst, List.count_append, ← ih]
      by_cases hfeeds : id ∈ g.consumed [first]
      · rw [List.filter_cons_of_pos (by simpa using hfeeds), ← List.count_append]
        exact congrArg _ (g.consumed_append [first] _)
      · rw [List.filter_cons_of_neg (by simpa using hfeeds), List.count_eq_zero.mpr hfeeds,
          zero_add]
  rw [← hconsumers calls]
  generalize hids : calls.filter (id ∈ g.consumed [·]) = ids
  have hmem : ∀ consumer ∈ ids, consumer ∈ later ∧ calls.count consumer ≤ 1 := by
    intro consumer hconsumer
    rw [← hids, List.mem_filter, decide_eq_true_iff] at hconsumer
    exact h consumer hconsumer.1 hconsumer.2
  have hnodup : ids.Nodup := by
    rw [List.nodup_iff_count_le_one]
    intro consumer
    by_cases hconsumer : consumer ∈ ids
    · exact ((hids ▸ List.filter_sublist).count_le consumer).trans (hmem consumer hconsumer).2
    · rw [List.count_eq_zero.mpr hconsumer]
      exact Nat.zero_le 1
  obtain ⟨ids', hperm, hsub⟩ := hnodup.subperm fun consumer hconsumer => (hmem consumer hconsumer).1
  have hcount : (g.consumed ids').count id = (g.consumed ids).count id :=
    (hperm.flatMap_right _).count_eq id
  rw [← hcount]
  exact (hsub.flatMap _).count_le id

/-- Where what feeds a node stands before it, what a node feeds stands behind it. -/
theorem mem_later_of_consumed (hnodup : order.Nodup)
    (hconsumed : ∀ front id back, order = front ++ id :: back →
      ∀ source ∈ g.consumed [id], source ∈ front)
    {earlier later : List NodeId} {id consumer : NodeId} (horder : order = earlier ++ id :: later)
    (hconsumer : consumer ∈ order) (hfeeds : id ∈ g.consumed [consumer]) : consumer ∈ later := by
  have hsplit : order = (earlier ++ [id]) ++ later := by simp [horder]
  rw [hsplit, List.mem_append] at hconsumer
  rcases hconsumer with hconsumer | hconsumer
  · obtain ⟨front, back, hfront⟩ := List.append_of_mem hconsumer
    have hbefore : id ∈ front :=
      hconsumed front consumer (back ++ later) (by simp [hsplit, hfront]) id hfeeds
    have hbehind : id ∈ consumer :: back := by
      have hlast := congrArg List.getLast? hfront
      rw [List.getLast?_concat, List.getLast?_append_of_ne_nil _ (List.cons_ne_nil _ _)] at hlast
      exact List.mem_of_getLast? hlast.symm
    rw [hsplit, hfront, List.append_assoc, List.nodup_append] at hnodup
    exact absurd rfl (hnodup.2.2 id hbefore id (List.mem_append_left _ hbehind))
  · exact hconsumer

/-- No node is run twice. -/
theorem Pass.nodup_calls {root : NodeId} {before after : Memory} {calls : List NodeId}
    (h : Pass g order p order [root] before calls after) (hp : p.same p = true)
    (hnodup : order.Nodup) (hroot : order.getLast? = some root)
    (hconsumed : ∀ front id back, order = front ++ id :: back →
      ∀ source ∈ g.consumed [id], source ∈ front) : calls.Nodup := by
  -- From the end of the order to its front, since what a node feeds stands behind it.
  have hlater : ∀ later earlier, order = earlier ++ later → ∀ id ∈ later, calls.count id ≤ 1 := by
    intro later
    induction later with
    | nil => simp
    | cons id later ih =>
      intro earlier horder
      have hrest := ih (earlier ++ [id]) (by simp [horder])
      refine List.forall_mem_cons.mpr ⟨?_, hrest⟩
      by_cases hshared : 1 < (g.consumed order).count id
      · have hbound := h.shared hp earlier.length id (by simp [horder]) hshared
        have hheld : held p after earlier.length ≤ 1 := Bool.toNat_le _
        omega
      · have hasked := h.asked id
        have hfeeds : (g.consumed calls).count id ≤ (g.consumed later).count id := by
          refine count_consumed_le fun consumer hconsumer hfeeds => ?_
          have hmem := mem_later_of_consumed hnodup hconsumed horder (h.known _ hconsumer) hfeeds
          exact ⟨hmem, hrest consumer hmem⟩
        cases later with
        | nil =>
          have hnone : (g.consumed []).count id = 0 := rfl
          have honce : [root].count id ≤ 1 := List.count_le_length
          omega
        | cons next later =>
          have hsplit : order = (earlier ++ [id]) ++ next :: later := by simp [horder]
          have hlast : root ∈ next :: later := by
            rw [hsplit, List.getLast?_append_of_ne_nil _ (List.cons_ne_nil _ _)] at hroot
            exact List.mem_of_getLast? hroot
          have hother : [root].count id = 0 := by
            rw [hsplit, List.nodup_append] at hnodup
            exact List.count_eq_zero.mpr fun hmem =>
              hnodup.2.2 id (by simp) root hlast (List.mem_singleton.mp hmem)
          have hall : (g.consumed (next :: later)).count id ≤ (g.consumed order).count id := by
            rw [hsplit, consumed_append, List.count_append]
            exact Nat.le_add_left _ _
          omega
  rw [List.nodup_iff_count_le_one]
  intro id
  by_cases hid : id ∈ order
  · exact hlater order [] rfl id hid
  · rw [List.count_eq_zero.mpr fun hmem => hid (h.known id hmem)]
    exact Nat.zero_le 1

/-- The memory of a field keeps its size, whatever is sampled. -/
theorem size_distances {field : Field} {n : Nat}
    (h : ∀ p memory, memory.size = n → ((field.root p).run memory).2.size = n)
    (points : List Vec3) {memory : Memory} (hmemory : memory.size = n) :
    ((field.distances points).run memory).2.size = n := by
  induction points generalizing memory with
  | nil => exact hmemory
  | cons p rest ih => exact ih (h p memory hmemory)

/-- However many ways lead from a node to the output and whatever was sampled before, sampling a
field at a point whose coordinates are numbers runs each of its nodes at most once, beginning with
the output, if the nodes sample their inputs only where they are sampled themselves and each input
at most once. All standard kinds do that except those that move the point. -/
theorem nodes_run_once (g : Graph) (order : List NodeId) (bounds : Box) (field : Field)
    (h : Field.of g order bounds = .ok field) (hnodup : order.Nodup)
    (hplace : ∀ id ∈ order, ∀ n, g.node? id = some n → SamplesInPlace g n) :
    (∀ k ∈ Kind.standard, k.category ∈ [Category.primitive, .value, .combinator, .output] ∨
        k.id ∈ ["round", "shell"] →
      ∀ p wired params, (k.evaluate p wired params).InPlace p []) ∧
    ∃ root, watched g order = .ok root ∧ ∀ (earlier : List Vec3) (p : Vec3),
      let before := ((field.distances earlier).run field.fresh).2
      let seen := (root p).run ⟨before, []⟩
      (field.root p).run before = (seen.1, seen.2.memory) ∧
      (p.x.isNaN = false → p.y.isNaN = false → p.z.isNaN = false →
        seen.2.calls.Nodup ∧ seen.2.calls.head? = order.getLast? ∧ seen.2.calls ⊆ order) := by
  obtain ⟨kept, hkept, he⟩ := bind_eq_ok_iff.mp h
  cases he
  have horder : order = ([] : List NodeId).reverse ++ order := rfl
  obtain ⟨last, root, hlast, hroot, hwatched⟩ :=
    exists_watched hnodup hplace horder .nil hkept
  have hconsumed : ∀ front id back, order = front ++ id :: back →
      ∀ source ∈ g.consumed [id], source ∈ front := by
    intro front id back hsplit source hsource
    simpa using consumed_of_buildFrom hkept hsplit source hsource
  refine ⟨Kind.inPlace_standard, root, hroot, fun earlier p => ?_⟩
  have hsize : ((Field.distances ⟨kept, bounds, order.length⟩ earlier).run
      (Field.fresh ⟨kept, bounds, order.length⟩)).2.size = order.length := by
    refine size_distances (fun q memory hmemory => ?_) earlier Array.size_replicate
    obtain ⟨_, -, hpass, -⟩ := hwatched.counts q ⟨memory, []⟩ hmemory
    rw [hwatched.erases q ⟨memory, []⟩]
    exact hpass.size.trans hmemory
  intro before seen
  refine ⟨hwatched.erases p ⟨before, []⟩, fun hx hy hz => ?_⟩
  obtain ⟨calls, hcalls, hpass, hfirst⟩ := hwatched.counts p ⟨before, []⟩ hsize
  have hunshared : ¬ 1 < (g.consumed order).count last := by
    have hnone : last ∉ g.consumed order := by
      intro hmem
      obtain ⟨consumer, hconsumer, hfeeds⟩ := exists_consumer hmem
      obtain ⟨front, hfront⟩ := List.getLast?_eq_some_iff.mp hlast
      exact absurd (mem_later_of_consumed hnodup hconsumed hfront hconsumer hfeeds)
        List.not_mem_nil
    rw [List.count_eq_zero.mpr hnone]
    decide
  have hseen : seen.2.calls = calls := hcalls
  rw [hseen]
  exact ⟨hpass.nodup_calls (Vec3.same_self hx hy hz) hnodup hlast hconsumed,
    (hfirst hunshared).trans hlast.symm, hpass.known⟩

/-- Edits that join a sphere with itself and the union with itself, so that four ways lead from the
sphere to the output. -/
def fanOut : List Edit :=
  [.addNode "sphere", .addNode "union", .addNode "union", .addNode "output",
    .connect (.outOf 1 0) (.into 2 0), .connect (.outOf 1 0) (.into 2 1),
    .connect (.outOf 2 0) (.into 3 0), .connect (.outOf 2 0) (.into 3 1),
    .connect (.outOf 3 0) (.into 4 0)]

/-- The nodes make a field. -/
theorem isOk_fanOut :
    (Field.of ((Graph.empty .standard).run fanOut) [1, 2, 3, 4] (.centred 4)).isOk = true := by
  rw [Catalog.standard_eq]
  decide +kernel

/-- The roles of the nodes. -/
theorem categories_fanOut :
    [1, 2, 3, 4].map (fun id =>
      (((Graph.empty .standard).run fanOut).node? id).map (·.kind.category)) =
        [some .primitive, some .combinator, some .combinator, some .output] := by
  rw [Catalog.standard_eq]
  decide +kernel

/-- The nodes stay in place. -/
theorem samplesInPlace_fanOut : ∀ id ∈ [1, 2, 3, 4], ∀ n,
    ((Graph.empty .standard).run fanOut).node? id = some n →
      SamplesInPlace ((Graph.empty .standard).run fanOut) n := by
  intro id hid n hn p
  obtain ⟨hwf, hcatalog⟩ := Reached.wellFormed Catalog.standard_registered ⟨fanOut, rfl⟩
  have hstandard := hwf.kinds n (hwf.node?_iff.mp hn).1
  rw [hcatalog] at hstandard
  refine Kind.inPlace_standard n.kind (Catalog.mem_standard hstandard) (.inl ?_) p _ _
  have hcategory : some n.kind.category ∈
      [some .primitive, some .combinator, some .combinator, some .output] := by
    rw [← categories_fanOut]
    exact List.mem_map.mpr ⟨id, hid, by rw [hn, Option.map_some]⟩
  simp only [List.mem_cons, Option.some.injEq, List.not_mem_nil, or_false] at hcategory
  rcases hcategory with h | h | h | h <;> rw [h] <;> decide

/-- Whatever was sampled before, the sphere is run at most once at the origin. -/
theorem nodes_run_once_fanOut :
    let g := (Graph.empty .standard).run fanOut
    ([1, 2, 3, 4] : List NodeId).Nodup ∧
    (∀ id ∈ [1, 2, 3, 4], ∀ n, g.node? id = some n → SamplesInPlace g n) ∧
    ∃ field, Field.of g [1, 2, 3, 4] (.centred 4) = .ok field ∧
    ∃ root, watched g [1, 2, 3, 4] = .ok root ∧ ∀ earlier : List Vec3,
      let seen := (root Vec3.zero).run ⟨((field.distances earlier).run field.fresh).2, []⟩
      seen.2.calls.Nodup ∧ seen.2.calls.head? = some 4 := by
  intro g
  have hok : (Field.of g [1, 2, 3, 4] (.centred 4)).isOk = true := isOk_fanOut
  have hnodup : ([1, 2, 3, 4] : List NodeId).Nodup := by decide
  cases hfield : Field.of g [1, 2, 3, 4] (.centred 4) with
  | error e =>
    rw [hfield] at hok
    cases hok
  | ok field =>
    obtain ⟨-, root, hroot, hruns⟩ :=
      nodes_run_once g [1, 2, 3, 4] (.centred 4) field hfield hnodup samplesInPlace_fanOut
    refine ⟨hnodup, samplesInPlace_fanOut, field, rfl, root, hroot, fun earlier => ?_⟩
    have honce := (hruns earlier Vec3.zero).2 (by decide) (by decide) (by decide)
    exact ⟨honce.1, honce.2.1⟩

end Field

end FieldGraph
