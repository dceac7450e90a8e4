import FieldGraph.Proofs.Graph.Canonical
import FieldGraph.Proofs.Shader.Generate
import FieldGraph.Proofs.Shader.Parameter
import FieldGraph.Proofs.Shader.Reuse

/-!
# Where parameters are kept

In uniform mode the values of parameters are written to one array of vectors, and bodies name the
places to read. Writing pads the values of each node to whole vectors; reading counts vectors and
components from the first vector of the node. Both are followed along an order: the vectors of the
nodes share out the array, and every text names the place where its value stands.
-/

namespace FieldGraph

/-! ## Places -/

namespace Shader

/-- The letters of the components of a vector. -/
def components : List Char := ['x', 'y', 'z', 'w']

/-- A text names a place of the uniform array by a vector and a component. -/
def Names (dialect : Dialect) (text : String) (place : Nat) : Prop :=
  ∃ vector, ∃ letter ∈ components,
    read? text = some (.member (vectorTerm dialect vector) (String.ofList [letter])) ∧
      place = 4 * vector + components.idxOf letter

/-- The letter of a component stands at its number. -/
theorem idxOf_component (index : Nat) :
    component index ∈ components ∧ components.idxOf (component index) = index % 4 := by
  have hcases : index % 4 = 0 ∨ index % 4 = 1 ∨ index % 4 = 2 ∨ index % 4 = 3 := by omega
  unfold component
  rcases hcases with h | h | h | h <;> rw [h] <;> decide

/-- The text of a parameter names the place that lies so far behind the first vector. -/
theorem names_paramText (c : Compiler) (first index : Nat) (value : Float32) :
    Names c.dialect (c.paramText (some first) index value) (4 * first + index) := by
  obtain ⟨hletter, hnumber⟩ := idxOf_component index
  have hread := read_of_spells (spells_uniform c first index value)
  refine ⟨first + index / 4, component index, hletter, hread, ?_⟩
  rw [hnumber]
  omega

/-- Values are padded to as few whole vectors as hold them. -/
theorem length_padded (values : List Float32) :
    (padded values).length = 4 * ((values.length + 3) / 4) := by
  rw [padded, List.length_append, List.length_replicate]
  omega

/-- Padding keeps the values and adds zeros. -/
theorem getElem?_padded {values : List Float32} {i : Nat} {value : Float32}
    (h : (padded values)[i]? = some value) : values[i]? = some value ∨ value = 0 := by
  rw [padded] at h
  by_cases hi : i < values.length
  · rw [List.getElem?_append_left hi] at h
    exact Or.inl h
  · rw [List.getElem?_append_right (Nat.le_of_not_lt hi)] at h
    exact Or.inr (List.eq_of_mem_replicate (List.mem_of_getElem? h))

end Shader

/-- The vectors that hold the parameters of a node, counted from its first one. -/
def Graph.vectors (g : Graph) (code : NodeCode) : List Nat :=
  code.slot.elim [] fun first =>
    List.range' first (((g.node? code.node).elim 0 (·.params.length) + 3) / 4)

namespace Compiler

open Shader

/-- The texts of values that are kept from a vector on. -/
def textsAt (c : Compiler) (slot : Option Nat) (values : List Float32) : List String :=
  values.zipIdx.map fun entry => c.paramText slot entry.2 entry.1

/-- The code of a node whose parameters are written behind an array. -/
structure Keeps (c : Compiler) (n : Node) (uniforms : List Float32) (code : NodeCode) : Prop where
  node : code.node = n.id
  slot : code.slot = c.slot n uniforms
  body : ∃ inputs, code.body = n.kind.template "p" inputs (c.textsAt code.slot n.params)

/-- Codes whose parameters are written one after the other, from one array to another. -/
inductive Packed (c : Compiler) (g : Graph) : List Float32 → List NodeCode → List Float32 → Prop
    where
  | done (uniforms : List Float32) : Packed c g uniforms [] uniforms
  | node {uniforms final : List Float32} {n : Node} {code : NodeCode} {codes : List NodeCode}
      (live : g.node? n.id = some n) (keeps : c.Keeps n uniforms code)
      (later : Packed c g (c.withParams n uniforms) codes final) :
      Packed c g uniforms (code :: codes) final

variable {c : Compiler} {g : Graph} {uniforms final : List Float32} {codes : List NodeCode}
  {n : Node} {code : NodeCode}

/-- A node that contributes its code writes its parameters behind those before. -/
theorem keeps_of_contribute {length position : Nat} {consumed : List NodeId} {id : NodeId}
    {supplies : List (NodeId × Supply)} {part : Contribution}
    (h : c.contribute g length consumed position id supplies uniforms = .ok part) :
    ∃ n, g.node? n.id = some n ∧ c.Keeps n uniforms part.code ∧
      part.uniforms = c.withParams n uniforms := by
  obtain ⟨n, brought, hn, -, -, rfl⟩ := contribute_eq_ok_iff.mp h
  obtain rfl := Graph.id_of_node? hn
  exact ⟨n, hn, ⟨rfl, rfl, _, rfl⟩, rfl⟩

/-- Generation writes the parameters of nodes one after the other. -/
theorem packed_of_generateFrom {length position : Nat} {consumed rest : List NodeId}
    {before after : Progress}
    (h : c.generateFrom g length consumed position rest before = .ok after) :
    ∃ codes, after.codes = before.codes ++ codes ∧
      c.Packed g before.uniforms codes after.uniforms := by
  induction rest generalizing position before with
  | nil =>
    cases h
    exact ⟨[], by simp, .done _⟩
  | cons id rest ih =>
    obtain ⟨next, hnode, hlater⟩ := generateFrom_cons_eq_ok_iff.mp h
    obtain ⟨part, isNew, names, hpart, -, rfl⟩ := generateNode_eq_ok_iff.mp hnode
    obtain ⟨n, live, keeps, huniforms⟩ := keeps_of_contribute hpart
    obtain ⟨codes, hcodes, hpacked⟩ := ih hlater
    refine ⟨part.code :: codes, by simp [hcodes, record], .node live keeps ?_⟩
    rw [← huniforms]
    exact hpacked

/-! ## One node -/

/-- In uniform mode the padded parameters of a node are appended. -/
theorem withParams_eq (hmode : c.mode = .uniform) (n : Node) (uniforms : List Float32) :
    c.withParams n uniforms = uniforms ++ padded n.params := by
  unfold withParams
  by_cases hnone : n.params = []
  · simp [hnone, padded]
  · rw [if_pos ⟨hmode, hnone⟩]

/-- In uniform mode a node has a first vector exactly if it has parameters. -/
theorem Keeps.slot_eq_none_iff (hmode : c.mode = .uniform) (h : c.Keeps n uniforms code) :
    code.slot = none ↔ n.params = [] := by
  rw [h.slot, Compiler.slot]
  by_cases hnone : n.params = []
  · simp [hnone]
  · simp [hmode, hnone]

/-- In uniform mode the first vector of a node that has one is the next one of the array. -/
theorem Keeps.eq_of_slot (h : c.Keeps n uniforms code) {first : Nat}
    (hslot : code.slot = some first) : first = uniforms.length / 4 := by
  rw [h.slot, Compiler.slot] at hslot
  split at hslot
  · exact (Option.some.inj hslot).symm
  · cases hslot

/-- In uniform mode the vectors of a node follow those of the array. -/
theorem Keeps.vectors_eq (hmode : c.mode = .uniform) (hn : g.node? n.id = some n)
    (h : c.Keeps n uniforms code) :
    g.vectors code = List.range' (uniforms.length / 4) ((n.params.length + 3) / 4) := by
  rw [Graph.vectors, h.node, hn]
  cases hslot : code.slot with
  | none =>
    rw [(h.slot_eq_none_iff hmode).mp hslot]
    rfl
  | some first =>
    rw [h.eq_of_slot hslot]
    rfl

/-- The vectors of the array and those of a node behind it are the vectors of the longer array. -/
theorem Keeps.range_append (hmode : c.mode = .uniform) (hn : g.node? n.id = some n)
    (h : c.Keeps n uniforms code) (haligned : 4 ∣ uniforms.length) :
    List.range (uniforms.length / 4) ++ g.vectors code =
      List.range ((c.withParams n uniforms).length / 4) := by
  have hlength : (c.withParams n uniforms).length / 4 =
      uniforms.length / 4 + (n.params.length + 3) / 4 := by
    rw [withParams_eq hmode, List.length_append, length_padded]
    omega
  rw [hlength, h.vectors_eq hmode hn, List.range_eq_range', List.range_eq_range',
    ← List.range'_append_1, Nat.zero_add]

/-- In uniform mode the texts of the parameters of a node name the places of their values. -/
theorem Keeps.names (hmode : c.mode = .uniform) (h : c.Keeps n uniforms code)
    (haligned : 4 ∣ uniforms.length) (hfinal : c.withParams n uniforms <+: final) :
    List.Forall₂ (fun text value => ∃ place, Names c.dialect text place ∧
      final[place]? = some value) (c.textsAt code.slot n.params) n.params := by
  cases hslot : code.slot with
  | none =>
    rw [(h.slot_eq_none_iff hmode).mp hslot]
    exact .nil
  | some first =>
    have hfirst : 4 * first = uniforms.length := by
      have hnext := h.eq_of_slot hslot
      omega
    refine List.forall₂_iff_get.mpr ⟨by simp [textsAt], fun i hi hi' => ?_⟩
    refine ⟨4 * first + i, by simpa [textsAt] using names_paramText c first i _, ?_⟩
    obtain ⟨later, rfl⟩ := hfinal
    -- The values stand right behind the array, before the zeros and all that is written later.
    rw [withParams_eq hmode, List.append_assoc, List.getElem?_append_right (by omega), hfirst,
      Nat.add_sub_cancel_left, padded, List.append_assoc, List.getElem?_append_left hi']
    exact List.getElem?_eq_getElem hi'

/-- Behind the array a node writes its parameters, each at the place its text names, and zeros. -/
theorem Keeps.entry (hmode : c.mode = .uniform) (h : c.Keeps n uniforms code)
    (haligned : 4 ∣ uniforms.length) {place : Nat} {value : Float32}
    (hplace : uniforms.length ≤ place) (hvalue : (c.withParams n uniforms)[place]? = some value) :
    value = 0 ∨ ∃ text ∈ c.textsAt code.slot n.params, Names c.dialect text place := by
  rw [withParams_eq hmode, List.getElem?_append_right hplace] at hvalue
  rcases getElem?_padded hvalue with hparam | hzero
  · right
    cases hslot : code.slot with
    | none =>
      rw [(h.slot_eq_none_iff hmode).mp hslot] at hparam
      cases hparam
    | some first =>
      have hfirst := h.eq_of_slot hslot
      obtain ⟨i, rfl⟩ : ∃ i, place = 4 * first + i := ⟨place - 4 * first, by omega⟩
      refine ⟨_, List.mem_map.mpr ⟨(value, i), ?_, rfl⟩, names_paramText c first i value⟩
      rw [List.mem_zipIdx_iff_getElem?]
      have hindex : 4 * first + i - uniforms.length = i := by omega
      rwa [hindex] at hparam
  · exact Or.inl hzero

/-! ## All nodes -/

namespace Packed

/-- The array stays made of whole vectors. -/
theorem dvd_length (h : c.Packed g uniforms codes final) (haligned : 4 ∣ uniforms.length) :
    4 ∣ final.length := by
  induction h with
  | done uniforms => exact haligned
  | @node uniforms _ n _ _ _ _ _ ih => exact ih (c.dvd_length_withParams n haligned)

/-- The array only grows. -/
theorem isPrefix (h : c.Packed g uniforms codes final) : uniforms <+: final := by
  induction h with
  | done uniforms => exact List.prefix_refl uniforms
  | @node uniforms _ n _ _ _ _ _ ih => exact (c.prefix_withParams n uniforms).trans ih

/-- The vectors of all nodes follow those of the array, one after the other. -/
theorem range_append (hmode : c.mode = .uniform) (h : c.Packed g uniforms codes final)
    (haligned : 4 ∣ uniforms.length) :
    List.range (uniforms.length / 4) ++ codes.flatMap g.vectors =
      List.range (final.length / 4) := by
  induction h with
  | done uniforms => simp
  | @node uniforms _ n _ _ live keeps _ ih =>
    rw [List.flatMap_cons, ← List.append_assoc, keeps.range_append hmode live haligned]
    exact ih (c.dvd_length_withParams n haligned)

/-- Every code keeps its parameters in the array. -/
theorem keeps_of_mem (h : c.Packed g uniforms codes final) (haligned : 4 ∣ uniforms.length)
    (hcode : code ∈ codes) :
    ∃ n uniforms, g.node? n.id = some n ∧ c.Keeps n uniforms code ∧ 4 ∣ uniforms.length ∧
      c.withParams n uniforms <+: final := by
  induction h with
  | done uniforms => cases hcode
  | @node uniforms _ n _ _ live keeps later ih =>
    rcases List.mem_cons.mp hcode with rfl | hcode
    · exact ⟨n, uniforms, live, keeps, haligned, later.isPrefix⟩
    · exact ih (c.dvd_length_withParams n haligned) hcode

/-- Behind the array stand parameters, each at the place its text names, and zeros. -/
theorem entry (hmode : c.mode = .uniform) (h : c.Packed g uniforms codes final)
    (haligned : 4 ∣ uniforms.length) {place : Nat} {value : Float32}
    (hplace : uniforms.length ≤ place) (hvalue : final[place]? = some value) :
    value = 0 ∨ ∃ code ∈ codes, ∃ n, g.node? code.node = some n ∧
      ∃ text ∈ c.textsAt code.slot n.params, Names c.dialect text place := by
  induction h with
  | done uniforms => simp [List.getElem?_eq_none hplace] at hvalue
  | @node uniforms _ n code _ live keeps later ih =>
    -- A place behind the array is written by this node or by a later one.
    by_cases hhere : place < (c.withParams n uniforms).length
    · obtain ⟨rest, rfl⟩ := later.isPrefix
      rw [List.getElem?_append_left hhere] at hvalue
      refine (keeps.entry hmode haligned hplace hvalue).imp_right fun htext => ?_
      exact ⟨code, List.mem_cons_self, n, keeps.node ▸ live, htext⟩
    · have hlater := ih (c.dvd_length_withParams n haligned) (Nat.le_of_not_lt hhere) hvalue
      exact hlater.imp_right fun ⟨code, hcode, htext⟩ =>
        ⟨code, List.mem_cons_of_mem _ hcode, htext⟩

end Packed

/-- The uniform array of a shader holds the parameters of its nodes, and nothing else. -/
structure Packs (c : Compiler) (g : Graph) (shader : Shader) : Prop where
  /-- There are four numbers to a vector. -/
  aligned : 4 ∣ shader.uniforms.length
  /-- The vectors of the nodes share out the array in their order. -/
  vectors : shader.nodes.flatMap g.vectors = List.range shader.slots
  /-- A node has a first vector unless it has no parameters, and the texts of its parameters in its
  body name the places of their values. -/
  nodes : ∀ code ∈ shader.nodes, ∃ n inputs, g.node? code.node = some n ∧
    (code.slot = none ↔ n.params = []) ∧
    code.body = n.kind.template "p" inputs (c.textsAt code.slot n.params) ∧
    List.Forall₂ (fun text value => ∃ place, Names c.dialect text place ∧
      shader.uniforms[place]? = some value) (c.textsAt code.slot n.params) n.params
  /-- What no text of a parameter names is zero. -/
  rest : ∀ (place : Nat) (value : Float32), shader.uniforms[place]? = some value → value = 0 ∨
    ∃ code ∈ shader.nodes, ∃ n, g.node? code.node = some n ∧
      ∃ text ∈ c.textsAt code.slot n.params, Names c.dialect text place

/-- For every graph and every order from which a shader is generated in uniform mode, the uniform
array holds the parameters of the nodes. -/
theorem generate_packs {c c' : Compiler} {g : Graph} {order : List NodeId} {shader : Shader}
    (hmode : c.mode = .uniform) (hok : c.generate g order = (.ok shader, c')) :
    c.Packs g shader := by
  obtain ⟨done, hfinish, rfl, -⟩ := generate_eq_ok_iff.mp hok
  obtain ⟨-, hdone, -⟩ := finish_eq_ok_iff.mp hfinish
  obtain ⟨codes, hcodes, hpacked⟩ := packed_of_generateFrom hdone
  obtain rfl : done.codes = codes := hcodes
  have hempty : 4 ∣ ([] : List Float32).length := Nat.dvd_zero 4
  refine ⟨hpacked.dvd_length hempty, hpacked.range_append hmode hempty, ?_, ?_⟩
  · intro code hcode
    obtain ⟨n, uniforms, hn, hkeeps, haligned, hfinal⟩ := hpacked.keeps_of_mem hempty hcode
    obtain ⟨inputs, hbody⟩ := hkeeps.body
    exact ⟨n, inputs, hkeeps.node ▸ hn, hkeeps.slot_eq_none_iff hmode, hbody,
      hkeeps.names hmode haligned hfinal⟩
  · intro place value hvalue
    exact hpacked.entry hmode hempty (Nat.zero_le place) hvalue

/-- A torus that feeds nothing, a cube, a sphere and what moves it have a vector each, the union and
the output have none. -/
theorem slots_scattered :
    let c : Compiler := { dialect := .wgsl, mode := .uniform }
    let g := (Graph.empty .standard).run Graph.scattered
    (c.generate g [4, 3, 6, 5, 2, 1]).1.toOption.map (fun shader => shader.nodes.map (·.slot)) =
      some [some 0, some 1, some 2, some 3, none, none] := by
  rw [Catalog.standard_eq]
  decide +kernel

/-- The uniform array of the joined shapes holds their parameters. -/
theorem generate_packs_scattered :
    let c : Compiler := { dialect := .wgsl, mode := .uniform }
    let g := (Graph.empty .standard).run Graph.scattered
    c.mode = .uniform ∧ ∃ shader c', c.generate g [4, 3, 6, 5, 2, 1] = (.ok shader, c') ∧
      shader.nodes.map (·.slot) = [some 0, some 1, some 2, some 3, none, none] ∧
      c.Packs g shader := by
  intro c g
  obtain ⟨shader, c', hok, hslots⟩ := exists_shader slots_scattered
  exact ⟨rfl, shader, c', hok, hslots, generate_packs rfl hok⟩

end Compiler

end FieldGraph
