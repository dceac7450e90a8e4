import FieldGraph.Proofs.Field.Build
import FieldGraph.Proofs.Shader.Naming
import FieldGraph.Proofs.Shader.Parameter

/-!
# Shaders simulate fields

A shader and a field are built along the same order. At every point of it, each node done so far
has a meaning: the function declared under its name, which the expression put in its place stands
for too. Any relation between functions of the point and meanings that the nodes preserve then
holds of the whole graph. With no relation at all this says that putting nodes in place changes
nothing; with equality at single precision it says that the shader computes the field.
-/

namespace FieldGraph.Shader

open FieldGraph.Graph Compiler

universe u

variable {V : Type u} {I : Interpretation V}

/-! ## Declarations -/

/-- The names and bodies of the declared functions. -/
def declarations (codes : List NodeCode) : List (String × String) :=
  (declared codes).map fun code => (code.name, code.body)

/-- Linking declares the given names. -/
theorem map_fst_of_link {ds : List (String × String)} {F : Functions V}
    (h : link I ds = some F) : F.map (·.1) = (ds.map (·.1)).reverse := by
  induction ds using List.reverseRecOn generalizing F with
  | nil =>
    cases h
    rfl
  | append_singleton ds d ih =>
    rw [link_concat] at h
    obtain ⟨F₀, hF₀, hd⟩ := Option.bind_eq_some_iff.mp h
    obtain ⟨t, -, rfl⟩ := Option.map_eq_some_iff.mp hd
    simp [ih hF₀]

/-- A name that is not declared has no function. -/
theorem lookup_eq_none {codes : List NodeCode} {F : Functions V}
    (h : link I (declarations codes) = some F) {name : String}
    (hname : name ∉ (declared codes).map (·.name)) : F.lookup name = none := by
  have hkeys := map_fst_of_link h
  rw [List.lookup_eq_none_iff]
  intro entry hentry
  rw [bne_iff_ne]
  rintro rfl
  have hmem : entry.1 ∈ F.map (·.1) := List.mem_map_of_mem hentry
  rw [hkeys] at hmem
  exact hname (by simpa [declarations] using hmem)

/-- What comes later comes later than itself. -/
theorem Later.right {F F' : Functions V} (h : Later F F') : Later F' F' :=
  ⟨fun _ _ hf => hf, h.named⟩

/-- A text denotes one function. -/
theorem Denotes.unique {F : Functions V} (hF : Later F F) {text : String} {f h : V → V}
    (hf : Denotes I F text f) (hh : Denotes I F text h) : f = h := by
  obtain ⟨s, hs, hse⟩ := hf
  obtain ⟨t, ht, hte⟩ := hh
  obtain rfl : s = t := Option.some.inj ((read_of_spells hs).symm.trans (read_of_spells ht))
  funext v
  rw [← hse F hF v, hte F hF v]

/-- Declaring a body that denotes a function declares that function. -/
theorem declare_of_denotes {F : Functions V} (hF : Later F F) {name body : String} {f : V → V}
    (h : Denotes I F body f) : declare I F (name, body) = some ((name, f) :: F) := by
  obtain ⟨t, ht, hte⟩ := h
  have hf : (fun p => t.eval I F p) = f := funext fun v => hte F hF v
  rw [declare, read_of_spells ht, Option.map_some, hf]

/-! ## Templates -/

/-- The template of a standard kind stands for its formula, however its inputs are viewed. -/
theorem denotes_template {k : Kind} (hk : k ∈ Kind.standard)
    {brought : List (PortType × Option Supply)}
    (hserves : List.Forall₂ Kind.Serves k.inputs brought) (view : Supply → String → String)
    {F : Functions V} (hF : Later F F) {hs : List (Option (V → V))}
    (hin : List.Forall₂ (Formula.Fed I F) (brought.map fun b => ⟨b.1, b.2.map view⟩) hs)
    {params : List String} {xs : List V}
    (hpar : List.Forall₂ (Constant I) params xs) (hlength : params.length = k.params.length)
    {q : String} {f : V → V} (hq : Denotes I F q f) :
    Denotes I F (k.template q (brought.map fun b => ⟨b.1, b.2.map view⟩) params) fun v =>
      (k.formula (brought.map (·.2.isSome))).mean I (f v) hs xs := by
  -- The inputs as the formula sees them, with their texts.
  let texts := brought.map fun b => (b.1, b.2.map view)
  have hinputs : texts.map Kind.toInput = brought.map fun b => ⟨b.1, b.2.map view⟩ := by
    simp [texts, Kind.toInput]
  have hwired : texts.map (·.2.isSome) = brought.map (·.2.isSome) := by simp [texts]
  have hports : (brought.map fun b => (⟨b.1, b.2.map view⟩ : Input)).map Formula.port =
      texts.map fun i => (i.1, i.2.isSome) := by
    simp [texts, Formula.port, Input.connected]
  have htexts : List.Forall₂ Kind.Serves k.inputs texts :=
    List.forall₂_map_right_iff.mpr (hserves.imp fun spec b hb => ⟨hb.1, by simpa using hb.2⟩)
  have htemplate := Kind.template_eq_render hk htexts q params
  have hfits := Kind.fits_formula hk htexts
  rw [hinputs, hwired] at htemplate
  rw [hwired, ← hports, ← hlength] at hfits
  rw [htemplate]
  exact Formula.denotes_render hF hq hin (hpar.imp fun _ _ h => h F) _ hfits

/-! ## The simulation -/

/-- A node as its consumers use it stands for a meaning that is related to the function of the
node. -/
def Stands (g : Graph) (R : PortType → (Vec3 → Sample) → (V → V) → Prop) (I : Interpretation V)
    (F : Functions V) (made : NodeId × (Vec3 → Sample)) (entry : NodeId × Supply) : Prop :=
  made.1 = entry.1 ∧ ∃ n h, g.node? made.1 = some n ∧ R n.kind.resultType made.2 h ∧
    isName entry.2.name.toList = true ∧ F.lookup entry.2.name = some h ∧
    Means I F entry.2.inline h

/-- The nodes done so far mean the same on both sides. -/
structure Simulates (g : Graph) (R : PortType → (Vec3 → Sample) → (V → V) → Prop)
    (I : Interpretation V) (F : Functions V) (built : List (NodeId × (Vec3 → Sample)))
    (supplies : List (NodeId × Supply)) (codes : List NodeCode) : Prop where
  linked : link I (declarations codes) = some F
  later : Later F F
  supplies : List.Forall₂ (Stands g R I F) built supplies
  /-- Every body denotes the function declared under its name. -/
  bodies : ∀ code ∈ codes, ∃ h, F.lookup code.name = some h ∧ Denotes I F code.body h

section

variable {g : Graph} {R : PortType → (Vec3 → Sample) → (V → V) → Prop} {F : Functions V}
  {built : List (NodeId × (Vec3 → Sample))} {supplies : List (NodeId × Supply)}
  {codes : List NodeCode}

/-- Nothing is done at first. -/
theorem simulates_nil : Simulates g R I [] [] [] [] :=
  ⟨rfl, ⟨fun _ _ h => h, fun _ _ => rfl⟩, .nil, by simp⟩

/-- What a node stands for it stands for after later declarations. -/
theorem Stands.later {F' : Functions V} (hF : Later F F') {made : NodeId × (Vec3 → Sample)}
    {entry : NodeId × Supply} (h : Stands g R I F made entry) : Stands g R I F' made entry := by
  obtain ⟨hsame, n, meaning, hn, hR, hname, hlookup, hmeans⟩ := h
  exact ⟨hsame, n, meaning, hn, hR, hname, hF.keeps _ _ hlookup, hmeans.later hF⟩

/-- What the wires of a node bring to the shader they bring to the field, with one meaning for
both ways to write it. -/
theorem Simulates.exists_inputs (h : Simulates g R I F built supplies codes) (hwf : g.WellFormed)
    (hfault : ∀ n ∈ g.nodes, n.kind.Faultless) {n : Node} (hn : n ∈ g.nodes) {ws : List Wire}
    (hws : ∀ w ∈ ws, w ∈ g.wires n) {brought : List (PortType × Option Supply)}
    (hbrought : List.Forall₂ (Wire.Brings supplies) ws brought) :
    ∃ inputs hs, List.Forall₂ (Wire.Brings built) ws inputs ∧
      List.Forall₂ (Related R) inputs hs ∧
      List.Forall₂ (Formula.Fed I F) (brought.map asCall) hs ∧
      List.Forall₂ (Formula.Fed I F) (brought.map asInline) hs ∧
      inputs.map (·.2.isSome) = brought.map (·.2.isSome) := by
  induction hbrought with
  | nil => exact ⟨[], [], .nil, .nil, .nil, .nil, rfl⟩
  | @cons w b ws brought hw _ ih =>
    obtain ⟨inputs, hs, hinputs, hrelated, hcalls, hinlines, hwired⟩ :=
      ih fun w' hw' => hws w' (List.mem_cons_of_mem w hw')
    cases hw with
    | @nothing port optional =>
      exact ⟨(port.type, none) :: inputs, none :: hs, .cons (.nothing optional) hinputs,
        .cons trivial hrelated, .cons trivial hcalls, .cons trivial hinlines, by simp [hwired]⟩
    | @source port id key supply found =>
      obtain ⟨⟨key', f⟩, hfind, hsame, m, meaning, hm, hR, hname, hlookup, hmeans⟩ :=
        find?_of_forall₂ (fun _ _ hstands => hstands.1) h.supplies found
      have hkey : key' = id := by simpa using List.find?_some hfind
      obtain ⟨m', hm', -, htype⟩ := hwf.source_of_wire hfault hn (hws _ List.mem_cons_self)
      obtain rfl : m = m' := by
        subst hkey
        exact Option.some.inj (hm.symm.trans hm')
      rw [htype] at hR
      exact ⟨(port.type, some f) :: inputs, some meaning :: hs, .cons (.source hfind) hinputs,
        .cons hR hrelated, .cons (means_call hname hlookup) hcalls, .cons hmeans hinlines,
        by simp [hwired]⟩

/-- One more body is declared under its name, or was declared before. -/
theorem Simulates.declare (h : Simulates g R I F built supplies codes) {code : NodeCode}
    (hname : isNodeName code.name = true)
    (hsame : ∀ other ∈ codes, other.name = code.name → other.body = code.body) {f : V → V}
    (hbody : Denotes I F code.body f) :
    ∃ F', Later F F' ∧ F'.lookup code.name = some f ∧
      Simulates g R I F' built supplies (codes ++ [code]) := by
  have hbodies {F' : Functions V} (hF : Later F F') (hlookup : F'.lookup code.name = some f) :
      ∀ other ∈ codes ++ [code], ∃ f, F'.lookup other.name = some f ∧
        Denotes I F' other.body f := by
    intro other hother
    rcases List.mem_append.mp hother with hother | hother
    · obtain ⟨f', hlookup', hbody'⟩ := h.bodies other hother
      exact ⟨f', hF.keeps _ _ hlookup', hbody'.later hF⟩
    · rw [List.mem_singleton.mp hother]
      exact ⟨f, hlookup, hbody.later hF⟩
  by_cases hold : code.name ∈ (declared codes).map (·.name)
  · -- The name is taken by the same body, which denotes the same function.
    obtain ⟨other, hother, hother'⟩ := List.mem_map.mp hold
    have hmem := mem_of_mem_declared hother
    obtain ⟨f', hlookup, hbody'⟩ := h.bodies other hmem
    rw [hsame other hmem hother'] at hbody'
    obtain rfl := hbody.unique h.later hbody'
    rw [hother'] at hlookup
    refine ⟨F, h.later, hlookup, ?_, h.later, h.supplies, hbodies h.later hlookup⟩
    rw [declarations, declared_concat, if_pos hold]
    exact h.linked
  · have hlater := h.later.declare hname (lookup_eq_none h.linked hold) f
    have hlookup : ((code.name, f) :: F).lookup code.name = some f := by simp
    refine ⟨(code.name, f) :: F, hlater, hlookup, ?_, hlater.right,
      h.supplies.imp fun _ _ => Stands.later hlater, hbodies hlater hlookup⟩
    rw [declarations, declared_concat, if_neg hold, List.map_append, List.map_singleton,
      link_concat]
    change (link I (declarations codes)).bind _ = _
    rw [h.linked]
    exact declare_of_denotes h.later hbody

/-- What wires bring serves the inputs they end at. -/
theorem serves_of_brings {α : Type} {made : List (NodeId × α)} {id : NodeId} {index : Nat}
    {ports : List PortSpec} {inputs : List (PortType × Option α)}
    (h : List.Forall₂ (Wire.Brings made) (g.wiresFrom id index ports) inputs) :
    List.Forall₂ Kind.Serves ports inputs := by
  induction ports generalizing index inputs with
  | nil =>
    cases h
    exact .nil
  | cons port rest ih =>
    rw [wiresFrom_cons] at h
    obtain ⟨_, inputs, hw, hws, rfl⟩ := List.forall₂_cons_left_iff.mp h
    refine .cons ?_ (ih hws)
    unfold wire at hw
    generalize (g.incoming? (.into id index)).map (·.src.node) = source at hw
    cases hw with
    | nothing optional => exact ⟨rfl, fun _ => optional⟩
    | source found => exact ⟨rfl, nofun⟩

end

/-- A graph over the standard catalog that edits lead to. -/
structure Ground (g : Graph) : Prop where
  wellFormed : g.WellFormed
  faultless : ∀ n ∈ g.nodes, n.kind.Faultless
  standard : ∀ n ∈ g.nodes, n.kind ∈ Kind.standard

/-- A relation that the nodes of a graph preserve, if parameters are read from a final uniform
array. -/
def Preserved (c : Compiler) (g : Graph) (final : List Float32) (I : Interpretation V)
    (R : PortType → (Vec3 → Sample) → (V → V) → Prop) : Prop :=
  ∀ n ∈ g.nodes, ∀ uniforms, 4 ∣ uniforms.length → c.withParams n uniforms <+: final →
    ∃ xs, List.Forall₂ (Constant I) (c.paramTexts n uniforms) xs ∧
      ∀ inputs hs, List.Forall₂ Kind.Serves n.kind.inputs inputs →
        List.Forall₂ (Related R) inputs hs →
        R n.kind.resultType (n.kind.direct inputs n.params) fun v =>
          (n.kind.formula (inputs.map (·.2.isSome))).mean I v hs xs

section

variable {c : Compiler} {g : Graph} {final : List Float32}
  {R : PortType → (Vec3 → Sample) → (V → V) → Prop} {F : Functions V}
  {built : List (NodeId × (Vec3 → Sample))} {supplies : List (NodeId × Supply)}
  {codes : List NodeCode}

/-- The name of a node function is a name of its kind. -/
theorem isName_contribution {n : Node} (hn : n.kind ∈ Kind.standard) (shared : Bool)
    (uniforms : List Float32) (calls inlines : List Input) :
    isName (c.contribution n shared uniforms calls inlines).code.name.toList = true ∧
      isNodeName (c.contribution n shared uniforms calls inlines).code.name = true := by
  simp only [Compiler.contribution]
  split
  · exact ⟨by decide, by decide⟩
  · exact ⟨isName_functionName hn _, isNodeName_functionName _ _⟩

/-- One more node is done on both sides. -/
theorem Simulates.step (hg : Ground g) (hpres : Preserved c g final I R)
    (h : Simulates g R I F built supplies codes) {n : Node} (live : g.node? n.id = some n)
    {brought : List (PortType × Option Supply)}
    (hbrought : List.Forall₂ (Wire.Brings supplies) (g.wires n) brought)
    {uniforms : List Float32} (haligned : 4 ∣ uniforms.length)
    (hfinal : c.withParams n uniforms <+: final) {part : Contribution} {shared : Bool}
    (hpart : part = c.contribution n shared uniforms (brought.map asCall) (brought.map asInline))
    (hsame : ∀ other ∈ codes, other.name = part.code.name → other.body = part.code.body) :
    ∃ inputs F' meaning, List.Forall₂ (Wire.Brings built) (g.wires n) inputs ∧
      F'.lookup part.code.name = some meaning ∧ Means I F' part.inline meaning ∧
      R n.kind.resultType (n.kind.direct inputs n.params) meaning ∧
      Simulates g R I F' ((n.id, n.kind.direct inputs n.params) :: built)
        ((n.id, part.supply) :: supplies) (codes ++ [part.code]) := by
  have hn : n ∈ g.nodes := (hg.wellFormed.node?_iff.mp live).1
  have hk := hg.standard n hn
  obtain ⟨inputs, hs, hinputs, hrelated, hcalls, hinlines, hwired⟩ :=
    h.exists_inputs hg.wellFormed hg.faultless hn (fun _ hw => hw) hbrought
  obtain ⟨xs, hxs, hmean⟩ := hpres n hn uniforms haligned hfinal
  have hlength : (c.paramTexts n uniforms).length = n.kind.params.length := by
    simpa [Compiler.paramTexts] using (hg.wellFormed.params n hn).length_eq.symm
  have hserves := serves_of_brings hbrought
  -- Both texts of the node stand for the formula of its kind.
  have hbody : Denotes I F part.code.body fun v =>
      (n.kind.formula (brought.map (·.2.isSome))).mean I v hs xs := by
    rw [hpart]
    exact denotes_template hk hserves _ h.later hcalls hxs hlength denotes_point
  have hinline : Means I F part.inline fun v =>
      (n.kind.formula (brought.map (·.2.isSome))).mean I v hs xs := by
    rw [hpart]
    intro F' hF q f hq
    refine denotes_template hk hserves _ hF.right ?_ hxs hlength hq
    exact hinlines.imp fun _ _ => Formula.Fed.later hF
  obtain ⟨hname, hnode⟩ : isName part.code.name.toList = true ∧
      isNodeName part.code.name = true := by
    rw [hpart]
    exact isName_contribution hk shared uniforms _ _
  obtain ⟨F', hF, hlookup, hsim⟩ := h.declare hnode hsame hbody
  have hR := hmean inputs hs (serves_of_brings hinputs) hrelated
  rw [hwired] at hR
  have hsupply : Means I F' part.supply.inline fun v =>
      (n.kind.formula (brought.map (·.2.isSome))).mean I v hs xs := by
    cases shared with
    | false =>
      rw [hpart] at hinline ⊢
      exact hinline.later hF
    | true =>
      rw [hpart] at hname hlookup ⊢
      exact means_call hname hlookup
  refine ⟨inputs, F', _, hinputs, hlookup, hinline.later hF, hR, hsim.linked, hsim.later, ?_,
    hsim.bodies⟩
  refine .cons ⟨rfl, n, _, live, hR, ?_, ?_, hsupply⟩ hsim.supplies
  · rw [hpart] at hname ⊢
    exact hname
  · rw [hpart] at hlookup ⊢
    exact hlookup

/-- The codes of an order declare functions of which the entry point is what an expression denotes
and is related to a field. -/
structure Realises (R : PortType → (Vec3 → Sample) → (V → V) → Prop) (I : Interpretation V)
    (codes : List NodeCode) (expression : String) (field : Vec3 → Sample) : Prop where
  entry : ∃ F meaning, link I (declarations codes) = some F ∧ Later F F ∧
    F.lookup entryPoint = some meaning ∧ Denotes I F expression meaning ∧
    R .distance field meaning
  readable : ∀ code ∈ codes, ∃ t, read? code.body = some t

/-- A body that denotes something can be read. -/
theorem Simulates.readable (h : Simulates g R I F built supplies codes) :
    ∀ code ∈ codes, ∃ t, read? code.body = some t := by
  intro code hcode
  obtain ⟨_, -, t, ht, -⟩ := h.bodies code hcode
  exact ⟨t, read_of_spells ht⟩

/-- The next node of an order is done on both sides. -/
theorem Simulates.next (hg : Ground g) (hpres : Preserved c g final I R)
    (h : Simulates g R I F built supplies codes) {n : Node} (live : g.node? n.id = some n)
    (served : ∀ w ∈ g.wires n, w.Served (supplies.map (·.1))) {length position : Nat}
    (hplace : n.kind.isOutput = (position + 1 == length)) {consumed rest : List NodeId}
    {uniforms : List Float32} (haligned : 4 ∣ uniforms.length) {parts : List Contribution}
    (hparts : c.partsFrom g length consumed position (n.id :: rest) supplies uniforms = .ok parts)
    (hfinal : ∀ part ∈ parts, part.uniforms <+: final)
    (hsame : ∀ a ∈ codes ++ parts.map (·.code), ∀ b ∈ codes ++ parts.map (·.code),
      a.name = b.name → a.body = b.body) :
    ∃ part later inputs F' meaning, parts = part :: later ∧
      part.isOutput = n.kind.isOutput ∧ (n.kind.isOutput = true → part.code.name = entryPoint) ∧
      4 ∣ part.uniforms.length ∧
      c.partsFrom g length consumed (position + 1) rest ((n.id, part.supply) :: supplies)
        part.uniforms = .ok later ∧
      Field.resolve (m := Id) g n built 0 n.kind.inputs = .ok inputs ∧
      F'.lookup part.code.name = some meaning ∧ Means I F' part.inline meaning ∧
      R n.kind.resultType (n.kind.direct inputs n.params) meaning ∧
      Simulates g R I F' ((n.id, n.kind.direct inputs n.params) :: built)
        ((n.id, part.supply) :: supplies) (codes ++ [part.code]) := by
  obtain ⟨brought, hbrought⟩ := exists_brings_iff.mpr served
  have hpart := c.contribute_eq_ok live hplace consumed hbrought uniforms
  obtain ⟨part, hpart', hbind⟩ := bind_eq_ok_iff.mp hparts
  obtain ⟨later, hlater, he⟩ := bind_eq_ok_iff.mp hbind
  cases he
  have hpart := Except.ok.inj (hpart'.symm.trans hpart)
  have hlast : part.code ∈ codes ++ (part :: later).map (·.code) := by simp
  have huniforms : part.uniforms = c.withParams n uniforms := by rw [hpart]; rfl
  obtain ⟨inputs, F', meaning, hinputs, hlookup, hmeans, hR, hsim⟩ :=
    h.step hg hpres live hbrought haligned (huniforms ▸ hfinal part List.mem_cons_self) hpart
      fun other hother => hsame other (List.mem_append_left _ hother) _ hlast
  have hnode : part.code.node = n.id := by rw [hpart]; rfl
  rw [hnode] at hlater
  refine ⟨part, later, inputs, F', meaning, rfl, ?_, ?_, ?_, hlater,
    Field.resolve_eq_ok_iff.mpr hinputs, hlookup, hmeans, hR, hsim⟩
  · rw [hpart]
    rfl
  · intro ends
    rw [hpart]
    exact if_pos ends
  · rw [huniforms]
    exact c.dvd_length_withParams n haligned

/-- An order that can be worked off is realised by what its nodes contribute. -/
theorem Simulates.run (hg : Ground g) (hpres : Preserved c g final I R)
    {done rest : List NodeId} (hrun : g.Runnable done rest)
    (h : Simulates g R I F built supplies codes) (hdone : supplies.map (·.1) = done)
    {length position : Nat} (hlength : position + rest.length = length) {consumed : List NodeId}
    {uniforms : List Float32} (haligned : 4 ∣ uniforms.length) {parts : List Contribution}
    (hparts : c.partsFrom g length consumed position rest supplies uniforms = .ok parts)
    (hfinal : ∀ part ∈ parts, part.uniforms <+: final)
    (hsame : ∀ a ∈ codes ++ parts.map (·.code), ∀ b ∈ codes ++ parts.map (·.code),
      a.name = b.name → a.body = b.body) :
    ∃ init last field, parts = init ++ [last] ∧ last.isOutput = true ∧
      Field.buildFrom (m := Id) (fun _ sampler => sampler) g consumed built position rest =
        .ok field ∧
      Realises R I (codes ++ parts.map (·.code)) (last.inline "p") field := by
  induction hrun generalizing F built supplies codes position uniforms parts with
  | last n live ends served =>
    subst hdone
    have hplace : n.kind.isOutput = (position + 1 == length) := by simpa [ends] using hlength
    obtain ⟨part, later, inputs, F', meaning, rfl, houtput, hname, -, hlater, hinputs, hlookup,
      hmeans, hR, hsim⟩ := h.next hg hpres live served hplace haligned hparts hfinal hsame
    cases hlater
    have htype : n.kind.resultType = .distance := by
      have hn := (hg.wellFormed.node?_iff.mp live).1
      simp [Signature.resultType, (hg.faultless n hn).outputs_of_isOutput ends]
    rw [htype] at hR
    rw [hname ends] at hlookup
    refine ⟨[], part, n.kind.direct inputs n.params, rfl, houtput.trans ends, ?_,
      ⟨F', meaning, hsim.linked, hsim.later, hlookup, ?_, hR⟩, hsim.readable⟩
    · rw [Field.buildFrom, live]
      simp only [hinputs, ends, if_true, ite_self]
      rfl
    · exact hmeans F' hsim.later "p" id denotes_point
  | @next done rest n live inner served later ih =>
    subst hdone
    rw [List.length_cons] at hlength
    have hplace : n.kind.isOutput = (position + 1 == length) := by
      have hrest := List.length_pos_iff.mpr later.ne_nil
      rw [inner, eq_comm, beq_eq_false_iff_ne]
      omega
    obtain ⟨part, parts, inputs, F', meaning, rfl, -, -, haligned', hparts', hinputs, -, -, -,
      hsim⟩ := h.next hg hpres live served hplace haligned hparts hfinal hsame
    have hcodes : codes ++ (part :: parts).map (·.code) =
        codes ++ [part.code] ++ parts.map (·.code) := by simp
    rw [hcodes] at hsame ⊢
    obtain ⟨init, last, field, rfl, houtput, hbuild, hreal⟩ := ih hsim rfl (by omega) haligned'
      hparts' (fun p hp => hfinal p (List.mem_cons_of_mem part hp)) hsame
    refine ⟨part :: init, last, field, rfl, houtput, ?_, hreal⟩
    obtain ⟨next, rest, rfl⟩ := List.exists_cons_of_ne_nil later.ne_nil
    rw [Field.buildFrom, live]
    simp only [hinputs, ite_self]
    exact hbuild

end

end FieldGraph.Shader
