import FieldGraph.Proofs.Field.Reorder
import FieldGraph.Proofs.Graph.Canonical
import FieldGraph.Proofs.Shader.Source

/-!
# Shaders do not depend on the order

An order from which a shader is generated can be worked off, so a field is built from it too. With
parameters written as literals, what a node contributes is determined by what the nodes that feed it
contribute and by which nodes are shared. Two orders of the same nodes share the same ones, so they
have the same contributions: the same expression for the output and, as long as hashes tell names
and bodies apart, sources that declare the same functions.
-/

namespace FieldGraph

open FieldGraph.Graph Shader

/-! ## Names that were accepted -/

namespace Shader

/-- Hashes tell the names of codes apart, and the bodies of codes of one name. -/
def HashesApart (codes : List NodeCode) : Prop :=
  ∀ a ∈ codes, ∀ b ∈ codes, (hashText a.name 0 = hashText b.name 0 → a.name = b.name) ∧
    (fingerprint a = fingerprint b → a.body = b.body)

instance (codes : List NodeCode) : Decidable (HashesApart codes) :=
  inferInstanceAs (Decidable (∀ a ∈ codes, ∀ b ∈ codes, _ ∧ _))

/-- Codes of one name that are told apart have one body. -/
theorem Distinguished.pair_eq {codes : List NodeCode} (h : Distinguished codes) :
    ∀ a ∈ codes, ∀ b ∈ codes, a.name = b.name → (a.name, a.body) = (b.name, b.body) := by
  intro a ha b hb hname
  rw [hname, (h a ha b hb (by rw [hname])).2]

/-- One more code is told apart if it is told apart from each code before. -/
theorem Distinguished.concat {codes : List NodeCode} {code : NodeCode} (h : Distinguished codes)
    (hlast : ∀ a ∈ codes, hashText a.name 0 = hashText code.name 0 →
      a.name = code.name ∧ a.body = code.body) : Distinguished (codes ++ [code]) := by
  intro a ha b hb hhash
  rcases List.mem_append.mp ha with ha | ha <;> rcases List.mem_append.mp hb with hb | hb
  · exact h a ha b hb hhash
  · rw [List.mem_singleton.mp hb] at hhash ⊢
    exact hlast a ha hhash
  · rw [List.mem_singleton.mp ha] at hhash ⊢
    obtain ⟨hname, hbody⟩ := hlast b hb hhash.symm
    exact ⟨hname.symm, hbody.symm⟩
  · rw [List.mem_singleton.mp ha, List.mem_singleton.mp hb]
    exact ⟨rfl, rfl⟩

/-- What codes of one name agree in is declared exactly if some code has it. -/
theorem mem_map_declared {β : Type} {f : NodeCode → β} {codes : List NodeCode}
    (hsame : ∀ a ∈ codes, ∀ b ∈ codes, a.name = b.name → f a = f b) (x : β) :
    x ∈ (declared codes).map f ↔ x ∈ codes.map f := by
  constructor
  · intro hx
    obtain ⟨code, hcode, rfl⟩ := List.mem_map.mp hx
    exact List.mem_map_of_mem (mem_of_mem_declared hcode)
  · intro hx
    obtain ⟨code, hcode, rfl⟩ := List.mem_map.mp hx
    have hname : code.name ∈ (declared codes).map (·.name) :=
      mem_names_declared.mpr (List.mem_map_of_mem hcode)
    obtain ⟨first, hfirst, hname⟩ := List.mem_map.mp hname
    rw [← hsame first (mem_of_mem_declared hfirst) code hcode hname]
    exact List.mem_map_of_mem hfirst

end Shader

namespace Compiler

variable {c : Compiler} {g : Graph} {order : List NodeId}

/-- A name that is accepted for a body was given to no other body before. -/
theorem eq_of_claim {done : Progress} (hnamed : c.Named done) (hdist : Distinguished done.codes)
    {code : NodeCode} (hapart : HashesApart (done.codes ++ [code]))
    {claimed : Bool × List (UInt64 × UInt64)}
    (hclaim : claim done.names code.name code.body = some claimed) {a : NodeCode}
    (ha : a ∈ done.codes) (hhash : hashText a.name 0 = hashText code.name 0) :
    a.name = code.name ∧ a.body = code.body := by
  have hlast : code ∈ done.codes ++ [code] := by simp
  have hname := (hapart a (List.mem_append_left _ ha) code hlast).1 hhash
  refine ⟨hname, ?_⟩
  cases hfind : done.names.find? (·.1 == hashText code.name 0) with
  | none =>
    -- The name of an earlier code is declared, so it was hashed.
    have hdeclared : a.name ∈ (declared done.codes).map (·.name) :=
      mem_names_declared.mpr (List.mem_map_of_mem ha)
    obtain ⟨first, hfirst, hfirstName⟩ := List.mem_map.mp hdeclared
    rw [hnamed.names, List.find?_eq_none] at hfind
    refine absurd ?_ (hfind (fingerprint first) ?_)
    · simp [fingerprint, hfirstName, hname]
    · exact List.mem_reverse.mpr (List.mem_map_of_mem hfirst)
  | some entry =>
    obtain ⟨b, hb, hbhash, rfl⟩ := find?_fingerprint (hnamed.names ▸ hfind)
    have hb' := mem_of_mem_declared hb
    have hbodies : (fingerprint b).2 = hashText code.body (hashText code.name 0) := by
      by_contra hne
      simp [claim, hfind, hne] at hclaim
    have hprint : fingerprint b = fingerprint code := Prod.ext hbhash hbodies
    calc a.body = b.body := (hdist a ha b hb' (hhash.trans hbhash.symm)).2
      _ = code.body := (hapart b (List.mem_append_left _ hb') code hlast).2 hprint

/-- If generation accepts all names and hashes tell them apart, names and bodies are told apart, and
the bookkeeping says what is defined. -/
theorem named_of_generateFrom {length position : Nat} {consumed rest : List NodeId}
    {before after : Progress}
    (h : c.generateFrom g length consumed position rest before = .ok after)
    (hnamed : c.Named before) (hdist : Distinguished before.codes)
    (hapart : HashesApart after.codes) : c.Named after ∧ Distinguished after.codes := by
  induction rest generalizing position before with
  | nil =>
    cases h
    exact ⟨hnamed, hdist⟩
  | cons id rest ih =>
    obtain ⟨next, hnode, hlater⟩ := generateFrom_cons_eq_ok_iff.mp h
    obtain ⟨part, isNew, names, -, hclaim, rfl⟩ := generateNode_eq_ok_iff.mp hnode
    obtain ⟨later, -, hcollects⟩ := partsFrom_of_generateFrom hlater
    have hfirst : HashesApart (before.codes ++ [part.code]) := fun a ha b hb =>
      hapart a (hcollects.codes ▸ List.mem_append_left _ ha) b
        (hcollects.codes ▸ List.mem_append_left _ hb)
    have hdist' : Distinguished (before.codes ++ [part.code]) :=
      hdist.concat fun a ha hhash => eq_of_claim hnamed hdist hfirst hclaim ha hhash
    obtain ⟨isNew', names', hclaim', hnamed'⟩ := hnamed.record hdist'
    cases hclaim.symm.trans hclaim'
    exact ih hlater hnamed' hdist'

/-! ## Orders that are accepted -/

/-- Nodes that all contribute can be worked off. -/
theorem runnable_of_partsFrom {length position : Nat} {consumed rest : List NodeId}
    {supplies : List (NodeId × Supply)} {uniforms : List Float32} {parts : List Contribution}
    (hlength : position + rest.length = length) (hne : rest ≠ [])
    (h : c.partsFrom g length consumed position rest supplies uniforms = .ok parts) :
    g.Runnable (supplies.map (·.1)) rest := by
  induction rest generalizing position supplies uniforms parts with
  | nil => exact absurd rfl hne
  | cons id rest ih =>
    obtain ⟨part, hpart, hbind⟩ := bind_eq_ok_iff.mp h
    obtain ⟨later, hlater, -⟩ := bind_eq_ok_iff.mp hbind
    obtain ⟨n, brought, hn, hplace, hbrought, rfl⟩ := contribute_eq_ok_iff.mp hpart
    obtain rfl := id_of_node? hn
    have hserved := exists_brings_iff.mp ⟨brought, hbrought⟩
    rw [List.length_cons] at hlength
    cases rest with
    | nil =>
      rw [List.length_nil] at hlength
      have hends : n.kind.isOutput = true := by rw [hplace, beq_iff_eq]; omega
      exact .last n hn hends hserved
    | cons next rest =>
      rw [List.length_cons] at hlength
      have hinner : n.kind.isOutput = false := by rw [hplace, beq_eq_false_iff_ne]; omega
      exact .next n hn hinner hserved (ih (by rw [List.length_cons]; omega) (by simp) hlater)

/-- The last of the nodes that contribute is an output node, and no other one is. -/
theorem exists_last_of_runnable {done rest : List NodeId} (h : g.Runnable done rest)
    {parts : List Contribution} (hparts : List.Forall₂ (c.Contributes g) rest parts) :
    ∃ inner last, parts = inner ++ [last] ∧ last.isOutput = true ∧
      ∀ part ∈ inner, part.isOutput = false := by
  induction h generalizing parts with
  | last n live ends served =>
    cases hparts with
    | cons hpart hnil =>
      cases hnil
      obtain ⟨n', shared, uniforms, calls, inlines, live', rfl⟩ := hpart
      obtain rfl : n = n' := Option.some.inj (live.symm.trans live')
      exact ⟨[], _, rfl, ends, by simp⟩
  | next n live inner served later ih =>
    cases hparts with
    | cons hpart hlater =>
      obtain ⟨n', shared, uniforms, calls, inlines, live', rfl⟩ := hpart
      obtain rfl : n = n' := Option.some.inj (live.symm.trans live')
      obtain ⟨others, last, rfl, hends, hothers⟩ := ih hlater
      refine ⟨c.contribution n shared uniforms calls inlines :: others, last, rfl, hends, ?_⟩
      rw [List.forall_mem_cons]
      exact ⟨inner, hothers⟩

/-! ## Contributions with literal parameters -/

/-- The contribution of a node with literal parameters, from those of the nodes that feed it. -/
def literally (c : Compiler) (shared : NodeId → Bool) (n : Node)
    (taken : List (PortType × Option Contribution)) : Contribution :=
  let brought := taken.map fun input => (input.1, input.2.map (·.supply))
  c.contribution n (shared n.id) [] (brought.map asCall) (brought.map asInline)

/-- What a wire brings of supplies is the supply of a contribution it takes. -/
theorem exists_takes {made : List (NodeId × Contribution)} {ws : List Wire}
    {brought : List (PortType × Option Supply)}
    (h : List.Forall₂ (Wire.Brings (made.map fun entry => (entry.1, entry.2.supply))) ws brought) :
    ∃ taken, List.Forall₂ (Wire.Takes made) ws taken ∧
      brought = taken.map fun input => (input.1, input.2.map (·.supply)) := by
  induction h with
  | nil => exact ⟨[], .nil, rfl⟩
  | cons hw _ ih =>
    obtain ⟨taken, htaken, rfl⟩ := ih
    cases hw.takes with
    | nothing port => exact ⟨(port.type, none) :: taken, .cons (.nothing port) htaken, rfl⟩
    | source port found =>
      obtain ⟨⟨id, part⟩, hmem, he⟩ := List.mem_map.mp found
      cases he
      exact ⟨(port.type, some part) :: taken, .cons (.source port hmem) htaken, rfl⟩

/-- Contributions with literal parameters are made node by node. -/
theorem made_of_partsFrom (hmode : c.mode = .inline) {length position : Nat}
    {consumed rest : List NodeId} {made : List (NodeId × Contribution)} {parts : List Contribution}
    (hmade : g.Made (c.literally fun id => 1 < consumed.count id) made)
    (h : c.partsFrom g length consumed position rest
      (made.map fun entry => (entry.1, entry.2.supply)) [] = .ok parts) :
    g.Made (c.literally fun id => 1 < consumed.count id)
      ((parts.map fun part => (part.code.node, part)).reverse ++ made) := by
  induction rest generalizing position made parts with
  | nil =>
    cases h
    exact hmade
  | cons id rest ih =>
    obtain ⟨part, hpart, hbind⟩ := bind_eq_ok_iff.mp h
    obtain ⟨later, hlater, he⟩ := bind_eq_ok_iff.mp hbind
    cases he
    obtain ⟨n, brought, hn, -, hbrought, rfl⟩ := contribute_eq_ok_iff.mp hpart
    obtain rfl := id_of_node? hn
    obtain ⟨taken, htaken, rfl⟩ := exists_takes hbrought
    -- Nothing is written to the uniform array, so that the next node finds it empty as well.
    have hnone : (c.literally (fun id => 1 < consumed.count id) n taken).uniforms = [] := by
      simp [literally, contribution, hmode]
    rw [List.map_cons, List.reverse_cons, List.append_assoc]
    exact ih (.cons hn htaken hmade) (hnone ▸ hlater)

/-- Nodes consume the same in every order. -/
theorem count_consumed {order order' : List NodeId} (h : order.Perm order') (id : NodeId) :
    (g.consumed order).count id = (g.consumed order').count id :=
  (h.flatMap_right _).count_eq id

section

variable {order order' : List NodeId} {parts parts' : List Contribution} {part part' : Contribution}

/-- Two orders of the same nodes have the same contributions with literal parameters. -/
theorem eq_of_node_eq (hmode : c.mode = .inline) (hperm : order.Perm order')
    (h : c.parts g order = .ok parts) (h' : c.parts g order' = .ok parts') (hpart : part ∈ parts)
    (hpart' : part' ∈ parts') (hnode : part.code.node = part'.code.node) : part = part' := by
  have hmade := made_of_partsFrom hmode .nil h
  have hmade' := made_of_partsFrom hmode .nil h'
  simp only [← count_consumed hperm, List.append_nil] at hmade hmade'
  have hentry : (part.code.node, part) ∈ (parts.map fun part => (part.code.node, part)).reverse :=
    List.mem_reverse.mpr (List.mem_map.mpr ⟨part, hpart, rfl⟩)
  have hentry' : (part.code.node, part') ∈
      (parts'.map fun part => (part.code.node, part)).reverse :=
    List.mem_reverse.mpr (List.mem_map.mpr ⟨part', hpart', Prod.ext hnode.symm rfl⟩)
  exact hmade.eq_of_mem hmade' hentry hentry'

/-- What is contributed in one order of the same nodes is contributed in the other. -/
theorem mem_parts_of_perm (hmode : c.mode = .inline) (hperm : order.Perm order')
    (h : c.parts g order = .ok parts) (h' : c.parts g order' = .ok parts') (hpart : part ∈ parts) :
    part ∈ parts' := by
  have hnode : part.code.node ∈ order' := by
    rw [← hperm.mem_iff, ← nodes_of_contributes (contributes_of_partsFrom h)]
    exact List.mem_map_of_mem (List.mem_map_of_mem hpart)
  rw [← nodes_of_contributes (contributes_of_partsFrom h'), List.map_map] at hnode
  obtain ⟨part', hpart', hsame⟩ := List.mem_map.mp hnode
  rw [eq_of_node_eq hmode hperm h h' hpart hpart' hsame.symm]
  exact hpart'

/-- The output node is put in place alike in two orders of the same nodes. -/
theorem inline_eq_of_isOutput (hwf : g.WellFormed) (hmode : c.mode = .inline)
    (hperm : order.Perm order') (h : c.parts g order = .ok parts)
    (h' : c.parts g order' = .ok parts') (hpart : part ∈ parts) (hpart' : part' ∈ parts')
    (hends : part.isOutput = true) (hends' : part'.isOutput = true) : part.inline = part'.inline := by
  obtain ⟨n, _, _, _, _, hn, rfl⟩ :=
    exists_node_of_contributes (contributes_of_partsFrom h) hpart
  obtain ⟨n', _, _, _, _, hn', rfl⟩ :=
    exists_node_of_contributes (contributes_of_partsFrom h') hpart'
  have hid : n.id = n'.id := hwf.id_eq_of_isOutput hn hn' hends hends'
  rw [eq_of_node_eq hmode hperm h h' hpart hpart' hid]

end

/-! ## Shaders -/

/-- Two shaders say the same, in one expression and in the functions that their sources declare. -/
structure SameCode (c : Compiler) (shader shader' : Shader) : Prop where
  expression : shader.expression = shader'.expression
  /-- As long as hashes tell names and bodies apart, each source holds what its codes declare, and
  these are functions of the same names with the same bodies. -/
  functions : HashesApart shader.nodes →
    c.Declares shader shader.nodes ∧ c.Declares shader' shader'.nodes ∧
    ∀ function, function ∈ (declared shader.nodes).map (fun code => (code.name, code.body)) ↔
      function ∈ (declared shader'.nodes).map (fun code => (code.name, code.body))
  /-- As long as they tell kinds apart too, the definitions are the same. -/
  definitions : CollisionFree shader.nodes → ∀ text,
    text ∈ (declared shader.nodes).map c.definition ↔
      text ∈ (declared shader'.nodes).map c.definition

/-- Finished code is that of nodes that can be worked off. -/
theorem runnable_of_finish {done : Progress} (h : c.finish g order = .ok done) :
    g.Runnable [] order := by
  obtain ⟨hne, hdone, -⟩ := finish_eq_ok_iff.mp h
  obtain ⟨parts, hparts, -⟩ := partsFrom_of_generateFrom hdone
  exact runnable_of_partsFrom (Nat.zero_add order.length) hne hparts

/-- Finished code whose names hashes tell apart is declared in the source. -/
theorem declares_of_finish {done : Progress} (h : c.finish g order = .ok done)
    (hapart : HashesApart done.codes) (generation : Nat) :
    c.Declares (c.shaderOf done generation) done.codes ∧ Distinguished done.codes := by
  obtain ⟨-, hdone, -⟩ := finish_eq_ok_iff.mp h
  have hempty : Distinguished ({} : Progress).codes := fun _ ha => nomatch ha
  obtain ⟨hnamed, hdist⟩ := named_of_generateFrom hdone (named_empty c) hempty hapart
  refine ⟨⟨rfl, done.library, ?_⟩, hdist⟩
  rw [← hnamed.definitions]
  exact c.text_write done

/-- Finished code ends with the one output node, whose expression it has. -/
theorem exists_last_of_finish {done : Progress} (h : c.finish g order = .ok done) :
    ∃ inner last, c.parts g order = .ok (inner ++ [last]) ∧
      done.codes = (inner ++ [last]).map (·.code) ∧ last.isOutput = true ∧
      (∀ part ∈ inner, part.isOutput = false) ∧ done.expression = last.inline "p" := by
  obtain ⟨-, hdone, -⟩ := finish_eq_ok_iff.mp h
  obtain ⟨parts, hparts, hcollects⟩ := partsFrom_of_generateFrom hdone
  obtain ⟨inner, last, rfl, hends, hinner⟩ :=
    exists_last_of_runnable (runnable_of_finish h) (contributes_of_partsFrom hparts)
  refine ⟨inner, last, hparts, hcollects.codes, hends, hinner, ?_⟩
  rw [hcollects.expression, List.foldl_append]
  exact if_pos hends

/-- If hashes tell kinds and bodies apart, codes of one name have one definition. -/
theorem definition_eq_of_name_eq (hkinds : KindsApart g) {parts : List Contribution}
    (h : c.parts g order = .ok parts) (hfree : CollisionFree (parts.map (·.code))) :
    ∀ a ∈ parts.map (·.code), ∀ b ∈ parts.map (·.code), a.name = b.name →
      c.definition a = c.definition b := by
  intro a ha b hb hname
  obtain ⟨hkind, hbody⟩ := hfree a ha b hb (by rw [hname])
  have htype := (code_eq_of_kind_eq hkinds (contributes_of_partsFrom h) ha hb hkind).1
  rw [definition, definition, hname, htype, hbody]

/-- Two orders of the same nodes give the same code. -/
theorem sameCode_of_finish (hwf : g.WellFormed) (hkinds : KindsApart g) (hmode : c.mode = .inline)
    {order order' : List NodeId} (hperm : order.Perm order') {done done' : Progress}
    (h : c.finish g order = .ok done) (h' : c.finish g order' = .ok done')
    (generation generation' : Nat) :
    c.SameCode (c.shaderOf done generation) (c.shaderOf done' generation') := by
  obtain ⟨inner, last, hparts, hcodes, hends, -, hexpression⟩ := exists_last_of_finish h
  obtain ⟨inner', last', hparts', hcodes', hends', -, hexpression'⟩ := exists_last_of_finish h'
  have hsame : ∀ p, p ∈ inner ++ [last] ↔ p ∈ inner' ++ [last'] := fun p =>
    ⟨mem_parts_of_perm hmode hperm hparts hparts',
      mem_parts_of_perm hmode hperm.symm hparts' hparts⟩
  have hsameCodes : ∀ code, code ∈ done.codes ↔ code ∈ done'.codes := by
    intro code
    simp only [hcodes, hcodes', List.mem_map, hsame]
  have hmap : ∀ {β : Type} (f : NodeCode → β) (x : β),
      x ∈ done.codes.map f ↔ x ∈ done'.codes.map f := by
    intro β f x
    simp only [List.mem_map, hsameCodes]
  refine ⟨?_, fun hapart => ?_, fun hfree text => ?_⟩
  · change done.expression = done'.expression
    rw [hexpression, hexpression',
      inline_eq_of_isOutput hwf hmode hperm hparts hparts' (by simp) (by simp) hends hends']
  · have hapart' : HashesApart done'.codes := fun a ha b hb =>
      hapart a ((hsameCodes a).mpr ha) b ((hsameCodes b).mpr hb)
    obtain ⟨hdeclares, hdist⟩ := declares_of_finish h hapart generation
    obtain ⟨hdeclares', hdist'⟩ := declares_of_finish h' hapart' generation'
    refine ⟨hdeclares, hdeclares', fun function => ?_⟩
    change function ∈ (declared done.codes).map _ ↔ function ∈ (declared done'.codes).map _
    rw [mem_map_declared hdist.pair_eq, mem_map_declared hdist'.pair_eq, hmap]
  · have hfree' : CollisionFree done'.codes := fun a ha b hb =>
      hfree a ((hsameCodes a).mpr ha) b ((hsameCodes b).mpr hb)
    change text ∈ (declared done.codes).map _ ↔ text ∈ (declared done'.codes).map _
    rw [mem_map_declared (hcodes ▸ definition_eq_of_name_eq hkinds hparts (hcodes ▸ hfree)),
      mem_map_declared (hcodes' ▸ definition_eq_of_name_eq hkinds hparts' (hcodes' ▸ hfree')), hmap]

end Compiler

/-! ## Graphs that validation accepts -/

/-- Over every registered catalog and for every graph that edits lead to and validation accepts: the
nodes have an order with a plain meaning, and that is the plain meaning of every list of nodes from
which a field is built. A field is built from every list of nodes from which a shader is generated.
With literal parameters, shaders generated from two orders of the same nodes have the same code. -/
theorem order_does_not_matter (drafts : List Draft) (edits : List Edit) :
    let g := (Graph.empty (drafts.foldl Catalog.extend .empty)).run edits
    g.accepted = true →
    (∃ canonical f, g.order = .ok canonical ∧ Field.plain g canonical = .ok f ∧
      ∀ order bounds field, Field.of g order bounds = .ok field →
        Field.plain g order = .ok f) ∧
    (∀ (c : Compiler) order shader d, c.generate g order = (.ok shader, d) →
      ∀ bounds, ∃ field, Field.of g order bounds = .ok field) ∧
    ∀ (c c' : Compiler) order order' shader shader' d d', c.mode = .inline → c'.mode = .inline →
      c.dialect = c'.dialect → order.Nodup → order'.Nodup → (∀ id, id ∈ order ↔ id ∈ order') →
      c.generate g order = (.ok shader, d) → c'.generate g order' = (.ok shader', d') →
      c.SameCode shader shader' := by
  intro g haccepted
  have hcat : (drafts.foldl Catalog.extend .empty).Registered := ⟨drafts, rfl⟩
  obtain ⟨hwf, hcatalog⟩ := Reached.wellFormed hcat (g := g) ⟨edits, rfl⟩
  have hkinds : Compiler.KindsApart g := fun n hn n' hn' =>
    hcat.eq_of_id n.kind (hcatalog ▸ hwf.kinds n hn) n'.kind (hcatalog ▸ hwf.kinds n' hn')
  refine ⟨?_, ?_, ?_⟩
  · rw [Graph.accepted, hwf.validate_eq] at haccepted
    obtain ⟨canonical, hcanonical, hrun⟩ :=
      hwf.runnable_of_errors (List.isEmpty_iff.mp haccepted)
    obtain ⟨f, hf⟩ : ∃ f, Field.plain g canonical = .ok f :=
      Field.buildFrom_eq_ok (m := Id) hrun rfl 0
    refine ⟨canonical, f, hcanonical, hf, fun order bounds field hfield => ?_⟩
    obtain ⟨f', hf'⟩ := Field.exists_plain_of_eq_ok hfield
    rw [hf', Field.plain_eq hwf hf hf']
  · intro c order shader d hok bounds
    obtain ⟨done, hfinish, -, -⟩ := Compiler.generate_eq_ok_iff.mp hok
    exact Field.exists_of_runnable (Compiler.runnable_of_finish hfinish) bounds
  · intro c c' order order' shader shader' d d' hmode hmode' hdialect hnodup hnodup' hsame hok hok'
    have hperm := (List.perm_ext_iff_of_nodup hnodup hnodup').mpr hsame
    have hmodes : c.mode = c'.mode := hmode.trans hmode'.symm
    obtain ⟨done, hfinish, rfl, -⟩ := Compiler.generate_eq_ok_iff.mp hok
    obtain ⟨done', hfinish', rfl, -⟩ := Compiler.generate_eq_ok_iff.mp hok'
    rw [← Compiler.finish_eq_ok_congr hdialect hmodes] at hfinish'
    rw [← Compiler.shaderOf_congr hdialect hmodes]
    exact Compiler.sameCode_of_finish hwf hkinds hmode hperm hfinish hfinish' _ _

/-- Edits that join a moved sphere with a mirrored one, so that the sphere is shared and it does not
matter which of the two comes first, and add a torus that feeds nothing. -/
def movedAndMirrored : List Edit :=
  [.addNode "sphere", .addNode "translate", .addNode "mirror", .addNode "union", .addNode "output",
    .addNode "torus", .connect (.outOf 1 0) (.into 2 0), .connect (.outOf 1 0) (.into 3 0),
    .connect (.outOf 2 0) (.into 4 0), .connect (.outOf 3 0) (.into 4 1),
    .connect (.outOf 4 0) (.into 5 0)]

/-- The moved and the mirrored sphere are accepted, also from a list that names the torus and names
the sphere twice. -/
theorem accepted_movedAndMirrored :
    let g := (Graph.empty .standard).run movedAndMirrored
    g.accepted = true ∧
      (Field.of g [6, 1, 3, 1, 2, 4, 5] (.centred 4)).toOption.map (·.nodes) = some 7 ∧
      (({} : Compiler).generate g [1, 2, 3, 4, 5]).1.toOption.map
        (fun shader => decide (HashesApart shader.nodes)) = some true ∧
      (({ generation := 1 } : Compiler).generate g [1, 3, 2, 4, 5]).1.toOption.map
        (·.generation) = some 2 := by
  rw [Catalog.standard_eq]
  decide +kernel

/-- The moved and the mirrored sphere make one field and one code, whichever comes first. -/
theorem order_does_not_matter_movedAndMirrored :
    let g := (Graph.empty .standard).run movedAndMirrored
    let c : Compiler := {}
    let c' : Compiler := { generation := 1 }
    g.accepted = true ∧
    (∃ field canonical f, Field.of g [6, 1, 3, 1, 2, 4, 5] (.centred 4) = .ok field ∧
      g.order = .ok canonical ∧ Field.plain g canonical = .ok f ∧
      Field.plain g [6, 1, 3, 1, 2, 4, 5] = .ok f) ∧
    ∃ shader shader' d d', c.generate g [1, 2, 3, 4, 5] = (.ok shader, d) ∧
      c'.generate g [1, 3, 2, 4, 5] = (.ok shader', d') ∧ HashesApart shader.nodes ∧
      c.SameCode shader shader' := by
  intro g c c'
  obtain ⟨haccepted, hfield, hhashes, hother⟩ := accepted_movedAndMirrored
  obtain ⟨drafts, hdrafts⟩ := Catalog.standard_registered
  have hmatter := order_does_not_matter drafts movedAndMirrored
  rw [← hdrafts] at hmatter
  obtain ⟨⟨canonical, f, hcanonical, hplain, hsame⟩, -, hcode⟩ := hmatter haccepted
  obtain ⟨field, hof, -⟩ := exists_of_toOption_map hfield
  obtain ⟨shader, d, hok, hapart⟩ := Compiler.exists_shader hhashes
  obtain ⟨shader', d', hok', -⟩ := Compiler.exists_shader hother
  have hnodes : ∀ id : NodeId, id ∈ [1, 2, 3, 4, 5] ↔ id ∈ [1, 3, 2, 4, 5] := by grind
  refine ⟨haccepted, ⟨field, canonical, f, hof, hcanonical, hplain, hsame _ _ field hof⟩, ?_⟩
  exact ⟨shader, shader', d, d', hok, hok', of_decide_eq_true hapart,
    hcode c c' _ _ _ _ _ _ rfl rfl rfl (by decide) (by decide) hnodes hok hok'⟩

end FieldGraph
