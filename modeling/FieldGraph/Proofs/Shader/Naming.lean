import FieldGraph.Proofs.Kind.Standard
import FieldGraph.Proofs.Shader.Generate

/-!
# Names that do not collide

What the nodes of an order contribute does not depend on the bookkeeping of names. If no two
different pairs of kind and body get names with the same hash, that bookkeeping accepts every
contribution, and a function is defined exactly when its name is new: the source holds the
definitions of the first code of every name, in evaluation order.
-/

namespace FieldGraph

/-! ## Codes -/

namespace Compiler

/-- The code of every node of an order, whatever becomes of the names. -/
def codes (c : Compiler) (g : Graph) (order : List NodeId) :
    Except GenerateError (List NodeCode) :=
  return (← c.parts g order).map (·.code)

/-- The definition of the function of a node. -/
def definition (c : Compiler) (code : NodeCode) : String :=
  c.functionDefinition code.name code.type code.body

end Compiler

namespace Shader

/-- No two different pairs of kind and body have names with the same hash. -/
def CollisionFree (codes : List NodeCode) : Prop :=
  ∀ a ∈ codes, ∀ b ∈ codes, hashText a.name 0 = hashText b.name 0 →
    a.kind = b.kind ∧ a.body = b.body

instance (codes : List NodeCode) : Decidable (CollisionFree codes) :=
  inferInstanceAs (Decidable (∀ a ∈ codes, ∀ b ∈ codes, _ → _))

/-- Codes whose names have the same hash have the same name and body. -/
def Distinguished (codes : List NodeCode) : Prop :=
  ∀ a ∈ codes, ∀ b ∈ codes, hashText a.name 0 = hashText b.name 0 →
    a.name = b.name ∧ a.body = b.body

/-- The first code of every name. -/
def declared (codes : List NodeCode) : List NodeCode :=
  codes.foldl
    (fun known code => if code.name ∈ known.map (·.name) then known else known ++ [code]) []

/-- One more code is declared if its name is new. -/
theorem declared_concat (codes : List NodeCode) (code : NodeCode) :
    declared (codes ++ [code]) =
      if code.name ∈ (declared codes).map (·.name) then declared codes
      else declared codes ++ [code] := by
  rw [declared, List.foldl_append]
  rfl

/-- What is declared is some of the codes. -/
theorem mem_of_mem_declared {codes : List NodeCode} {code : NodeCode}
    (h : code ∈ declared codes) : code ∈ codes := by
  induction codes using List.reverseRecOn with
  | nil => exact h
  | append_singleton codes last ih =>
    rw [declared_concat] at h
    split at h
    · exact List.mem_append_left _ (ih h)
    · rcases List.mem_append.mp h with h | h
      · exact List.mem_append_left _ (ih h)
      · exact List.mem_append_right _ h

/-- Every code has its name declared, and no other name is. -/
theorem mem_names_declared {codes : List NodeCode} {name : String} :
    name ∈ (declared codes).map (·.name) ↔ name ∈ codes.map (·.name) := by
  induction codes using List.reverseRecOn with
  | nil => rfl
  | append_singleton codes last ih =>
    rw [declared_concat]
    split
    next hold =>
      rw [ih, List.map_append, List.mem_append, List.map_singleton, List.mem_singleton]
      refine ⟨Or.inl, ?_⟩
      rintro (hname | rfl)
      · exact hname
      · exact ih.mp hold
    next => simp only [List.map_append, List.mem_append, ih]

/-- No name is declared twice. -/
theorem nodup_names_declared (codes : List NodeCode) :
    ((declared codes).map (·.name)).Nodup := by
  induction codes using List.reverseRecOn with
  | nil => exact List.nodup_nil
  | append_singleton codes last ih =>
    rw [declared_concat]
    split
    next => exact ih
    next hnew =>
      rw [List.map_append]
      exact ih.append (List.nodup_singleton _) (by simpa using hnew)

/-- What is declared stays in front. -/
theorem prefix_declared (before after : List NodeCode) :
    declared before <+: declared (before ++ after) := by
  induction after using List.reverseRecOn with
  | nil => rw [List.append_nil]
  | append_singleton after last ih =>
    rw [← List.append_assoc, declared_concat]
    split
    · exact ih
    · exact ih.trans (List.prefix_append ..)

/-- The hash of the name of a code and that of its body. -/
def fingerprint (code : NodeCode) : UInt64 × UInt64 :=
  (hashText code.name 0, hashText code.body (hashText code.name 0))

end Shader

namespace Compiler

open Shader

/-- The bookkeeping of names says what is declared and defined so far. -/
structure Named (c : Compiler) (done : Progress) : Prop where
  names : done.names = ((declared done.codes).map fingerprint).reverse
  definitions : done.definitions = String.join ((declared done.codes).map c.definition)

/-- Nothing is declared at first. -/
theorem named_empty (c : Compiler) : c.Named {} := ⟨rfl, rfl⟩

/-- The first entry for the hash of a name belongs to a declared code. -/
theorem find?_fingerprint {codes : List NodeCode} {hash : UInt64} {entry : UInt64 × UInt64}
    (h : ((codes.map fingerprint).reverse).find? (·.1 == hash) = some entry) :
    ∃ code ∈ codes, hashText code.name 0 = hash ∧ fingerprint code = entry := by
  have hmem := List.mem_of_find?_eq_some h
  rw [List.mem_reverse] at hmem
  obtain ⟨code, hcode, rfl⟩ := List.mem_map.mp hmem
  exact ⟨code, hcode, by simpa [fingerprint] using List.find?_some h, rfl⟩

/-- A contribution whose name is distinguished is accepted, and its function is defined if the
name is new. -/
theorem Named.record {c : Compiler} {done : Progress} (h : c.Named done) {part : Contribution}
    (hdist : Distinguished (done.codes ++ [part.code])) :
    ∃ isNew names, claim done.names part.code.name part.code.body = some (isNew, names) ∧
      c.Named (c.record done part isNew names) := by
  have hlast : part.code ∈ done.codes ++ [part.code] := by simp
  cases hfind : done.names.find? (·.1 == hashText part.code.name 0) with
  | none =>
    have hnew : part.code.name ∉ (declared done.codes).map (·.name) := by
      intro hmem
      obtain ⟨code, hcode, hname⟩ := List.mem_map.mp hmem
      rw [h.names, List.find?_eq_none] at hfind
      refine hfind (fingerprint code) ?_ (by simp [fingerprint, hname])
      exact List.mem_reverse.mpr (List.mem_map_of_mem hcode)
    refine ⟨true, fingerprint part.code :: done.names, by simp only [claim, hfind]; rfl, ?_, ?_⟩
    · simp [Compiler.record, declared_concat, hnew, h.names]
    · simp [Compiler.record, declared_concat, hnew, h.definitions, definition]
  | some entry =>
    obtain ⟨code, hcode, hhash, rfl⟩ := find?_fingerprint (h.names ▸ hfind)
    obtain ⟨hname, hbody⟩ := hdist code
      (List.mem_append_left _ (mem_of_mem_declared hcode)) part.code hlast hhash
    have hold : part.code.name ∈ (declared done.codes).map (·.name) :=
      List.mem_map.mpr ⟨code, hcode, hname⟩
    have hclaim : claim done.names part.code.name part.code.body = some (false, done.names) := by
      simp [claim, hfind, fingerprint, hname, hbody]
    refine ⟨false, done.names, hclaim, ?_, ?_⟩
    · simp [Compiler.record, declared_concat, hold, h.names]
    · simp [Compiler.record, declared_concat, hold, h.definitions]

/-- Distinguished contributions are all accepted. -/
theorem generateFrom_of_parts {c : Compiler} {g : Graph} {length position : Nat}
    {consumed rest : List NodeId} (before : Progress) {parts : List Contribution}
    (hparts : c.partsFrom g length consumed position rest before.supplies before.uniforms =
      .ok parts)
    (hnamed : c.Named before) (hdist : Distinguished (before.codes ++ parts.map (·.code))) :
    ∃ after, c.generateFrom g length consumed position rest before = .ok after ∧
      c.Named after ∧ before.Collects parts after := by
  induction rest generalizing position before parts with
  | nil =>
    cases hparts
    exact ⟨before, rfl, hnamed, .refl before⟩
  | cons id rest ih =>
    obtain ⟨part, hpart, hbind⟩ := bind_eq_ok_iff.mp hparts
    obtain ⟨later, hlater, he⟩ := bind_eq_ok_iff.mp hbind
    cases he
    have hsplit : before.codes ++ (part :: later).map (·.code) =
        before.codes ++ [part.code] ++ later.map (·.code) := by simp
    rw [hsplit] at hdist
    have hfirst : Distinguished (before.codes ++ [part.code]) := fun a ha b hb =>
      hdist a (List.mem_append_left _ ha) b (List.mem_append_left _ hb)
    obtain ⟨isNew, names, hclaim, hnamed'⟩ := hnamed.record hfirst
    have hnode : c.generateNode g length consumed position id before =
        .ok (c.record before part isNew names) := by
      simp only [generateNode, hpart, hclaim, bind, Except.bind]
      rfl
    obtain ⟨after, hafter, hnamed', hcollects⟩ := ih _ hlater hnamed' hdist
    refine ⟨after, ?_, hnamed', hcollects.of_record⟩
    rw [generateFrom, hnode]
    exact hafter

/-- Nodes whose kinds have one identity are of one kind. -/
def KindsApart (g : Graph) : Prop :=
  ∀ n ∈ g.nodes, ∀ n' ∈ g.nodes, n.kind.id = n'.kind.id → n.kind = n'.kind

/-- Codes of one kind have functions of one type, and if their bodies are equal one name. -/
theorem code_eq_of_kind_eq {c : Compiler} {g : Graph} (hkinds : KindsApart g)
    {rest : List NodeId} {parts : List Contribution}
    (h : List.Forall₂ (c.Contributes g) rest parts) {a b : NodeCode}
    (ha : a ∈ parts.map (·.code)) (hb : b ∈ parts.map (·.code)) (hkind : a.kind = b.kind) :
    a.type = b.type ∧ (a.body = b.body → a.name = b.name) := by
  have hcode : ∀ code ∈ parts.map (·.code), ∃ n ∈ g.nodes, code.kind = n.kind.id ∧
      code.type = n.kind.resultType ∧ code.name =
        if n.kind.isOutput then entryPoint else functionName n.kind.id code.body := by
    intro code hcode
    obtain ⟨part, hpart, rfl⟩ := List.mem_map.mp hcode
    obtain ⟨n, shared, uniforms, calls, inlines, hn, rfl⟩ := exists_node_of_contributes h hpart
    exact ⟨n, List.mem_of_find?_eq_some hn, rfl, rfl, rfl⟩
  obtain ⟨n, hn, hid, htype, hname⟩ := hcode a ha
  obtain ⟨n', hn', hid', htype', hname'⟩ := hcode b hb
  have hsame := hkinds n hn n' hn' (by rw [← hid, ← hid', hkind])
  refine ⟨by rw [htype, htype', hsame], fun hbody => ?_⟩
  rw [hname, hname', hsame, hbody]

/-- If hashes tell kinds and bodies apart, they tell names and bodies apart. -/
theorem distinguished_of_collisionFree {c : Compiler} {g : Graph} (hkinds : KindsApart g)
    {rest : List NodeId} {parts : List Contribution}
    (h : List.Forall₂ (c.Contributes g) rest parts)
    (hfree : CollisionFree (parts.map (·.code))) : Distinguished (parts.map (·.code)) := by
  intro a ha b hb hhash
  obtain ⟨hkind, hbody⟩ := hfree a ha b hb hhash
  exact ⟨(code_eq_of_kind_eq hkinds h ha hb hkind).2 hbody, hbody⟩

end Compiler

/-! ## Libraries -/

namespace Shader

/-- No conflict is found exactly if no two functions share a name. -/
theorem conflict?_eq_none_iff {library : List Function} :
    conflict? library = none ↔ (library.map (·.name)).Nodup := by
  induction library with
  | nil => simp [conflict?]
  | cons f rest ih =>
    have hany : rest.any (·.name == f.name) = true ↔ f.name ∈ rest.map (·.name) := by simp
    rw [conflict?, List.map_cons, List.nodup_cons, ← ih, ← hany]
    split <;> simp_all

/-- Adding functions keeps what there is and adds nothing else. -/
theorem mem_foldl_addFunction {fs library : List Function} {f : Function} :
    f ∈ fs.foldl addFunction library ↔ f ∈ library ∨ f ∈ fs := by
  have hadd : ∀ (library : List Function) (added : Function),
      f ∈ addFunction library added ↔ f ∈ library ∨ f = added := by
    intro library added
    unfold addFunction
    split
    next other hfind =>
      have hother := List.mem_of_find?_eq_some hfind
      split
      next hsame => exact ⟨Or.inl, Or.rec id fun he => he ▸ hsame ▸ hother⟩
      next => simp
    next => simp
  induction fs generalizing library with
  | nil => simp
  | cons added rest ih => simp only [List.foldl_cons, ih, hadd, List.mem_cons, or_assoc]

/-- Adding functions that are known by their names keeps names apart. -/
theorem nodup_foldl_addFunction {known : Function → Prop}
    (hknown : ∀ {f f'}, known f → known f' → f.name = f'.name → f = f')
    {fs library : List Function} (hfs : ∀ f ∈ fs, known f) (hlibrary : ∀ f ∈ library, known f)
    (hnodup : (library.map (·.name)).Nodup) :
    ((fs.foldl addFunction library).map (·.name)).Nodup := by
  induction fs generalizing library with
  | nil => exact hnodup
  | cons f rest ih =>
    have hrest : ∀ f' ∈ rest, known f' := fun f' hf' => hfs f' (List.mem_cons_of_mem f hf')
    have hf : known f := hfs f List.mem_cons_self
    rw [List.foldl_cons, addFunction]
    cases hfind : library.find? (·.name == f.name) with
    | some other =>
      have hother : other = f := hknown (hlibrary other (List.mem_of_find?_eq_some hfind)) hf
        (by simpa using List.find?_some hfind)
      simpa only [hother, if_true] using ih hrest hlibrary hnodup
    | none =>
      refine ih hrest ?_ ?_
      · intro f' hf'
        rcases List.mem_append.mp hf' with hf' | hf'
        · exact hlibrary f' hf'
        · rwa [List.mem_singleton.mp hf']
      · rw [List.map_append, List.map_singleton, List.nodup_append]
        refine ⟨hnodup, List.nodup_singleton _, ?_⟩
        intro name hname name' hname' heq
        obtain ⟨f', hf', rfl⟩ := List.mem_map.mp hname
        rw [List.mem_singleton.mp hname'] at heq
        exact absurd (by simpa using heq) (List.find?_eq_none.mp hfind f' hf')

/-- No conflict is found exactly if functions of one name are equal. -/
theorem conflict?_foldl_addFunction {fs : List Function} :
    conflict? (fs.foldl addFunction []) = none ↔
      ∀ f ∈ fs, ∀ f' ∈ fs, f.name = f'.name → f = f' := by
  rw [conflict?_eq_none_iff]
  constructor
  · intro hnodup f hf f' hf' hname
    exact List.inj_on_of_nodup_map hnodup (mem_foldl_addFunction.mpr (Or.inr hf))
      (mem_foldl_addFunction.mpr (Or.inr hf')) hname
  · intro heq
    exact nodup_foldl_addFunction (fun hf hf' => heq _ hf _ hf') (fun _ hf => hf) (by simp)
      List.nodup_nil

end Shader

end FieldGraph
