import FieldGraph.Kind.Standard
import FieldGraph.Proofs.Kind.Registered
import FieldGraph.Proofs.Number.Single
import FieldGraph.Proofs.Shader.Identifier
import FieldGraph.Proofs.Shader.Library
import FieldGraph.Proofs.Shader.Meaning

/-!
# The standard catalog

What later proofs use of the standard kinds and is settled by looking at each of them: the ends of
parameter ranges are finite, one kind ends graphs, none is refused when the catalog is made, and the
names of node functions are names that the shading languages and their libraries do not use.
-/

namespace FieldGraph

/-! ## Kinds -/

/-- A draft says everything about a kind. -/
theorem Kind.draft_injective {k k' : Kind} (h : k.draft = k'.draft) : k = k' := by
  obtain ⟨signature, template, evaluate⟩ := k
  obtain ⟨signature', template', evaluate'⟩ := k'
  simp only [draft, Draft.mk.injEq, Option.some.injEq] at h
  obtain ⟨rfl, rfl, rfl⟩ := h
  rfl

/-- A standard kind is known by its name. -/
theorem Kind.eq_of_id {k k' : Kind} (hk : k ∈ standard) (hk' : k' ∈ standard)
    (h : k.id = k'.id) : k = k' := by
  have hnodup : (standard.map (·.id)).Nodup := by decide +kernel
  exact List.inj_on_of_nodup_map hnodup hk hk' h

/-- The kinds of a catalog were drafted. -/
theorem Catalog.draft_of_mem_foldl {drafts : List Draft} {c : Catalog} {k : Kind}
    (h : k ∈ (drafts.foldl extend c).kinds) : k ∈ c.kinds ∨ k.draft ∈ drafts := by
  induction drafts generalizing c with
  | nil => exact .inl h
  | cons d rest ih =>
    rcases ih h with h | h
    · rcases mem_extend h with h | ⟨hd, -⟩
      · exact .inl h
      · exact .inr (List.mem_cons.mpr (.inl (Draft.toKind_eq_ok hd).2))
    · exact .inr (List.mem_cons_of_mem d h)

/-- The standard catalog holds standard kinds only. -/
theorem Catalog.mem_standard {k : Kind} (h : k ∈ Catalog.standard.kinds) : k ∈ Kind.standard := by
  rcases draft_of_mem_foldl h with h | h
  · cases h
  · obtain ⟨k', hk', hdraft⟩ := List.mem_map.mp h
    rwa [← Kind.draft_injective hdraft]

/-- The standard catalog was registered. -/
theorem Catalog.standard_registered : Catalog.standard.Registered := ⟨_, rfl⟩

namespace Kind

/-- Ranges of standard parameters end at finite floats. -/
theorem isFinite_ends : ∀ k ∈ standard, ∀ p ∈ k.params,
    p.min.isFinite = true ∧ p.max.isFinite = true := by
  decide +kernel

/-- A value in the range of a standard parameter is finite. -/
theorem finite_of_inRange {k : Kind} (hk : k ∈ standard) {p : ParamSpec} (hp : p ∈ k.params)
    {x : Float32} (h : p.inRange x = true) : x.isFinite = true := by
  obtain ⟨hmin, hmax⟩ := isFinite_ends k hk p hp
  simp only [ParamSpec.inRange, ge_iff_le, Bool.and_eq_true, decide_eq_true_eq] at h
  exact Single.isFinite_of_between h.1 h.2 hmin hmax

end Kind

/-! ## Registration -/

namespace Kind

/-- Standard kinds call functions of the library only. -/
theorem mem_library : ∀ k ∈ standard, ∀ f ∈ k.library, f ∈ Shader.Library.functions := by
  decide +kernel

/-- Nothing but its library can be wrong with a standard kind. -/
theorem faults_without_library : ∀ k ∈ standard,
    ({ k.draft with library := [] } : Draft).faults.isEmpty = true := by
  decide +kernel

/-- A standard kind is what its draft describes. -/
theorem toKind_draft {k : Kind} (hk : k ∈ standard) : k.draft.toKind = .ok k := by
  have hlibrary : k.library.filterMap Draft.libraryFault = [] := by
    rw [List.filterMap_eq_nil_iff]
    intro f hf
    rw [Draft.libraryFault, Shader.Library.check_eq_ok f (mem_library k hk f hf)]
  have hfaults : k.draft.faults = [] := by
    rw [Draft.faults, show k.draft.library = k.library from rfl, hlibrary]
    exact List.isEmpty_iff.mp (faults_without_library k hk)
  rw [Draft.toKind, hfaults]
  rfl

end Kind

/-- Insert a kind unless its identity is taken. -/
def Catalog.insert (c : Catalog) (k : Kind) : Catalog :=
  if (c.find? k.id).isSome then c else ⟨insertOrdered k c.kinds⟩

/-- The standard catalog is made by inserting the standard kinds: none is refused as faulty. -/
theorem Catalog.standard_eq : Catalog.standard = Kind.standard.foldl insert empty := by
  rw [standard, List.foldl_map]
  refine List.foldl_ext _ _ _ fun c k hk => ?_
  rw [extend, register, Kind.toKind_draft hk, insert]
  by_cases htaken : (c.find? k.id).isSome <;> simp [htaken]

/-! ## Names of node functions -/

namespace Shader

/-- The name of a function of a standard kind is a name, whatever the body is. -/
theorem isName_functionName {k : Kind} (hk : k ∈ Kind.standard) (body : String) :
    isName (functionName k.id body).toList = true := by
  have hid : ∀ k ∈ Kind.standard, (utf8 k.id).head?.any isDigitByte = false := by decide +kernel
  rw [functionName, isName_nameOfBytes, hid k hk, Bool.not_false]

/-- No function of a shading language has the name of a node function. -/
theorem isNodeName_functionName (kindId body : String) :
    isNodeName (functionName kindId body) = true := by
  simp [isNodeName, functionName, mark_mem_nameOfBytes]

end Shader

end FieldGraph
