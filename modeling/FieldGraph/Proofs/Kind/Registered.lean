import FieldGraph.Kind.Catalog
import Mathlib

/-!
# What registration promises of a kind

A catalog grows only by drafts without faults, so whatever the drafts were, every kind it holds
passes its own check. Two consequences are used throughout: a kind that ends graphs has no
outputs and every other kind has exactly one, and every default lies in its range, which no
value that is not a number does.
-/

namespace FieldGraph

/-- Comparable floats are numbers. -/
theorem Single.isNaN_of_le {a b : Float32} (h : a ≤ b) : a.isNaN = false ∧ b.isNaN = false := by
  have hle : (a.toModel.unpack.compare b.toModel.unpack).any (·.isLE) = true :=
    of_decide_eq_true h
  unfold Float32.isNaN Float32.Model.isNaN
  cases ha : a.toModel.unpack <;> cases hb : b.toModel.unpack <;>
    first
    | exact ⟨rfl, rfl⟩
    | simp [ha, hb, Float.Model.UnpackedFloat.compare] at hle

/-- A value in range is a number. -/
theorem ParamSpec.isNaN_of_inRange {p : ParamSpec} {v : Float32} (h : p.inRange v = true) :
    v.isNaN = false := by
  simp only [inRange, ge_iff_le, Bool.and_eq_true, decide_eq_true_eq] at h
  exact (Single.isNaN_of_le h.1).2

/-- A kind whose draft has nothing wrong with it. -/
def Kind.Faultless (k : Kind) : Prop := k.draft.faults = []

/-- A draft becomes a kind only without faults, and the kind is what was drafted. -/
theorem Draft.toKind_eq_ok {d : Draft} {k : Kind} (h : d.toKind = .ok k) :
    k.Faultless ∧ k.draft = d := by
  unfold Draft.toKind at h
  split at h
  next template evaluate hf ht he =>
    cases h
    have hd : ({ d.toSignature with template, evaluate } : Kind).draft = d := by
      cases d
      simp_all [Kind.draft]
    exact ⟨by rw [Kind.Faultless, hd]; exact hf, hd⟩
  next => cases h

/-- A faultless kind that ends graphs has no outputs. -/
theorem Kind.Faultless.outputs_of_isOutput {k : Kind} (h : k.Faultless) (ho : k.isOutput = true) :
    k.outputs = [] := by
  have hc : k.category = .output := by simpa [Signature.isOutput] using ho
  simp only [Kind.Faultless, Draft.faults, Kind.draft, List.append_eq_nil_iff] at h
  obtain ⟨⟨⟨⟨⟨-, hcount⟩, -⟩, -⟩, -⟩, -⟩ := h
  simpa [hc] using hcount

/-- A faultless kind that does not end graphs has exactly one output. -/
theorem Kind.Faultless.outputs_of_not_isOutput {k : Kind} (h : k.Faultless)
    (ho : k.isOutput = false) : ∃ port, k.outputs = [port] := by
  have hc : k.category ≠ .output := by simpa [Signature.isOutput] using ho
  simp only [Kind.Faultless, Draft.faults, Kind.draft, List.append_eq_nil_iff] at h
  obtain ⟨⟨⟨⟨⟨-, hcount⟩, -⟩, -⟩, -⟩, -⟩ := h
  refine List.length_eq_one_iff.mp ?_
  by_contra hne
  simp [hc, hne] at hcount

/-- Parameters without faults have their defaults in range. -/
theorem Draft.inRange_of_paramFaults {used : List String} {params : List ParamSpec}
    (h : Draft.paramFaults used params = []) : ∀ p ∈ params, p.inRange p.default = true := by
  induction params generalizing used with
  | nil => simp
  | cons param rest ih =>
    simp only [Draft.paramFaults, List.append_eq_nil_iff] at h
    obtain ⟨⟨-, hrange⟩, hrest⟩ := h
    intro p hp
    rcases List.mem_cons.mp hp with rfl | hp
    · by_contra hout
      split at hrange
      · cases hrange
      · simp [hout] at hrange
    · exact ih hrest p hp

/-- A faultless kind starts its nodes with values in range. -/
theorem Kind.Faultless.inRange_default {k : Kind} (h : k.Faultless) :
    ∀ p ∈ k.params, p.inRange p.default = true := by
  simp only [Kind.Faultless, Draft.faults, Kind.draft, List.append_eq_nil_iff] at h
  exact Draft.inRange_of_paramFaults h.1.2

/-- Parameters without faults have names of their own. -/
theorem Draft.nodup_of_paramFaults {used : List String} {params : List ParamSpec}
    (h : Draft.paramFaults used params = []) :
    (params.map (·.name)).Nodup ∧ ∀ p ∈ params, p.name ∉ used := by
  induction params generalizing used with
  | nil => simp
  | cons param rest ih =>
    simp only [Draft.paramFaults, List.append_eq_nil_iff] at h
    obtain ⟨⟨hnaming, -⟩, hrest⟩ := h
    obtain ⟨hnodup, hfresh⟩ := ih hrest
    have hunused : param.name ∉ used := by
      intro hused
      rw [if_pos hused] at hnaming
      split at hnaming <;> cases hnaming
    refine ⟨List.nodup_cons.mpr ⟨?_, hnodup⟩, List.forall_mem_cons.mpr ⟨hunused, ?_⟩⟩
    · intro hmem
      obtain ⟨p, hp, hname⟩ := List.mem_map.mp hmem
      exact hfresh p hp (hname ▸ List.mem_cons_self)
    · intro p hp hused
      exact hfresh p hp (List.mem_cons_of_mem _ hused)

/-- The parameters of a faultless kind have names of their own. -/
theorem Kind.Faultless.nodup_params {k : Kind} (h : k.Faultless) :
    (k.params.map (·.name)).Nodup := by
  simp only [Kind.Faultless, Draft.faults, Kind.draft, List.append_eq_nil_iff] at h
  exact (Draft.nodup_of_paramFaults h.1.2).1

namespace Catalog

/-- The catalogs that registering drafts one after the other leads to, refused drafts
included. -/
def Registered (c : Catalog) : Prop := ∃ drafts : List Draft, c = drafts.foldl extend empty

/-- Inserting a kind adds nothing else. -/
theorem mem_insertOrdered {k other : Kind} {kinds : List Kind} :
    other ∈ insertOrdered k kinds ↔ other = k ∨ other ∈ kinds := by
  induction kinds with
  | nil => simp [insertOrdered]
  | cons first rest ih =>
    unfold insertOrdered
    split
    · simp
    · simp only [List.mem_cons, ih]
      tauto

/-- Registering a draft adds at most its kind, and only under a free identity. -/
theorem mem_extend {c : Catalog} {d : Draft} {k : Kind} (h : k ∈ (c.extend d).kinds) :
    k ∈ c.kinds ∨ d.toKind = .ok k ∧ c.find? k.id = none := by
  unfold extend register at h
  cases hd : d.toKind with
  | error faults =>
    rw [hd] at h
    exact .inl h
  | ok kind =>
    rw [hd] at h
    cases hfree : c.find? kind.id with
    | some other =>
      simp only [hfree] at h
      exact .inl h
    | none =>
      simp only [hfree] at h
      rcases mem_insertOrdered.mp h with rfl | h
      · exact .inr ⟨rfl, hfree⟩
      · exact .inl h

/-- What registering a draft preserves holds of every registered catalog. -/
theorem Registered.induction {P : Catalog → Prop} (hempty : P empty)
    (hextend : ∀ c d, P c → P (c.extend d)) {c : Catalog} (h : c.Registered) : P c := by
  obtain ⟨drafts, rfl⟩ := h
  induction drafts using List.reverseRecOn with
  | nil => exact hempty
  | append_singleton drafts d ih =>
    rw [List.foldl_append]
    exact hextend _ d ih

/-- Every kind of a registered catalog is faultless. -/
theorem Registered.faultless {c : Catalog} (h : c.Registered) : ∀ k ∈ c.kinds, k.Faultless := by
  refine h.induction (P := fun c => ∀ k ∈ c.kinds, k.Faultless) (by simp [empty]) ?_
  intro c d hc k hk
  rcases mem_extend hk with hk | ⟨hd, -⟩
  · exact hc k hk
  · exact (Draft.toKind_eq_ok hd).1

/-- The kinds of a registered catalog are known by their identities. -/
theorem Registered.eq_of_id {c : Catalog} (h : c.Registered) :
    ∀ k ∈ c.kinds, ∀ k' ∈ c.kinds, k.id = k'.id → k = k' := by
  have hfree : ∀ {c : Catalog} {k k' : Kind}, c.find? k.id = none → k' ∈ c.kinds → k.id ≠ k'.id :=
    fun hnone hk' hid => by simpa [hid] using List.find?_eq_none.mp hnone _ hk'
  refine h.induction (P := fun c => ∀ k ∈ c.kinds, ∀ k' ∈ c.kinds, k.id = k'.id → k = k')
    (by simp [empty]) ?_
  intro c d hc k hk k' hk' hid
  rcases mem_extend hk with hold | ⟨hd, hnone⟩ <;> rcases mem_extend hk' with hold' | ⟨hd', hnone'⟩
  · exact hc k hold k' hold' hid
  · exact absurd hid.symm (hfree hnone' hold)
  · exact absurd hid (hfree hnone hold')
  · exact Except.ok.inj (hd.symm.trans hd')

/-- A kind found in a catalog is one of its kinds. -/
theorem mem_of_find? {c : Catalog} {id : String} {k : Kind} (h : c.find? id = some k) :
    k ∈ c.kinds :=
  List.mem_of_find?_eq_some h

end Catalog

end FieldGraph
