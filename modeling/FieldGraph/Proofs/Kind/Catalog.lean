import FieldGraph.Proofs.Kind.Standard
import FieldGraph.Proofs.Number.Comparison
import FieldGraph.Proofs.Text.Bytes

/-!
# What a catalog holds

The check of a draft goes through its parts one after the other and collects what is wrong. It
collects nothing exactly if the draft is well formed, which is said here part by part and without
the order of the check. A catalog is then described by the drafts that were accepted in the course
of time: it holds each of them once, by increasing identity, and looking an identity up finds the
first of them that has it.
-/

namespace FieldGraph

/-! ## The check of a draft -/

/-- A library function is accepted if both of its sources declare its name. -/
theorem Shader.Function.check_eq_ok_iff (f : Function) :
    f.check = .ok () ↔
      f.name ≠ "" ∧ declaredName f.glsl = .ok f.name ∧ declaredName f.wgsl = .ok f.name := by
  have hempty : ∀ {source name : String}, declaredName source = .ok name → source ≠ "" := by
    rintro source name h rfl
    cases h
  constructor
  · intro h
    unfold check at h
    split_ifs at h with hname hsources
    cases hglsl : declaredName f.glsl with
    | error fault => simp [hglsl, bind, Except.bind] at h
    | ok glsl =>
      cases hwgsl : declaredName f.wgsl with
      | error fault => simp [hglsl, hwgsl, bind, Except.bind] at h
      | ok wgsl =>
        simp only [hglsl, hwgsl, bind, Except.bind] at h
        split_ifs at h with hnames
        rw [not_or, not_not, not_not] at hnames
        rw [hnames.1, hnames.2]
        exact ⟨hname, rfl, rfl⟩
  · rintro ⟨hname, hglsl, hwgsl⟩
    simp [check, hname, hempty hglsl, hempty hwgsl, hglsl, hwgsl, bind, Except.bind]

namespace Draft

/-- Names that say what they stand for: none is empty and no two are the same. -/
structure WellNamed (names : List String) : Prop where
  nonempty : "" ∉ names
  nodup : names.Nodup

/-- Names that can follow others. -/
def Follow (used names : List String) : Prop :=
  WellNamed names ∧ ∀ name ∈ names, name ∉ used

theorem follow_nil (used : List String) : Follow used [] :=
  ⟨⟨List.not_mem_nil, List.nodup_nil⟩, by simp⟩

theorem nil_follow_iff {names : List String} : Follow [] names ↔ WellNamed names := by
  simp [Follow]

/-- Names can be gone through one after the other. -/
theorem follow_cons_iff {used names : List String} {name : String} :
    Follow used (name :: names) ↔ (name ≠ "" ∧ name ∉ used) ∧ Follow (name :: used) names := by
  constructor
  · rintro ⟨⟨hnonempty, hnodup⟩, hfresh⟩
    rw [List.nodup_cons] at hnodup
    rw [List.mem_cons, not_or] at hnonempty
    rw [List.forall_mem_cons] at hfresh
    refine ⟨⟨Ne.symm hnonempty.1, hfresh.1⟩, ⟨hnonempty.2, hnodup.2⟩, fun n hn => ?_⟩
    rw [List.mem_cons, not_or]
    exact ⟨fun h => hnodup.1 (h ▸ hn), hfresh.2 n hn⟩
  · rintro ⟨⟨hne, hunused⟩, ⟨hnonempty, hnodup⟩, hfresh⟩
    simp only [List.mem_cons, not_or] at hfresh
    refine ⟨⟨?_, List.nodup_cons.mpr ⟨fun h => (hfresh name h).1 rfl, hnodup⟩⟩, ?_⟩
    · rw [List.mem_cons, not_or]
      exact ⟨Ne.symm hne, hnonempty⟩
    · exact List.forall_mem_cons.mpr ⟨hunused, fun n hn => (hfresh n hn).2⟩

/-- Whatever the faults are called, a name has none if it is not empty and not used before. -/
theorem naming_eq_nil_iff {used : List String} {name : String} {unnamed duplicate : Fault} :
    (if name = "" then [unnamed] else if name ∈ used then [duplicate] else []) = [] ↔
      name ≠ "" ∧ name ∉ used := by
  split_ifs <;> simp_all

/-- Ports are faultless if they have names of their own and types with a meaning. -/
theorem portFaults_eq_nil_iff {used : List String} {ports : List PortSpec} :
    portFaults used ports = [] ↔
      Follow used (ports.map (·.name)) ∧ ∀ port ∈ ports, port.type ≠ .undefined := by
  induction ports generalizing used with
  | nil => simp [portFaults, follow_nil]
  | cons port rest ih =>
    have htyping : (if port.type = .undefined then [Fault.undefinedPort port.name] else []) = [] ↔
        port.type ≠ .undefined := by
      split_ifs <;> simp_all
    simp only [portFaults, List.append_eq_nil_iff, naming_eq_nil_iff, htyping, ih, List.map_cons,
      follow_cons_iff, List.forall_mem_cons]
    tauto

/-- Parameters are faultless if they have names of their own and defaults in range. -/
theorem paramFaults_eq_nil_iff {used : List String} {params : List ParamSpec} :
    paramFaults used params = [] ↔
      Follow used (params.map (·.name)) ∧
        ∀ p ∈ params, p.min ≤ p.default ∧ p.default ≤ p.max := by
  induction params generalizing used with
  | nil => simp [paramFaults, follow_nil]
  | cons param rest ih =>
    -- That the range is not empty is checked on its own, but follows from the default in it.
    have hrange : (if param.min > param.max then [Fault.emptyRange param.name]
        else if !param.inRange param.default then [.defaultOutside param] else []) = [] ↔
          param.min ≤ param.default ∧ param.default ≤ param.max := by
      have hin : param.inRange param.default = true ↔
          param.min ≤ param.default ∧ param.default ≤ param.max := by
        simp [ParamSpec.inRange]
      rw [← hin]
      split_ifs with hends hdefault
      · simp only [false_iff, hin]
        exact fun h => Single.not_lt_of_le_of_le h.1 h.2 hends
      · simpa using hdefault
      · simpa using hdefault
    simp only [paramFaults, List.append_eq_nil_iff, naming_eq_nil_iff, hrange, ih, List.map_cons,
      follow_cons_iff, List.forall_mem_cons]
    tauto

/-- Ports that a node can be wired by. -/
structure WellFormedPorts (ports : List PortSpec) : Prop where
  names : WellNamed (ports.map (·.name))
  types : ∀ port ∈ ports, port.type ≠ .undefined

/-- What is asked of a draft. Inputs, outputs and parameters are named independently. -/
structure WellFormed (d : Draft) : Prop where
  id : d.id ≠ ""
  category : d.category ≠ .undefined
  template : d.template?.isSome = true
  evaluate : d.evaluate?.isSome = true
  count : d.outputs.length = if d.category = .output then 0 else 1
  inputs : WellFormedPorts d.inputs
  outputs : WellFormedPorts d.outputs
  params : WellNamed (d.params.map (·.name))
  defaults : ∀ p ∈ d.params, p.min ≤ p.default ∧ p.default ≤ p.max
  library : ∀ f ∈ d.library, f.name ≠ "" ∧ Shader.declaredName f.glsl = .ok f.name ∧
    Shader.declaredName f.wgsl = .ok f.name

theorem libraryFault_eq_none_iff {f : Shader.Function} :
    libraryFault f = none ↔ f.check = .ok () := by
  unfold libraryFault
  split <;> simp_all

/-- Nothing is wrong with the well formed drafts, and with no others. -/
theorem faults_eq_nil_iff (d : Draft) : d.faults = [] ↔ d.WellFormed := by
  have hports : ∀ {ports : List PortSpec}, portFaults [] ports = [] ↔ WellFormedPorts ports := by
    intro ports
    rw [portFaults_eq_nil_iff, nil_follow_iff]
    exact ⟨fun h => ⟨h.1, h.2⟩, fun h => ⟨h.names, h.types⟩⟩
  have hcount : (if d.category = .output then
        (if d.outputs.length ≠ 0 then [Fault.outputWithPorts] else [])
      else if d.outputs.length ≠ 1 then [Fault.outputCount d.outputs.length] else []) = [] ↔
        d.outputs.length = if d.category = .output then 0 else 1 := by
    split_ifs <;> simp_all
  have hnone : ∀ {α : Type} {o : Option α}, ¬o.isNone = true ↔ o.isSome = true := by
    intro α o
    cases o <;> simp
  simp only [faults, List.append_eq_nil_iff, hports, hcount, paramFaults_eq_nil_iff,
    nil_follow_iff, List.filterMap_eq_nil_iff, libraryFault_eq_none_iff,
    Shader.Function.check_eq_ok_iff, ite_eq_right_iff, List.cons_ne_nil, imp_false, hnone]
  constructor
  · rintro ⟨⟨⟨⟨⟨⟨⟨⟨hid, hcategory⟩, htemplate⟩, hevaluate⟩, hcount⟩, hinputs⟩, houtputs⟩,
      hparams⟩, hlibrary⟩
    exact ⟨hid, hcategory, htemplate, hevaluate, hcount, hinputs, houtputs, hparams.1, hparams.2,
      hlibrary⟩
  · intro h
    exact ⟨⟨⟨⟨⟨⟨⟨⟨h.id, h.category⟩, h.template⟩, h.evaluate⟩, h.count⟩, h.inputs⟩, h.outputs⟩,
      h.params, h.defaults⟩, h.library⟩

/-- The parameters of a well formed draft are bounded by numbers and start with one. -/
theorem WellFormed.isNaN {d : Draft} (h : d.WellFormed) : ∀ p ∈ d.params,
    p.min.isNaN = false ∧ p.default.isNaN = false ∧ p.max.isNaN = false := by
  intro p hp
  obtain ⟨hmin, hmax⟩ := h.defaults p hp
  exact ⟨(Single.isNaN_of_le hmin).1, Single.isNaN_of_le hmax⟩

/-- A draft without faults becomes a kind. -/
theorem exists_toKind_iff {d : Draft} : (∃ k, d.toKind = .ok k) ↔ d.faults = [] := by
  constructor
  · rintro ⟨k, hk⟩
    obtain ⟨hfaultless, rfl⟩ := toKind_eq_ok hk
    exact hfaultless
  · intro h
    have hwell := d.faults_eq_nil_iff.mp h
    obtain ⟨template, htemplate⟩ := Option.isSome_iff_exists.mp hwell.template
    obtain ⟨evaluate, hevaluate⟩ := Option.isSome_iff_exists.mp hwell.evaluate
    exact ⟨_, by rw [toKind, h, htemplate, hevaluate]⟩

end Draft

namespace Catalog

/-! ## Registering a draft -/

/-- A draft is registered if nothing is wrong with it and its identity is free. -/
theorem register_eq_ok_iff {c c' : Catalog} {d : Draft} :
    c.register d = .ok c' ↔
      c.find? d.id = none ∧ ∃ k, d.toKind = .ok k ∧ c' = ⟨insertOrdered k c.kinds⟩ := by
  unfold register
  cases hk : d.toKind with
  | error faults => simp
  | ok k =>
    have hid : k.id = d.id := congrArg (·.id) (Draft.toKind_eq_ok hk).2
    cases hfree : c.find? k.id <;> simp [← hid, hfree, eq_comm]

/-- Whether a draft is registered. -/
theorem exists_register_iff {c : Catalog} {d : Draft} :
    (∃ c', c.register d = .ok c') ↔ c.find? d.id = none ∧ d.faults = [] := by
  simp only [register_eq_ok_iff, ← Draft.exists_toKind_iff]
  exact ⟨fun ⟨_, hfree, k, hk, _⟩ => ⟨hfree, k, hk⟩, fun ⟨hfree, k, hk⟩ => ⟨_, hfree, k, hk, rfl⟩⟩

/-- A refused draft changes nothing. -/
theorem extend_of_refused {c : Catalog} {d : Draft} {refusal : Refusal}
    (h : c.register d = .error refusal) : c.extend d = c := by
  rw [extend, h]

theorem perm_insertOrdered (k : Kind) (kinds : List Kind) :
    (insertOrdered k kinds).Perm (k :: kinds) := by
  induction kinds with
  | nil => exact .refl _
  | cons other rest ih =>
    unfold insertOrdered
    split
    · exact .refl _
    · exact (ih.cons other).trans (.swap k other rest)

/-- A kind with a new identity is inserted where it belongs. -/
theorem pairwise_insertOrdered {k : Kind} {kinds : List Kind}
    (hordered : kinds.Pairwise (·.id < ·.id)) (hfree : ∀ other ∈ kinds, other.id ≠ k.id) :
    (insertOrdered k kinds).Pairwise (·.id < ·.id) := by
  induction kinds with
  | nil => exact List.pairwise_singleton _ k
  | cons other rest ih =>
    obtain ⟨hother, hrest⟩ := List.pairwise_cons.mp hordered
    obtain ⟨hne, hfree⟩ := List.forall_mem_cons.mp hfree
    unfold insertOrdered
    split
    next hlt =>
      refine List.pairwise_cons.mpr ⟨List.forall_mem_cons.mpr ⟨hlt, fun last hlast => ?_⟩, hordered⟩
      exact hlt.trans (hother last hlast)
    next hge =>
      have hlt : other.id < k.id := lt_of_le_of_ne (not_lt.mp hge) hne
      refine List.pairwise_cons.mpr ⟨fun last hlast => ?_, ih hrest hfree⟩
      rcases mem_insertOrdered.mp hlast with rfl | hlast
      · exact hlt
      · exact hother last hlast

/-! ## Registering one draft after the other -/

/-- The drafts among those offered that a catalog takes, in the order in which they come. -/
def accepted (c : Catalog) : List Draft → List Draft
  | [] => []
  | d :: rest => (if (c.register d).isOk then [d] else []) ++ (c.extend d).accepted rest

/-- A catalog that holds the drafts accepted so far. -/
structure Records (c : Catalog) (history : List Draft) : Prop where
  /-- Kinds stand in strictly increasing order of the bytes of their identities. -/
  ordered : c.kinds.Pairwise fun k k' => Shader.utf8 k.id < Shader.utf8 k'.id
  /-- Every accepted draft is held once. -/
  complete : (c.kinds.map Kind.draft).Perm history

theorem records_empty : empty.Records [] := ⟨.nil, .refl []⟩

/-- What one more draft adds. -/
theorem Records.extend {c : Catalog} {history : List Draft} (h : c.Records history) (d : Draft) :
    (c.extend d).Records (history ++ if (c.register d).isOk then [d] else []) := by
  cases hregister : c.register d with
  | error refusal => simpa [extend_of_refused hregister, Except.isOk, Except.toBool] using h
  | ok c' =>
    obtain ⟨hfree, k, hk, rfl⟩ := register_eq_ok_iff.mp hregister
    have hdraft : k.draft = d := (Draft.toKind_eq_ok hk).2
    have hnew : ∀ other ∈ c.kinds, other.id ≠ k.id := by
      intro other hother
      simpa [← hdraft, Kind.draft] using List.find?_eq_none.mp hfree other hother
    rw [Catalog.extend, hregister]
    refine ⟨?_, ?_⟩
    · have hordered := h.ordered
      simp only [Shader.utf8_lt_iff] at hordered ⊢
      exact pairwise_insertOrdered hordered hnew
    · have hperm : ((insertOrdered k c.kinds).map Kind.draft).Perm (k.draft :: history) :=
        ((perm_insertOrdered k c.kinds).map _).trans (h.complete.cons _)
      rw [hdraft] at hperm
      exact hperm.trans (List.perm_append_singleton d history).symm

/-- What any number of drafts add. -/
theorem Records.foldl {c : Catalog} {history : List Draft} (h : c.Records history)
    (drafts : List Draft) :
    (drafts.foldl Catalog.extend c).Records (history ++ c.accepted drafts) := by
  induction drafts generalizing c history with
  | nil => simpa [accepted] using h
  | cons d rest ih =>
    rw [accepted, ← List.append_assoc]
    exact ih (h.extend d)

/-- Looking an identity up finds the first accepted draft that has it. -/
theorem Records.find?_eq {c : Catalog} {history : List Draft} (h : c.Records history)
    (hregistered : c.Registered) (id : String) :
    (c.find? id).map Kind.draft = history.find? (·.id == id) := by
  rw [← List.find?_eq_find?_of_perm h.complete, List.find?_map]
  · rfl
  · -- At most one draft qualifies, since an identity belongs to one kind.
    rintro d ⟨hd, hdid⟩ d' ⟨hd', hdid'⟩
    obtain ⟨k, hk, rfl⟩ := List.mem_map.mp hd
    obtain ⟨k', hk', rfl⟩ := List.mem_map.mp hd'
    have hid : k.id = k'.id := (beq_iff_eq.mp hdid).trans (beq_iff_eq.mp hdid').symm
    rw [hregistered.eq_of_id k hk k' hk' hid]

/-- Drafts without faults and with identities of their own are all accepted. -/
theorem accepted_eq_self {c : Catalog} {drafts : List Draft}
    (hfaultless : ∀ d ∈ drafts, d.faults = []) (hnodup : (drafts.map (·.id)).Nodup)
    (hfree : ∀ d ∈ drafts, c.find? d.id = none) : c.accepted drafts = drafts := by
  induction drafts generalizing c with
  | nil => rfl
  | cons d rest ih =>
    obtain ⟨hd, hrest⟩ := List.forall_mem_cons.mp hfaultless
    obtain ⟨hunique, hnodup⟩ := List.nodup_cons.mp hnodup
    obtain ⟨hdfree, hfree⟩ := List.forall_mem_cons.mp hfree
    obtain ⟨c', hc'⟩ := exists_register_iff.mpr ⟨hdfree, hd⟩
    have hlater : ∀ later ∈ rest, (c.extend d).find? later.id = none := by
      intro later hlater
      refine List.find?_eq_none.mpr fun k hk => ?_
      rcases mem_extend hk with hk | ⟨hk, -⟩
      · exact List.find?_eq_none.mp (hfree later hlater) k hk
      · have hid : k.id = d.id := congrArg (·.id) (Draft.toKind_eq_ok hk).2
        rw [hid, beq_iff_eq]
        exact fun heq => hunique (List.mem_map.mpr ⟨later, hlater, heq.symm⟩)
    rw [accepted, ih hrest hnodup hlater, hc']
    rfl

/-- The standard catalog records the standard kinds, none of which is refused. -/
theorem records_standard : standard.Records (Kind.standard.map Kind.draft) := by
  have haccepted :
      empty.accepted (Kind.standard.map Kind.draft) = Kind.standard.map Kind.draft := by
    refine accepted_eq_self ?_ (by rw [List.map_map]; decide +kernel) fun _ _ => rfl
    rintro d hd
    obtain ⟨k, hk, rfl⟩ := List.mem_map.mp hd
    exact Draft.exists_toKind_iff.mp ⟨k, Kind.toKind_draft hk⟩
  have hrecords := records_empty.foldl (Kind.standard.map Kind.draft)
  rwa [haccepted] at hrecords

/-- Whatever drafts are offered to the empty or to the standard catalog, it holds those it
accepted and nothing else. A draft is accepted if its identity is free and nothing is wrong with
it, which means that it is well formed. A refused draft leaves the catalog as it is. Looking an
identity up finds what was first accepted under it. -/
theorem holds_accepted (builtins : Bool) (drafts : List Draft) :
    let start := if builtins then standard else empty
    let history := (if builtins then Kind.standard.map Kind.draft else []) ++ start.accepted drafts
    let c := drafts.foldl Catalog.extend start
    c.Records history ∧
    (∀ d ∈ history, d.WellFormed) ∧
    (∀ id, (c.find? id).map Kind.draft = history.find? (·.id == id)) ∧
    ∀ d : Draft,
      ((∃ c', c.register d = .ok c') ↔ c.find? d.id = none ∧ d.faults = []) ∧
      (d.faults = [] ↔ d.WellFormed) ∧
      (d.WellFormed → ∀ p ∈ d.params,
        p.min.isNaN = false ∧ p.default.isNaN = false ∧ p.max.isNaN = false) ∧
      ∀ refusal, c.register d = .error refusal → c.extend d = c := by
  intro start history c
  have hstart : start.Records (if builtins then Kind.standard.map Kind.draft else []) := by
    cases builtins
    · exact records_empty
    · exact records_standard
  have hrecords : c.Records history := hstart.foldl drafts
  have hregistered : c.Registered := by
    refine ⟨(if builtins then Kind.standard.map Kind.draft else []) ++ drafts, ?_⟩
    rw [List.foldl_append]
    cases builtins <;> rfl
  refine ⟨hrecords, ?_, hrecords.find?_eq hregistered, fun d => ⟨exists_register_iff,
    d.faults_eq_nil_iff, Draft.WellFormed.isNaN, fun _ => extend_of_refused⟩⟩
  intro d hd
  obtain ⟨k, hk, rfl⟩ := List.mem_map.mp (hrecords.complete.mem_iff.mpr hd)
  exact k.draft.faults_eq_nil_iff.mp (hregistered.faultless k hk)

end Catalog

end FieldGraph
