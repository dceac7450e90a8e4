import FieldGraph.Proofs.Field.Build
import FieldGraph.Proofs.Shader.Generate
import FieldGraph.Proofs.Shader.Reuse
import FieldGraph.Session.Basic

/-!
# Validated graphs compile

Validation, ordering, the field and the shader are four walks over a graph. On graphs that edits
produce they agree: validation finds no error exactly when the other walks succeed, save for
conflicts of names that validation does not look for. A session edits its graph through commands
only, so none of its compilations ever meets a graph that no edit produces: the faults that would
end the program are out of reach.
-/

namespace FieldGraph

open FieldGraph.Graph

/-! ## The walks agree -/

namespace Graph

variable {g : Graph}

/-- Without errors there is an order that can be worked off. -/
theorem WellFormed.runnable_of_errors (h : g.WellFormed) (hnone : g.report.errors = []) :
    ∃ order, g.order = .ok order ∧ g.Runnable [] order := by
  obtain ⟨root, hroot, hcomplete⟩ := h.errors_report_iff.mp hnone
  obtain ⟨order, hok, horder⟩ := h.order_eq_ok hroot
  exact ⟨order, hok, horder.runnable h hroot hcomplete⟩

/-- With an order of complete nodes there are no errors. -/
theorem WellFormed.errors_of_complete (h : g.WellFormed) {order : List NodeId}
    (hok : g.order = .ok order)
    (hcomplete : ∀ id ∈ order, ∃ n, g.node? id = some n ∧ g.Complete n) :
    g.report.errors = [] := by
  cases hout : g.output with
  | none => simp [Graph.order, hout] at hok
  | some root =>
    obtain ⟨order', hok', horder⟩ := h.order_eq_ok hout
    obtain rfl : order = order' := Except.ok.inj (hok.symm.trans hok')
    refine h.errors_report_iff.mpr ⟨root, hout, ?_⟩
    intro n hn hpath
    obtain ⟨m, hm, hcomplete⟩ := hcomplete n.id ((horder.mem_iff n.id).mpr hpath)
    obtain rfl : n = m := Option.some.inj ((h.node?_iff.mpr ⟨hn, rfl⟩).symm.trans hm)
    exact hcomplete

/-- Validation finds no error exactly when there is an order and a field is built from it. -/
theorem WellFormed.errors_report_iff_field (h : g.WellFormed) (bounds : Box) :
    g.report.errors = [] ↔
      ∃ order field, g.order = .ok order ∧ Field.of g order bounds = .ok field := by
  constructor
  · intro hnone
    obtain ⟨order, hok, hrun⟩ := h.runnable_of_errors hnone
    obtain ⟨field, hfield⟩ := Field.exists_of_runnable hrun bounds
    exact ⟨order, field, hok, hfield⟩
  · rintro ⟨order, field, hok, hfield⟩
    obtain ⟨sampler, hbuild, -⟩ := bind_eq_ok_iff.mp hfield
    exact h.errors_of_complete hok (Field.complete_of_buildFrom hbuild)

/-- An accepted edit of a reached graph reaches another. -/
theorem Reached.edit {catalog : Catalog} (h : g.Reached catalog) {e : Edit} {receipt : Receipt}
    {g' : Graph} (hok : e.apply g = .ok (receipt, g')) : g'.Reached catalog := by
  obtain ⟨edits, rfl⟩ := h
  refine ⟨edits ++ [e], ?_⟩
  rw [Graph.run, List.foldl_append, List.foldl_cons, List.foldl_nil, ← Graph.run, Graph.edit, hok]

/-- Commands reach only what edits reach. -/
theorem Reached.command {catalog : Catalog} (h : g.Reached catalog) {command : Command}
    {effect : Command.Effect} {g' : Graph} (hok : command.apply g = .ok (effect, g')) :
    g'.Reached catalog := by
  cases command with
  | addNode kind position =>
    obtain ⟨⟨id, g₁⟩, hadd, hrest⟩ := bind_eq_ok_iff.mp hok
    obtain ⟨g₂, hplace, he⟩ := bind_eq_ok_iff.mp hrest
    cases he
    have h₁ : g₁.Reached catalog :=
      h.edit (e := .addNode kind) (map_eq_ok_iff.mpr ⟨_, hadd, rfl⟩)
    exact h₁.edit (e := .setPosition id position) (map_eq_ok_iff.mpr ⟨_, hplace, rfl⟩)
  | removeNode id =>
    obtain ⟨⟨conns, g₁⟩, hremove, he⟩ := bind_eq_ok_iff.mp hok
    cases he
    exact h.edit (e := .removeNode id) (map_eq_ok_iff.mpr ⟨_, hremove, rfl⟩)
  | connect src dst =>
    obtain ⟨⟨id, g₁⟩, hconnect, he⟩ := bind_eq_ok_iff.mp hok
    cases he
    exact h.edit (e := .connect src dst) (map_eq_ok_iff.mpr ⟨_, hconnect, rfl⟩)
  | disconnect id =>
    obtain ⟨g₁, hdisconnect, he⟩ := bind_eq_ok_iff.mp hok
    cases he
    exact h.edit (e := .disconnect id) (map_eq_ok_iff.mpr ⟨_, hdisconnect, rfl⟩)
  | setParameter node name value =>
    obtain ⟨g₁, hset, he⟩ := bind_eq_ok_iff.mp hok
    cases he
    exact h.edit (e := .setParameter node name value) (map_eq_ok_iff.mpr ⟨_, hset, rfl⟩)

end Graph

/-! ## Sessions -/

/-- The errors a compilation of an edited graph may end with: findings of validation and
conflicts of names. -/
inductive CompileError.Expected : CompileError → Prop where
  | validation (findings : List Diagnostic) : Expected (.validation findings)
  | nameConflict {e : GenerateError} (conflict : e.cause? = some .nameConflict) :
      Expected (.generate e)

namespace Session

/-- A call to a session. -/
inductive Call where
  | apply (command : Command)
  | recompile

/-- What is left of a call. -/
structure Outcome where
  session : Session
  /-- Why the session is invalid after the call. -/
  error : Option CompileError
  abort : Option Abort

/-- Call a session. -/
def call (s : Session) : Call → Outcome
  | .apply command =>
      let applied := s.apply command
      ⟨applied.session, applied.compileError, applied.abort⟩
  | .recompile =>
      let compilation := s.recompile
      ⟨compilation.session, compilation.error, compilation.abort⟩

/-- The outcomes of calls one after the other. -/
def outcomes (s : Session) : List Call → List Outcome
  | [] => []
  | c :: rest => s.call c :: (s.call c).session.outcomes rest

/-- What holds of a session between calls. -/
structure Sound (catalog : Catalog) (s : Session) : Prop where
  /-- Edits led to the graph. -/
  reached : s.graph.Reached catalog
  /-- The last compilation did not fail unexpectedly. -/
  expected : ∀ e, s.error = some e → e.Expected

variable {catalog : Catalog} {s : Session}

/-- How a compilation of an edited graph may end. Before the observers are told, once, there
are only records. -/
inductive Settles (s : Session) : Compilation → Prop where
  | valid {order : List NodeId} {shader : Shader} {compiler : Compiler} (records : List Record)
      (warnings : List Diagnostic) (ordered : s.graph.order = .ok order)
      (generated : s.compiler.generate s.graph order = (.ok shader, compiler)) :
      Settles s
        { session := { s with compiler, shader := some shader, state := .valid, error := none }
          events := records.map .log ++ [.compiled shader]
          warnings }
  | invalid {e : CompileError} (names : List (UInt64 × UInt64)) (records : List Record)
      (warnings : List Diagnostic) (expected : e.Expected)
      (fails : ∀ order shader compiler, s.graph.order = .ok order →
        s.compiler.generate s.graph order ≠ (.ok shader, compiler)) :
      Settles s
        { session := { s with compiler := { s.compiler with names }, state := .invalid
                              error := some e }
          events := records.map .log ++ [.failed e]
          warnings
          error := some e }

/-- Warnings are told as records. -/
theorem exists_records (warnings : List Diagnostic) :
    ∃ records : List Record, warnings.map warningEvent = records.map .log :=
  ⟨warnings.map fun d => ⟨.warn, "graph warning", [("node", .integer d.node),
    ("msg", .text d.text)]⟩, by rw [List.map_map]; rfl⟩

/-- A failure settles a compilation if there is no shader for the graph. -/
theorem settles_fail {e : CompileError} (expected : e.Expected)
    (fails : ∀ order shader compiler, s.graph.order = .ok order →
      s.compiler.generate s.graph order ≠ (.ok shader, compiler))
    (names : List (UInt64 × UInt64)) (records : List Record) (warnings : List Diagnostic) :
    let failed := { s with compiler := { s.compiler with names }, state := .compiling }.fail e
    s.Settles
      { session := failed.1
        events := records.map .log ++ failed.2
        warnings
        error := some e } := by
  unfold fail
  cases hnone : s.error.isNone with
  | true =>
    have h := Settles.invalid names
      (records ++ [⟨.info, "shader invalid", [("err", .text e.message)]⟩]) warnings expected fails
    simpa [hnone, textRecord] using h
  | false =>
    have h := Settles.invalid names
      (records ++ [⟨.debug, "compile failed", [("err", .text e.message)]⟩]) warnings expected fails
    simpa [hnone, textRecord] using h

/-- A generated shader settles a compilation. -/
theorem settles_succeed {order : List NodeId} {shader : Shader} {compiler : Compiler}
    (ordered : s.graph.order = .ok order)
    (generated : s.compiler.generate s.graph order = (.ok shader, compiler))
    (records : List Record) (warnings : List Diagnostic) :
    s.Settles
      { session := ({ s with state := .compiling }.succeed shader compiler).1
        events := records.map .log ++ ({ s with state := .compiling }.succeed shader compiler).2
        warnings } := by
  unfold succeed
  have hvalid := fun later => Settles.valid (records ++ later) warnings ordered generated
  cases hsome : s.error.isSome with
  | true =>
    have h := hvalid [⟨.debug, "compiled", [("generation", .integer shader.generation),
      ("nodes", .integer shader.nodes.length)]⟩,
      ⟨.info, "shader valid", [("generation", .integer shader.generation)]⟩]
    simpa [hsome] using h
  | false =>
    have h := hvalid [⟨.debug, "compiled", [("generation", .integer shader.generation),
      ("nodes", .integer shader.nodes.length)]⟩]
    simpa [hsome] using h

/-- A compilation of a well-formed graph settles. -/
theorem compile_settles (hwf : s.graph.WellFormed) : s.Settles s.compile := by
  unfold compile
  simp only [hwf.validate_eq, Report.failure?]
  obtain ⟨records, hrecords⟩ := exists_records s.graph.report.warnings
  rw [hrecords]
  cases herrors : s.graph.report.errors with
  | cons first rest =>
    refine settles_fail (.validation (first :: rest)) ?_ s.compiler.names records _
    -- A shader is only generated from complete nodes, in which validation finds no error.
    intro order shader compiler horder hgenerate
    obtain ⟨done, hdone, -⟩ := Compiler.generate_eq_ok_iff.mp hgenerate
    obtain ⟨-, hfrom, -⟩ := Compiler.finish_eq_ok_iff.mp hdone
    have hnone := hwf.errors_of_complete horder (Compiler.complete_of_generateFrom hfrom)
    simp [hnone] at herrors
  | nil =>
    obtain ⟨order, horder, hrun⟩ := hwf.runnable_of_errors herrors
    simp only [horder]
    rcases s.compiler.generate_cases hrun with ⟨shader, compiler, hok⟩ | ⟨e, after, herror, hcause⟩
    · simp only [hok]
      exact settles_succeed horder hok records _
    · obtain ⟨names, -, rfl⟩ := Compiler.generate_eq_error_iff.mp herror
      simp only [herror]
      refine settles_fail (.nameConflict hcause) ?_ names records _
      intro order' shader compiler horder' hgenerate
      cases horder.symm.trans horder'
      cases herror.symm.trans hgenerate

/-- A compilation of an edited graph ends normally, whatever error came before. -/
theorem compile_sound (hcat : catalog.Registered) (hgraph : s.graph.Reached catalog) :
    s.compile.abort = none ∧ s.compile.session.Sound catalog ∧
      ∀ e, s.compile.error = some e → e.Expected := by
  obtain ⟨hwf, -⟩ := hgraph.wellFormed hcat
  rcases s.compile, compile_settles hwf with
    ⟨_, ⟨records, warnings, -, -⟩ | ⟨_, records, warnings, he, -⟩⟩
  · exact ⟨rfl, ⟨hgraph, by simp⟩, by simp⟩
  · exact ⟨rfl, ⟨hgraph, by simpa using he⟩, by simpa using he⟩

/-- Every call ends normally and leaves a sound session. -/
theorem Sound.call (hcat : catalog.Registered) (h : s.Sound catalog) (c : Call) :
    (s.call c).abort = none ∧ (s.call c).session.Sound catalog ∧
      ∀ e, (s.call c).error = some e → e.Expected := by
  cases c with
  | recompile => exact compile_sound hcat h.reached
  | apply command =>
    rw [Session.call, Session.apply]
    cases happly : command.apply s.graph with
    | error e => exact ⟨rfl, h, h.expected⟩
    | ok result => exact compile_sound hcat (h.reached.command happly)

/-- Every outcome of every run of calls is normal. -/
theorem Sound.outcomes (hcat : catalog.Registered) (h : s.Sound catalog) (calls : List Call) :
    ∀ o ∈ s.outcomes calls, o.abort = none ∧ ∀ e, o.error = some e → e.Expected := by
  induction calls generalizing s with
  | nil => simp [Session.outcomes]
  | cons c rest ih =>
    obtain ⟨habort, hsound, hexpected⟩ := h.call hcat c
    rw [Session.outcomes, List.forall_mem_cons]
    exact ⟨⟨habort, hexpected⟩, ih hsound⟩

end Session

/-- Over every registered catalog the walks over an edited graph agree: validation always
reports, it finds no error exactly when there is an order and a field is built from it, and then
every compiler generates a shader or meets a conflict of names. Hence no call to a session ends
the program, and what keeps a session invalid are findings of validation and conflicts of names
only. -/
theorem validated_graphs_compile (drafts : List Draft) :
    let catalog := drafts.foldl Catalog.extend .empty
    (∀ edits : List Edit,
      let g := (Graph.empty catalog).run edits
      ∃ report, g.validate = .ok report ∧
        (∀ bounds, report.errors = [] ↔
          ∃ order field, g.order = .ok order ∧ Field.of g order bounds = .ok field) ∧
        (report.errors = [] → ∃ order, g.order = .ok order ∧ ∀ c : Compiler,
          (∃ shader c', c.generate g order = (.ok shader, c')) ∨
            ∃ e c', c.generate g order = (.error e, c') ∧ e.cause? = some .nameConflict)) ∧
    ∀ (compiler : Compiler) (tolerant : Bool) (calls : List Session.Call),
      ∀ outcome ∈ (Session.new catalog compiler tolerant).outcomes calls,
        outcome.abort = none ∧ ∀ e, outcome.error = some e → e.Expected := by
  intro catalog
  have hcat : catalog.Registered := ⟨drafts, rfl⟩
  refine ⟨?_, ?_⟩
  · intro edits g
    obtain ⟨hwf, -⟩ := Reached.wellFormed hcat ⟨edits, rfl⟩
    refine ⟨g.report, hwf.validate_eq, hwf.errors_report_iff_field, ?_⟩
    intro hnone
    obtain ⟨order, hok, hrun⟩ := hwf.runnable_of_errors hnone
    exact ⟨order, hok, fun c => c.generate_cases hrun⟩
  · intro compiler tolerant calls
    exact Session.Sound.outcomes hcat ⟨⟨[], rfl⟩, by simp [Session.new]⟩ calls

end FieldGraph
