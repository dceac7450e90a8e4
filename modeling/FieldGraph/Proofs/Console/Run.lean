import FieldGraph.Console.Run
import FieldGraph.Proofs.Scene.Steps

/-!
# What the command asks of the back end

The writers of programs and the setting of the work group have preconditions that they do not
check in a way a user should see. The options are checked where the command line is read, the
compiler is set up from them, and a load that succeeds leaves a valid session, whose shader is in
the language of its compiler. So no run ends with a failure that shows a broken precondition.
-/

namespace FieldGraph

/-! ## Loads -/

/-- A valid session shows a shader in the language and mode of its compiler. -/
theorem Session.Coherent.shader_of_valid {catalog : Catalog} {compiler : Compiler} {s : Session}
    (h : s.Coherent catalog compiler) (hvalid : s.state = .valid) :
    ∃ shader, s.shader = some shader ∧ shader.dialect = compiler.dialect ∧
      shader.mode = compiler.mode := by
  obtain ⟨order, done, -, -, hshader⟩ := h.current hvalid
  exact ⟨_, hshader, h.dialect, h.mode⟩

namespace Scene

open Session

variable {catalog : Catalog} {compiler : Compiler} {s : Session}

section

variable (hcat : catalog.Registered)

include hcat

/-- A load that succeeds leaves a valid session. -/
theorem valid_of_load (hs : s.Coherent catalog compiler) {source : Except FileError String}
    (h : (load source s).error = none) : (load source s).session.state = .valid := by
  unfold load at h ⊢
  split at h
  · cases h
  · split at h
    · cases h
    next scene _ =>
      obtain ⟨hcleared, -⟩ := Loaded.clear (l := { session := s }) hcat rfl hs
      rw [Loaded.session_place hcleared]
      exact ((Loaded.error_place_iff hcleared scene).mp h).2.2

/-- A load never breaks the session down. -/
theorem load_ne_aborted (hs : s.Coherent catalog compiler) (source : Except FileError String)
    (cause : Abort) : (load source s).error ≠ some (.aborted cause) := by
  unfold load
  split
  · simp
  · split
    · simp
    next scene _ =>
      obtain ⟨herror, hcleared, -⟩ := Loaded.clear (l := { session := s }) hcat rfl hs
      rw [Loaded.place, herror]
      simp only [abort_apply hcat hcleared scene]
      cases (scene.apply _).error with
      | some e => simp
      | none =>
        simp only [Option.isSome_none, Bool.false_eq_true, if_false]
        split <;> simp

end

end Scene

namespace Shader

/-- A sink complains only that it is full. -/
theorem Sink.eq_full_of_writeAll {sink : Sink} {chunks : List (List UInt8)} {error : WriteError}
    (h : (sink.writeAll chunks).error = some error) : error = .full := by
  induction chunks generalizing sink with
  | nil => cases h
  | cons chunk rest ih =>
    unfold writeAll at h
    split at h
    next n error' sink' hwrite =>
      have hfirst : (sink.write chunk).error = some error := by
        rw [hwrite]
        exact h
      unfold write at hfirst
      split at hfirst
      · cases hfirst
      · dsimp only at hfirst
        split at hfirst
        · exact (Option.some.inj hfirst).symm
        · cases hfirst
    · exact ih h

/-- The fragment program of a shader in its language is refused by a full sink only. -/
theorem eq_full_of_writeVisualizer {s : Shader} (hs : s.dialect = .glsl) {sink : Sink}
    {error : WriteError} (h : (s.writeVisualizer sink).error = some error) : error = .full := by
  rw [writeVisualizer, if_neg (not_not.mpr hs)] at h
  exact Sink.eq_full_of_writeAll h

/-- The compute program of a shader in its language is refused only if it is not accepted. -/
theorem eq_rejected_of_compileCompute {s : Shader} (hs : s.dialect = .wgsl) {workGroup : Nat}
    {fault : CompileFault} (h : compileCompute (some s) workGroup = .error fault) :
    fault = .rejected := by
  simp only [compileCompute, hs, ne_eq, not_true_eq_false, if_false] at h
  split at h
  · cases h
  · exact (Except.error.inj h).symm

end Shader

namespace Console

/-! ## Options -/

/-- A check that does not refuse leaves the rest to be done. -/
theorem check_eq_ok_iff {ε α : Type} {c : Prop} [Decidable c] {e : ε} {rest : Unit → Except ε α}
    {a : α} :
    (if c then throw e >>= rest else rest ()) = .ok a ↔ ¬ c ∧ rest () = .ok a := by
  by_cases h : c
  · simp [h, throw, throwThe, MonadExceptOf.throw, bind, Except.bind]
  · simp [h]

/-- Options that were accepted fit together. -/
structure Options.Fitting (o : Options) : Prop where
  frag : o.mode = .frag → o.dialect = .glsl
  spirv : o.mode = .spirv → o.dialect = .wgsl
  invocations : 1 ≤ o.invocations

theorem Options.fitting_of_ofFlags {given : Given} {scene : String} {o : Options}
    (h : ofFlags given scene = .ok o) : o.Fitting := by
  obtain ⟨dialect, -, h⟩ := bind_eq_ok_iff.mp h
  obtain ⟨mode, -, h⟩ := bind_eq_ok_iff.mp h
  obtain ⟨hfrag, h⟩ := check_eq_ok_iff.mp h
  obtain ⟨hspirv, h⟩ := check_eq_ok_iff.mp h
  obtain ⟨-, h⟩ := check_eq_ok_iff.mp h
  obtain ⟨-, h⟩ := check_eq_ok_iff.mp h
  obtain ⟨hinvocations, h⟩ := check_eq_ok_iff.mp h
  obtain ⟨-, h⟩ := check_eq_ok_iff.mp h
  obtain ⟨logFormat, -, h⟩ := bind_eq_ok_iff.mp h
  obtain ⟨logLevel, -, h⟩ := bind_eq_ok_iff.mp h
  have hpositive : 1 ≤ (given.integerOf "invocations" 32).toNat := by omega
  cases h
  exact ⟨fun hmode => not_not.mp fun hne => hfrag ⟨hmode, hne⟩,
    fun hmode => not_not.mp fun hne => hspirv ⟨hmode, hne⟩, hpositive⟩

theorem Options.fitting_of_run {arguments : List String} {o : Options}
    (h : Request.ofArguments arguments = .run o) : o.Fitting := by
  unfold Request.ofArguments at h
  split at h
  · cases h
  · cases h
  · cases h
  · split at h
    next hflags =>
      cases h
      exact fitting_of_ofFlags hflags
    next => cases h
  · cases h

/-- The compiler that fitting options ask for. -/
theorem Options.Fitting.compiler_eq {o : Options} (h : o.Fitting) :
    o.compiler = .ok
      { dialect := o.dialect
        mode := if o.uniforms then .uniform else .inline
        workGroup := o.invocations } := by
  have hpositive : ¬ (o.invocations : Int) < 1 := by
    have := h.invocations
    omega
  simp [Options.compiler, Compiler.setWorkGroup, hpositive]

/-! ## Failures -/

/-- Whether a failure shows that something was called outside of its contract. -/
def Failure.isBreach : Failure → Bool
  | .workGroup _ => true
  | .program (.visualizerDialect _) => true
  | .compile .noShader => true
  | .compile (.wrongDialect _) => true
  | .load _ (.aborted _) => true
  | _ => false

variable {σ α β : Type}

/-- What something that may fail comes to, with the state of the host after it. -/
def outcome (x : ExceptT Failure (StateM σ) α) (state : σ) : Except Failure α × σ :=
  x.run.run state

theorem outcome_bind (x : ExceptT Failure (StateM σ) α) (f : α → ExceptT Failure (StateM σ) β)
    (state : σ) :
    outcome (x >>= f) state =
      match outcome x state with
      | (.ok a, state) => outcome (f a) state
      | (.error failure, state) => (.error failure, state) := by
  unfold outcome
  rw [ExceptT.run_bind, StateT.run_bind]
  obtain ⟨result, after⟩ := x.run.run state
  cases result <;> rfl

theorem outcome_lift (x : StateM σ α) (state : σ) :
    outcome (liftM x) state = (.ok (x.run state).1, (x.run state).2) := rfl

/-- All failures have a property. -/
def FailsOnly (P : Failure → Prop) (x : ExceptT Failure (StateM σ) α) : Prop :=
  ∀ state failure, (outcome x state).1 = .error failure → P failure

namespace FailsOnly

variable {P : Failure → Prop}

theorem pure (a : α) : FailsOnly P (Pure.pure a : ExceptT Failure (StateM σ) α) := by
  intro state failure h
  cases h

theorem throw {failure : Failure} (h : P failure) :
    FailsOnly P (MonadExcept.throw failure : ExceptT Failure (StateM σ) α) := by
  intro state failure' h'
  cases h'
  exact h

theorem lift (x : StateM σ α) : FailsOnly P (liftM x : ExceptT Failure (StateM σ) α) := by
  intro state failure h
  cases h

theorem bind {x : ExceptT Failure (StateM σ) α} {f : α → ExceptT Failure (StateM σ) β}
    (hx : FailsOnly P x) (hf : ∀ a, FailsOnly P (f a)) : FailsOnly P (x >>= f) := by
  intro state failure h
  rw [outcome_bind] at h
  split at h
  next a state' hx' => exact hf a state' failure h
  next failure' state' hx' =>
    cases h
    exact hx state failure (by rw [hx'])

/-- Nothing follows a failure. -/
theorem stop {failure : Failure} {f : α → ExceptT Failure (StateM σ) β} (h : P failure) :
    FailsOnly P (MonadExcept.throw failure >>= f) := by
  intro state failure' h'
  cases h'
  exact h

/-- Something may be done first under a condition. -/
theorem first {c : Prop} [Decidable c] {x : ExceptT Failure (StateM σ) Unit}
    {rest : Unit → ExceptT Failure (StateM σ) β} (hx : FailsOnly P x)
    (hrest : ∀ u, FailsOnly P (rest u)) : FailsOnly P (if c then x >>= rest else rest ()) := by
  split
  · exact bind hx hrest
  · exact hrest ()

end FailsOnly

/-! ## Runs -/

variable {host : Host (StateM σ)} {o : Options}

/-- Fitting options ask for nothing that a shader in their language cannot give. -/
theorem Options.Fitting.artifact_error (h : o.Fitting) {compiler : Compiler} {shader : Shader}
    (hdialect : shader.dialect = o.dialect) {failure : Failure}
    (herror : o.artifact compiler shader = .error failure) : failure.isBreach = false := by
  unfold Options.artifact at herror
  split at herror
  · cases herror
  · cases herror
  next hmode =>
    split at herror
    next error hwrite =>
      rw [Shader.eq_full_of_writeVisualizer (hdialect.trans (h.frag hmode)) hwrite] at herror
      cases herror
      rfl
    · cases herror
  · cases herror
  next hmode =>
    split at herror
    · cases herror
    next fault hcompile =>
      rw [Shader.eq_rejected_of_compileCompute (hdialect.trans (h.spirv hmode)) hcompile] at herror
      cases herror
      rfl

/-- Delivering fails where no file can be made or there is nothing to deliver. -/
theorem failsOnly_deliver (path : Option String) {artifact : Except Failure Artifact}
    (h : ∀ failure, artifact = .error failure → failure.isBreach = false) :
    FailsOnly (·.isBreach = false) (deliver host path artifact) := by
  unfold deliver
  cases path with
  | none =>
    cases artifact with
    | ok artifact => exact .lift _
    | error failure => exact .throw (h failure rfl)
  | some path =>
    refine .bind (.lift _) fun made => ?_
    cases made with
    | error error => exact .stop rfl
    | ok _ =>
      cases artifact with
      | ok artifact => exact .lift _
      | error failure => exact .throw (h failure rfl)

/-- The program of a session that shows a shader in the language of the options. -/
theorem Options.Fitting.failsOnly_writeProgram (h : o.Fitting) {s : Session} {shader : Shader}
    (hshader : s.shader = some shader) (hdialect : shader.dialect = o.dialect) :
    FailsOnly (·.isBreach = false) (writeProgram host o s) := by
  rw [writeProgram, hshader]
  exact failsOnly_deliver o.output fun _ => h.artifact_error hdialect

theorem failsOnly_writePicture (path : String) (gpu : Bool) (size z : Float32) (graph : Graph) :
    FailsOnly (·.isBreach = false) (writePicture host path gpu size z graph) := by
  unfold writePicture
  split
  · exact .throw rfl
  · refine failsOnly_deliver _ fun failure hfailure => ?_
    split at hfailure
    · cases hfailure
    · cases hfailure
      rfl

/-- What a load that succeeds shows is what the options ask for. -/
theorem Options.shader_of_load (o : Options) {compiler : Compiler}
    (hdialect : compiler.dialect = o.dialect) {source : Except FileError String}
    (h : (Scene.load source (.new .standard compiler)).error = none) :
    ∃ shader, (Scene.load source (.new .standard compiler)).session.shader = some shader ∧
      shader.dialect = o.dialect ∧ shader.mode = compiler.mode := by
  have hnew := Session.coherent_new .standard compiler false
  have hleads := Scene.leads_load Catalog.standard_registered hnew source
  have hvalid := Scene.valid_of_load Catalog.standard_registered hnew h
  obtain ⟨shader, hshader, hd, hm⟩ := hleads.coherent.shader_of_valid hvalid
  exact ⟨shader, hshader, hd.trans hdialect, hm⟩

/-- Fitting options never lead outside of a contract. -/
theorem Options.Fitting.failsOnly_runOptions (h : o.Fitting) :
    FailsOnly (·.isBreach = false) (runOptions host o) := by
  unfold runOptions
  rw [h.compiler_eq]
  refine .bind (.lift _) fun source => .bind (.lift _) fun _ => ?_
  split
  next error herror =>
    refine .throw ?_
    cases error with
    | aborted cause =>
      exact absurd herror (Scene.load_ne_aborted Catalog.standard_registered
        (Session.coherent_new .standard _ false) source cause)
    | _ => rfl
  next hloaded =>
    obtain ⟨shader, hshader, hdialect, -⟩ := o.shader_of_load rfl hloaded
    have hend : FailsOnly (·.isBreach = false)
        (if o.ui then throw (.window (Device.windowFault true)) else pure () :
          ExceptT Failure (StateM σ) Unit) := by
      split
      · exact .throw rfl
      · exact .pure _
    refine .bind (.lift _) fun _ => .first (h.failsOnly_writeProgram hshader hdialect) fun _ => ?_
    cases o.png with
    | none => exact hend
    | some path =>
      exact .bind (failsOnly_writePicture path _ _ _ _) fun _ => .bind (.lift _) fun _ => hend

/-- A command line that is accepted prints nothing by itself. -/
theorem run_eq_runOptions {arguments : List String}
    (h : Request.ofArguments arguments = .run o) : run host arguments = runOptions host o := by
  unfold run
  rw [h]
  rfl

/-- A command line that is refused ends the run. -/
theorem outcome_run_refused {arguments : List String} {error : UsageError}
    (h : Request.ofArguments arguments = .refused error) (state : σ) :
    (outcome (run host arguments) state).1 = .error (.usage error) := by
  unfold run
  rw [h]
  dsimp only
  split <;> rfl

/-- No run leads outside of a contract. -/
theorem failsOnly_run (arguments : List String) :
    FailsOnly (·.isBreach = false) (run host arguments) := by
  cases h : Request.ofArguments arguments with
  | help =>
    unfold run
    rw [h]
    exact .first (.lift _) fun _ => .pure _
  | refused error =>
    intro state failure hfailure
    rw [outcome_run_refused h] at hfailure
    cases hfailure
    rfl
  | run o =>
    rw [run_eq_runOptions h]
    exact (Options.fitting_of_run h).failsOnly_runOptions

/-- Passing on events adds records and nothing else. -/
theorem logEvents_desk (events : List Event) (desk : Desk) :
    ∃ records, (logEvents Desk.host events).run desk = ((), { desk with records }) := by
  induction events generalizing desk with
  | nil => exact ⟨desk.records, rfl⟩
  | cons event rest ih =>
    cases event with
    | log record => exact ih { desk with records := desk.records ++ [record] }
    | compiled shader => exact ih desk
    | failed error => exact ih desk

/-- A load that fails ends the run, which has told the log about it and nobody else. -/
theorem outcome_load_failed {compiler : Compiler} (hcompiler : o.compiler = .ok compiler)
    {desk : Desk} {error : Scene.LoadError}
    (herror : (Scene.load (desk.directory.read o.scene) (.new .standard compiler)).error =
      some error) :
    ∃ records, outcome (runOptions Desk.host o) desk =
      (.error (.load o.scene error), { desk with records }) := by
  obtain ⟨records, hlogged⟩ := logEvents_desk
    (Scene.load (desk.directory.read o.scene) (.new .standard compiler)).events desk
  refine ⟨records, ?_⟩
  unfold runOptions
  rw [hcompiler]
  have hread : (Desk.host.read o.scene).run desk = (desk.directory.read o.scene, desk) := rfl
  rw [outcome_bind, outcome_lift, hread]
  dsimp only
  rw [outcome_bind, outcome_lift, hlogged, herror]
  rfl

/-- For every command line and every working directory: no run ends with a failure that shows a
broken contract. A command line that is refused ends the run with the exit code 2. Accepted
options give a compiler, whose work group they may have. Whatever the scene file holds, a load
that succeeds shows a shader in the language and mode that the options ask for, so that writing
the program of it keeps to the contract; a load that fails ends the run with the exit code 1, and
nothing has been printed. -/
theorem run_keeps_contract (arguments : List String) (desk : Desk) :
    let request := Request.ofArguments arguments
    let result := outcome (run Desk.host arguments) desk
    (∀ failure, result.1 = .error failure → failure.isBreach = false) ∧
    (∀ error, request = .refused error →
      ∃ failure, result.1 = .error failure ∧ failure.code? = some 2) ∧
    ∀ o, request = .run o → ∃ compiler, o.compiler = .ok compiler ∧
      (∀ source, (Scene.load source (.new .standard compiler)).error = none →
        ∃ shader, (Scene.load source (.new .standard compiler)).session.shader = some shader ∧
          shader.dialect = o.dialect ∧
          shader.mode = (if o.uniforms then .uniform else .inline) ∧
          ∀ state failure, (outcome (writeProgram Desk.host o
            (Scene.load source (.new .standard compiler)).session) state).1 = .error failure →
            failure.isBreach = false) ∧
      ∀ error,
        (Scene.load (desk.directory.read o.scene) (.new .standard compiler)).error = some error →
        ∃ failure, result.1 = .error failure ∧ failure.code? = some 1 ∧
          result.2.printed = desk.printed := by
  intro request result
  refine ⟨failsOnly_run arguments desk, ?_, ?_⟩
  · intro error hrefused
    exact ⟨.usage error, outcome_run_refused hrefused desk, rfl⟩
  · intro o hrun
    have hfitting := Options.fitting_of_run hrun
    refine ⟨_, hfitting.compiler_eq, ?_, ?_⟩
    · intro source hloaded
      obtain ⟨shader, hshader, hdialect, hmode⟩ := o.shader_of_load rfl hloaded
      exact ⟨shader, hshader, hdialect, hmode, hfitting.failsOnly_writeProgram hshader hdialect⟩
    · intro error herror
      obtain ⟨records, hended⟩ := outcome_load_failed hfitting.compiler_eq herror
      have hresult : result = _ :=
        (congrArg (outcome · desk) (run_eq_runOptions hrun)).trans hended
      rw [hresult]
      exact ⟨_, rfl, rfl, rfl⟩

/-- A scene that shows a plane. -/
def planeShown : String :=
  "node \"a\" \x7b\n  kind = \"plane\"\n\x7d\nnode \"o\" \x7b\n  kind = \"output\"\n\x7d\n" ++
  "connect \x7b\n  from = \"a.distance\"\n  to   = \"o.distance\"\n\x7d\n"

/-- A command line that asks for a compiled program of a file without a name. -/
def spirvArguments : List String := ["-mode", "SPIRV", "-target=wgsl", ""]

/-- The options of a request. -/
def Request.options? : Request → Option Options
  | run o => some o
  | refused _ => none
  | help => none

theorem Request.options?_eq_some {request : Request} {o : Options}
    (h : request.options? = some o) : request = .run o := by
  cases request with
  | run o => rw [Option.some.inj h]
  | refused error => cases h
  | help => cases h

/-- The plane would be shown in the language that compiled programs need; as there is no such file,
the load fails and nothing is printed. -/
theorem run_keeps_contract_planeShown :
    (∃ o compiler, Request.ofArguments spirvArguments = .run o ∧ o.mode = .spirv ∧
      o.compiler = .ok compiler ∧
      ∃ shader, (Scene.load (.ok planeShown) (.new .standard compiler)).session.shader =
        some shader ∧ shader.dialect = .wgsl) ∧
    ∃ failure, (outcome (run Desk.host spirvArguments) {}).1 = .error failure ∧
      failure.code? = some 1 ∧ (outcome (run Desk.host spirvArguments) {}).2.printed = [] := by
  have hread : (Request.ofArguments spirvArguments).options?.map (fun o =>
      (o.mode, o.dialect, o.uniforms, o.invocations, o.scene)) =
      some (.spirv, .wgsl, false, 32, "") := by
    decide +kernel
  have hloaded : (Scene.load (.ok planeShown)
      (.new .standard { dialect := .wgsl, workGroup := 32 })).error.isNone = true := by
    rw [Catalog.standard_eq]
    decide +kernel
  obtain ⟨o, hoptions, hfields⟩ := Option.map_eq_some_iff.mp hread
  simp only [Prod.mk.injEq] at hfields
  obtain ⟨hmode, hdialect, huniforms, hinvocations, hscene⟩ := hfields
  have hcompiler : o.compiler = .ok { dialect := .wgsl, workGroup := 32 } := by
    rw [Options.compiler, hdialect, huniforms, hinvocations]
    rfl
  have hmissing : Directory.read {} o.scene = .error ⟨.access, "", .missing⟩ := by
    rw [hscene]
    decide +kernel
  have hrequest := Request.options?_eq_some hoptions
  obtain ⟨-, -, hcontract⟩ := run_keeps_contract spirvArguments {}
  obtain ⟨compiler, hgiven, hshown, hfailed⟩ := hcontract o hrequest
  obtain rfl := Except.ok.inj (hcompiler.symm.trans hgiven)
  obtain ⟨shader, hshader, hlanguage, -⟩ := hshown _ (Option.isNone_iff_eq_none.mp hloaded)
  refine ⟨⟨o, _, hrequest, hmode, hcompiler, shader, hshader, hlanguage.trans hdialect⟩,
    hfailed (.file ⟨.access, "", .missing⟩) ?_⟩
  rw [hmissing]
  rfl

end Console

end FieldGraph
