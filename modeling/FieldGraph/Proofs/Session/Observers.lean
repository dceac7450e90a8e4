import FieldGraph.Proofs.Session.Run

/-!
# What observers see of a run

Observers of a session are told of compilations and get its records. What a single compilation
tells is read off its three ways to fail and the one to succeed: observers are told once, of what
is current then, and the session speaks up only if it failed before and does not now, or the other
way round. Along a run what was said last is whether the last compilation failed, so what is said
of note are the changes of that, and changes between two words alternate.
-/

namespace FieldGraph

/-! ## Events -/

/-- The shader and the error that an observer of compilations is called with. -/
def Event.notice? : Event → Option (Option Shader × Option CompileError)
  | .compiled shader => some (some shader, none)
  | .failed error => some (none, some error)
  | .log _ => none

/-- The record of an event that is of note and no warning. -/
def Event.info? : Event → Option Record
  | .log record => if record.level = .info then some record else none
  | _ => none

namespace Session

/-- What observers of compilations are told, call by call. -/
def notices (events : List Event) : List (Option Shader × Option CompileError) :=
  events.filterMap Event.notice?

/-- The messages of the records of note. -/
def infos (events : List Event) : List String := (events.filterMap Event.info?).map (·.message)

@[simp] theorem notices_nil : notices [] = [] := rfl

@[simp] theorem notices_append (first second : List Event) :
    notices (first ++ second) = notices first ++ notices second := List.filterMap_append

@[simp] theorem notices_log (record : Record) (rest : List Event) :
    notices (.log record :: rest) = notices rest := rfl

@[simp] theorem notices_compiled (shader : Shader) (rest : List Event) :
    notices (.compiled shader :: rest) = (some shader, none) :: notices rest := rfl

@[simp] theorem notices_failed (e : CompileError) (rest : List Event) :
    notices (.failed e :: rest) = (none, some e) :: notices rest := rfl

@[simp] theorem infos_nil : infos [] = [] := rfl

@[simp] theorem infos_append (first second : List Event) :
    infos (first ++ second) = infos first ++ infos second := by
  simp [infos, List.filterMap_append]

@[simp] theorem infos_log (record : Record) (rest : List Event) :
    infos (.log record :: rest) =
      if record.level = .info then record.message :: infos rest else infos rest := by
  by_cases h : record.level = .info <;> simp [infos, Event.info?, h]

@[simp] theorem infos_compiled (shader : Shader) (rest : List Event) :
    infos (.compiled shader :: rest) = infos rest := rfl

@[simp] theorem infos_failed (e : CompileError) (rest : List Event) :
    infos (.failed e :: rest) = infos rest := rfl

/-- Warnings are neither compilations nor of note. -/
@[simp] theorem notices_warnings (warnings : List Diagnostic) :
    notices (warnings.map warningEvent) = [] := by
  simp [notices, warningEvent, Event.notice?]

@[simp] theorem infos_warnings (warnings : List Diagnostic) :
    infos (warnings.map warningEvent) = [] := by
  simp [infos, warningEvent, Event.info?]

/-- What a session says when compilations start to fail, or to succeed again. -/
def word (failed : Bool) : String := if failed then "shader invalid" else "shader valid"

/-! ## Compilations -/

/-- What a compilation shows if the one before `failed` or did not: observers are told once, of the
shader or the error that the session has then, and a change is said once. -/
inductive Tells (failed : Bool) (events : List Event) (after : Session) :
    Option CompileError → Prop where
  | success {shader : Shader} (current : after.shader = some shader) (error : after.error = none)
      (notice : notices events = [(some shader, none)])
      (info : infos events = if failed then [word false] else []) : Tells failed events after none
  | failure {e : CompileError} (error : after.error = some e)
      (notice : notices events = [(none, some e)])
      (info : infos events = if failed then [] else [word true]) :
      Tells failed events after (some e)

/-- Other things may be told before. -/
theorem Tells.prepend {failed : Bool} {before events : List Event} {after : Session}
    {e : Option CompileError} (hnotices : notices before = []) (hinfos : infos before = [])
    (h : Tells failed events after e) : Tells failed (before ++ events) after e := by
  cases h with
  | success current error notice info =>
    exact .success current error (by simp [hnotices, notice]) (by simp [hinfos, info])
  | failure error notice info =>
    exact .failure error (by simp [hnotices, notice]) (by simp [hinfos, info])

/-- The outcome is the error that the session has then. -/
theorem Tells.error_eq {failed : Bool} {events : List Event} {after : Session}
    {e : Option CompileError} (h : Tells failed events after e) : after.error = e := by
  cases h with
  | success _ error => exact error
  | failure error => exact error

/-- What is said of note is whether compilations fail now, if they did not before, or the other way
round. -/
theorem Tells.info_eq {failed : Bool} {events : List Event} {after : Session}
    {e : Option CompileError} (h : Tells failed events after e) :
    infos events = if failed = e.isSome then [] else [word e.isSome] := by
  cases h with
  | success _ _ _ info => cases failed <;> simpa using info
  | failure _ _ info => cases failed <;> simpa using info

theorem tells_fail (s : Session) (e : CompileError) :
    Tells s.error.isSome (s.fail e).2 (s.fail e).1 (some e) := by
  refine .failure rfl ?_ ?_ <;> cases herror : s.error <;> simp [fail, herror, textRecord, word]

theorem tells_succeed (s : Session) (shader : Shader) (compiler : Compiler) :
    Tells s.error.isSome (s.succeed shader compiler).2 (s.succeed shader compiler).1 none := by
  refine .success rfl rfl ?_ ?_ <;> cases herror : s.error <;>
    simp [succeed, herror, word]

/-- A compilation that does not end the program tells its outcome. -/
theorem compile_tells (s : Session) (h : s.compile.abort = none) :
    Tells s.error.isSome s.compile.events s.compile.session s.compile.error := by
  have hfail : ∀ (compiler : Compiler) (e : CompileError) {before : List Event},
      notices before = [] → infos before = [] → Tells s.error.isSome
        (before ++ ({ s with state := .compiling, compiler }.fail e).2)
        ({ s with state := .compiling, compiler }.fail e).1 (some e) :=
    fun compiler e _ hnotices hinfos =>
      (tells_fail { s with state := .compiling, compiler } e).prepend hnotices hinfos
  unfold compile at h ⊢
  cases hvalidate : s.graph.validate with
  | error cause => simp [hvalidate] at h
  | ok report =>
    have hnotices : notices (report.warnings.map warningEvent) = [] := notices_warnings _
    have hinfos : infos (report.warnings.map warningEvent) = [] := infos_warnings _
    simp only [hvalidate] at h ⊢
    cases hfailure : report.failure? with
    | some findings => exact hfail s.compiler _ hnotices hinfos
    | none =>
      simp only [hfailure] at h ⊢
      cases horder : s.graph.order with
      | error e =>
        simp only [horder] at h ⊢
        cases e with
        | noOutput => exact hfail s.compiler _ hnotices hinfos
        | breakdown cause => simp at h
        | cycle path =>
          dsimp only at h ⊢
          by_cases htolerant : s.tolerant = true
          · rw [if_pos htolerant]
            have hviolation : ∀ text, notices (report.warnings.map warningEvent ++
                [textRecord .error "invariant violation" "err" text]) = [] ∧
                infos (report.warnings.map warningEvent ++
                  [textRecord .error "invariant violation" "err" text]) = [] := by
              simp [textRecord]
            exact hfail s.compiler _ (hviolation _).1 (hviolation _).2
          · simp [htolerant] at h
      | ok order =>
        simp only [horder] at h ⊢
        obtain ⟨outcome, compiler⟩ := s.compiler.generate s.graph order
        cases outcome with
        | error e => exact hfail compiler _ hnotices hinfos
        | ok shader =>
          exact (tells_succeed { s with state := .compiling } shader compiler).prepend
            hnotices hinfos

/-! ## Calls -/

/-- What happens during a call. -/
def Turn.events (t : Turn) : List Event :=
  match t.call with
  | .apply command => (t.before.apply command).events
  | .recompile => t.before.recompile.events

/-- A call that is refused tells nothing; any other tells the outcome of its compilation. -/
theorem Turn.tells (t : Turn) (h : t.outcome.abort = none) :
    t.refusal?.isSome = true ∧ notices t.events = [] ∧ infos t.events = [] ∨
    t.refusal? = none ∧ Tells t.before.error.isSome t.events t.after t.outcome.error := by
  obtain ⟨s, call⟩ := t
  cases call with
  | recompile => exact .inr ⟨rfl, compile_tells { s with state := .dirty } h⟩
  | apply command =>
    change (s.apply command).abort = none at h
    change (s.apply command).refused.isSome = true ∧ notices (s.apply command).events = [] ∧
        infos (s.apply command).events = [] ∨
      (s.apply command).refused = none ∧ Tells s.error.isSome (s.apply command).events
        (s.apply command).session (s.apply command).compileError
    unfold Session.apply at h ⊢
    cases happly : command.apply s.graph with
    | error e => exact .inl ⟨rfl, by simp, by simp⟩
    | ok result =>
      obtain ⟨effect, graph⟩ := result
      simp only [happly] at h
      have hquiet : notices [textRecord .debug "command applied" "cmd" command.text] = [] ∧
          infos [textRecord .debug "command applied" "cmd" command.text] = [] := by
        simp [textRecord]
      exact .inr ⟨rfl, (compile_tells { s with graph, state := .dirty } h).prepend
        hquiet.1 hquiet.2⟩

/-! ## Runs -/

variable {catalog : Catalog} {compiler : Compiler} {s : Session}

/-- Whether the compilations of a run failed, one after the other. -/
def verdicts (s : Session) (calls : List Call) : List Bool :=
  ((s.turns calls).filter (·.refusal?.isNone)).map Turn.fails

theorem verdicts_cons (s : Session) (c : Call) (rest : List Call) :
    s.verdicts (c :: rest) =
      (if Turn.refusal? ⟨s, c⟩ = none then [Turn.fails ⟨s, c⟩] else []) ++
        (s.call c).session.verdicts rest := by
  rw [verdicts, turns]
  cases hrefusal : Turn.refusal? ⟨s, c⟩ <;> simp [verdicts, hrefusal]

/-- Observers get the shaders of the calls that compile with success. -/
theorem Coherent.shaders_notices (hcat : catalog.Registered) (h : s.Coherent catalog compiler)
    (calls : List Call) :
    ((notices ((s.turns calls).flatMap Turn.events)).filterMap (·.1)).map (·.generation) =
      (s.successes calls).map (·.after.generation) := by
  have hturn : ∀ t ∈ s.turns calls, ((notices t.events).filterMap (·.1)).map (·.generation) =
      if t.succeeds then [t.after.generation] else [] := by
    intro t ht
    obtain ⟨habort, -⟩ := (h.before hcat calls t ht).goes hcat
    rcases t.tells habort with ⟨hrefused, hnotices, -⟩ | ⟨haccepted, htells⟩
    · have hnot : t.succeeds = false := by
        rw [Turn.succeeds, Option.isNone_eq_false_iff.mpr hrefused, Bool.false_and]
      simp [hnotices, hnot]
    · unfold Turn.succeeds Session.generation
      rw [haccepted]
      generalize t.outcome.error = e at htells
      cases htells with
      | success current _ notice => simp [notice, current]
      | failure _ notice => simp [notice]
  unfold successes
  generalize s.turns calls = ts at hturn
  induction ts with
  | nil => rfl
  | cons t rest ih =>
    obtain ⟨hfirst, hrest⟩ := List.forall_mem_cons.mp hturn
    rw [List.flatMap_cons, notices_append, List.filterMap_append, List.map_append, hfirst, ih hrest]
    cases hsucceeds : t.succeeds <;> simp [hsucceeds]

/-- Dropping repeated values keeps the first. -/
theorem destutter'_eq_cons (first : Bool) (rest : List Bool) :
    rest.destutter' (· ≠ ·) first = first :: (rest.destutter' (· ≠ ·) first).tail := by
  induction rest generalizing first with
  | nil => rfl
  | cons second rest ih =>
    by_cases hne : first ≠ second
    · rw [List.destutter'_cons_pos _ hne, List.tail_cons]
    · rw [List.destutter'_cons_neg _ hne]
      exact ih first

/-- Of two values in a row the second is a change if it differs from the first. -/
theorem tail_destutter'_cons (first second : Bool) (rest : List Bool) :
    ((second :: rest).destutter' (· ≠ ·) first).tail =
      (if first = second then [] else [second]) ++ (rest.destutter' (· ≠ ·) second).tail := by
  by_cases hne : first ≠ second
  · rw [List.destutter'_cons_pos _ hne, if_neg hne, List.tail_cons, List.singleton_append]
    exact destutter'_eq_cons second rest
  · rw [List.destutter'_cons_neg _ hne, if_pos (not_not.mp hne), not_not.mp hne, List.nil_append]

/-- What a session says of note are the changes between compilations that succeed and ones that
fail. -/
theorem Coherent.infos_turns (hcat : catalog.Registered) (h : s.Coherent catalog compiler)
    (calls : List Call) :
    infos ((s.turns calls).flatMap Turn.events) =
      ((s.verdicts calls).destutter' (· ≠ ·) s.error.isSome).tail.map word := by
  induction calls generalizing s with
  | nil => rfl
  | cons c rest ih =>
    have hlater := ih (h.call hcat c)
    obtain ⟨habort, hgoes⟩ := Coherent.goes hcat (t := ⟨s, c⟩) h
    rw [turns, List.flatMap_cons, infos_append, hlater, verdicts_cons]
    rcases Turn.tells ⟨s, c⟩ habort with ⟨hrefused, -, hinfos⟩ | ⟨haccepted, htells⟩
    · have hsame : (s.call c).session = s := by
        cases hgoes with
        | refused _ _ _ same => exact same
        | succeeds accepted => simp [accepted] at hrefused
        | fails accepted => simp [accepted] at hrefused
      rw [hinfos, if_neg (Option.isSome_iff_ne_none.mp hrefused), hsame]
      rfl
    · have hfails : Turn.fails ⟨s, c⟩ = (s.call c).error.isSome := by
        rw [Turn.fails, haccepted]
        rfl
      have herror : (s.call c).session.error = (s.call c).error := htells.error_eq
      rw [htells.info_eq, if_pos haccepted, List.singleton_append, tail_destutter'_cons, hfails,
        herror, List.map_append, apply_ite (List.map word)]
      rfl

/-- What alternates between two words is known by its length. -/
theorem eq_range_of_isChain {first : Bool} {rest : List Bool}
    (h : (first :: rest).IsChain (· ≠ ·)) :
    rest = (List.range rest.length).map fun i => (i % 2 == 0) != first := by
  induction rest generalizing first with
  | nil => rfl
  | cons second rest ih =>
    obtain ⟨hne, hrest⟩ := List.isChain_cons_cons.mp h
    have hsecond : second = !first := Bool.eq_not_of_ne hne.symm
    rw [List.length_cons, List.range_succ_eq_map, List.map_cons, List.map_map]
    nth_rewrite 1 [ih hrest]
    rw [hsecond]
    congr 1
    · cases first <;> rfl
    · refine List.map_congr_left fun i _ => ?_
      rcases Nat.mod_two_eq_zero_or_one i with hi | hi <;> cases first <;>
        simp [Nat.add_mod, hi]

/-- Over every registered catalog, along every run of calls to a new session: a refused call tells
observers nothing, and any other tells them exactly once of the shader that is current right after
it, or of the error that the session has then. The shaders they get are numbered one after the
other. What is said of note alternates, starting with a failure, and there is one record for every
change between a compilation that succeeds, or none at all, and one that fails. -/
theorem observers_see_compilations (drafts : List Draft) (compiler : Compiler) (tolerant : Bool)
    (calls : List Call) :
    let start := Session.new (drafts.foldl Catalog.extend .empty) compiler tolerant
    let told := (start.turns calls).flatMap Turn.events
    (∀ t ∈ start.turns calls,
      (t.refusal?.isSome = true → notices t.events = []) ∧
      (t.refusal? = none →
        (∃ shader, notices t.events = [(some shader, none)] ∧ t.after.shader = some shader ∧
          t.after.error = none) ∨
        ∃ e, notices t.events = [(none, some e)] ∧ t.after.error = some e)) ∧
    ((notices told).filterMap (·.1)).map (·.generation) =
      List.range' (compiler.generation + 1) ((notices told).filterMap (·.1)).length ∧
    infos told = ((List.range (infos told).length).map fun i =>
      if i % 2 = 0 then "shader invalid" else "shader valid") ∧
    infos told = ((false :: start.verdicts calls).destutter (· ≠ ·)).tail.map word := by
  intro start told
  have hcat : (drafts.foldl Catalog.extend .empty).Registered := ⟨drafts, rfl⟩
  have hstart := coherent_new (drafts.foldl Catalog.extend .empty) compiler tolerant
  have hshaders := hstart.shaders_notices hcat calls
  have hinfos : infos told = ((false :: start.verdicts calls).destutter (· ≠ ·)).tail.map word :=
    hstart.infos_turns hcat calls
  refine ⟨?_, ?_, ?_, hinfos⟩
  · intro t ht
    obtain ⟨habort, -⟩ := (hstart.before hcat calls t ht).goes hcat
    rcases t.tells habort with ⟨hrefused, hnotices, -⟩ | ⟨haccepted, htells⟩
    · exact ⟨fun _ => hnotices, fun hnone => by simp [hnone] at hrefused⟩
    · refine ⟨fun hrefused => by simp [haccepted] at hrefused, fun _ => ?_⟩
      generalize t.outcome.error = e at htells
      cases htells with
      | success current error notice => exact .inl ⟨_, notice, current, error⟩
      | failure error notice => exact .inr ⟨_, notice, error⟩
  · have hlength := congrArg List.length hshaders
    rw [List.length_map, List.length_map] at hlength
    rw [hlength, hshaders]
    exact hstart.generations hcat calls
  · have hchain := List.isChain_destutter' (· ≠ ·) (start.verdicts calls) false
    rw [destutter'_eq_cons] at hchain
    rw [hinfos, List.destutter_cons', List.length_map]
    nth_rewrite 1 [eq_range_of_isChain hchain]
    rw [List.map_map]
    exact List.map_congr_left fun i _ => by simp [word]

end Session

end FieldGraph
