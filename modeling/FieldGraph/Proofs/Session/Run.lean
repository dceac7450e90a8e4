import FieldGraph.Proofs.Session.Compile

/-!
# Runs of calls

A session is called again and again: commands that are refused, commands that are accepted and
requests to compile. What a single call can do is said once, by `apply_cases` and `call_cases`.
What holds between calls is the structure `Coherent`; what depends on the way to a session is
proved along its turns, from the last one back.
-/

namespace FieldGraph.Session

open FieldGraph.Graph

/-! ## Single calls -/

variable {catalog : Catalog} {s : Session}

/-- How a compilation settles does not depend on the state before it. -/
theorem Settles.of_state {state : SessionState} {compilation : Compilation}
    (h : { s with state }.Settles compilation) : s.Settles compilation := by
  cases h with
  | valid records warnings ordered generated => exact .valid records warnings ordered generated
  | invalid names records warnings expected fails =>
    exact .invalid names records warnings expected fails

/-- A command is refused and leaves no trace but a record, or the edited graph is compiled. -/
theorem apply_cases (hcat : catalog.Registered) (hgraph : s.graph.Reached catalog)
    (command : Command) :
    (∃ e record, command.apply s.graph = .error e ∧ s.apply command =
      { session := s, events := [.log record], refused := some e, compileError := s.error }) ∨
    ∃ effect graph record compilation, command.apply s.graph = .ok (effect, graph) ∧
      graph.Reached catalog ∧ { s with graph }.Settles compilation ∧ s.apply command =
        { session := compilation.session
          events := .log record :: compilation.events
          effect
          warnings := compilation.warnings
          compileError := compilation.error
          abort := compilation.abort } := by
  cases happly : command.apply s.graph with
  | error e => exact Or.inl ⟨e, _, rfl, by rw [Session.apply, happly]⟩
  | ok result =>
    obtain ⟨effect, graph⟩ := result
    have hreached : graph.Reached catalog := hgraph.command happly
    obtain ⟨hwf, -⟩ := hreached.wellFormed hcat
    have hsettles : { s with graph }.Settles (recompile { s with graph }) :=
      (compile_settles hwf).of_state
    exact Or.inr ⟨effect, graph, _, _, rfl, hreached, hsettles, by rw [Session.apply, happly]; rfl⟩

/-- Why a call is refused, if it is. -/
def refusal? (s : Session) : Call → Option EditError
  | .apply command => (s.apply command).refused
  | .recompile => none

/-- A call is refused and changes nothing, or a graph is compiled. -/
theorem call_cases (hcat : catalog.Registered) (hgraph : s.graph.Reached catalog) (c : Call) :
    (∃ e, s.refusal? c = some e ∧ s.call c = ⟨s, s.error, none⟩) ∨
    ∃ graph compilation, s.refusal? c = none ∧ graph.Reached catalog ∧
      { s with graph }.Settles compilation ∧
      s.call c = ⟨compilation.session, compilation.error, compilation.abort⟩ := by
  cases c with
  | recompile =>
    obtain ⟨hwf, -⟩ := hgraph.wellFormed hcat
    exact Or.inr ⟨s.graph, _, rfl, hgraph, (compile_settles hwf).of_state, rfl⟩
  | apply command =>
    rcases apply_cases hcat hgraph command with
      ⟨e, record, -, happly⟩ | ⟨effect, graph, record, compilation, -, hreached, hsettles, happly⟩
    · exact Or.inl ⟨e, by rw [refusal?, happly], by rw [call, happly]⟩
    · exact Or.inr ⟨graph, compilation, by rw [refusal?, happly], hreached, hsettles,
        by rw [call, happly]⟩

/-- A new node is live, so the command that adds one is refused only where no node is added. -/
theorem addNode_of_refusal {kind : String} {position : Vec2} {e : EditError}
    (h : s.refusal? (.apply (.addNode kind position)) = some e) :
    s.graph.addNode kind = .error e := by
  unfold refusal? Session.apply Command.apply at h
  cases hadd : s.graph.addNode kind with
  | error e' => simpa [hadd, bind, Except.bind] using h
  | ok result =>
    obtain ⟨id, g⟩ := result
    have hlive : g.isLive id = true := by
      cases step_of_addNode hadd with
      | push kind known single => simp [isLive, node?, pushNode]
    simp [hadd, bind, Except.bind, setPosition, hlive, pure, Except.pure] at h

/-! ## Between calls -/

/-- What holds of a session between calls, if it was given a compiler. -/
structure Coherent (catalog : Catalog) (compiler : Compiler) (s : Session) : Prop where
  /-- Edits led to the graph. -/
  reached : s.graph.Reached catalog
  dialect : s.compiler.dialect = compiler.dialect
  mode : s.compiler.mode = compiler.mode
  /-- There is an error exactly when the last compilation failed. -/
  error_iff : s.error = none ↔ s.state ≠ .invalid
  /-- The last good shader is the last one that the compiler counted. -/
  numbered : ∀ shader, s.shader = some shader → shader.generation = s.compiler.generation
  /-- The shader of a valid session is that of its graph. -/
  current : s.state = .valid → ∃ order done, s.graph.order = .ok order ∧
    s.compiler.finish s.graph order = .ok done ∧
    s.shader = some (s.compiler.shaderOf done s.compiler.generation)

variable {compiler : Compiler}

theorem coherent_new (catalog : Catalog) (compiler : Compiler) (tolerant : Bool) :
    (new catalog compiler tolerant).Coherent catalog compiler where
  reached := ⟨[], rfl⟩
  dialect := rfl
  mode := rfl
  error_iff := by simp [new]
  numbered := by simp [new]
  current := by simp [new]

/-- A compilation leaves a coherent session behind. -/
theorem Coherent.settles (h : s.Coherent catalog compiler) {graph : Graph}
    (hreached : graph.Reached catalog) {compilation : Compilation}
    (hsettles : { s with graph }.Settles compilation) :
    compilation.session.Coherent catalog compiler := by
  cases hsettles with
  | invalid names records warnings expected fails =>
    exact ⟨hreached, h.dialect, h.mode, by simp, h.numbered, by simp⟩
  | @valid order shader after records warnings ordered generated =>
    obtain ⟨done, hdone, rfl, rfl⟩ := Compiler.generate_eq_ok_iff.mp generated
    refine ⟨hreached, h.dialect, h.mode, by simp, ?_, ?_⟩
    · intro shader hshader
      obtain rfl := Option.some.inj hshader
      rfl
    · intro _
      have hdialect : s.compiler.dialect = (s.compiler.advance done).dialect := rfl
      have hmode : s.compiler.mode = (s.compiler.advance done).mode := rfl
      exact ⟨order, done, ordered, (Compiler.finish_eq_ok_congr hdialect hmode).mp hdone,
        congrArg some (Compiler.shaderOf_congr hdialect hmode done _)⟩

/-- Every call leaves a coherent session behind. -/
theorem Coherent.call (hcat : catalog.Registered) (h : s.Coherent catalog compiler) (c : Call) :
    (s.call c).session.Coherent catalog compiler := by
  rcases call_cases hcat h.reached c with ⟨e, -, hcall⟩ | ⟨graph, _, -, hreached, hsettles, hcall⟩
  · rw [hcall]
    exact h
  · rw [hcall]
    exact h.settles hreached hsettles

/-- The session after calls one after the other. -/
def after (s : Session) (calls : List Call) : Session :=
  calls.foldl (fun s c => (s.call c).session) s

theorem after_concat (s : Session) (calls : List Call) (c : Call) :
    s.after (calls ++ [c]) = ((s.after calls).call c).session := by
  rw [after, List.foldl_append]
  rfl

/-- Every run of calls leaves a coherent session behind. -/
theorem Coherent.after (hcat : catalog.Registered) (h : s.Coherent catalog compiler)
    (calls : List Call) : (s.after calls).Coherent catalog compiler := by
  induction calls generalizing s with
  | nil => exact h
  | cons c rest ih => exact ih (h.call hcat c)

/-- The shader of a valid session is what a compiler that has generated nothing yet makes of its
graph, up to the number. -/
theorem Coherent.exists_fresh (h : s.Coherent catalog compiler) (hvalid : s.state = .valid) :
    ∃ order shader counted, s.graph.order = .ok order ∧
      ({ dialect := compiler.dialect, mode := compiler.mode } : Compiler).generate s.graph order =
        (.ok shader, counted) ∧
      s.shader = some { shader with generation := s.generation } := by
  obtain ⟨order, done, horder, hdone, hshader⟩ := h.current hvalid
  have hnumber : s.generation = s.compiler.generation := by
    simp [generation, hshader, Compiler.shaderOf]
  let fresh : Compiler := { dialect := compiler.dialect, mode := compiler.mode }
  have hdialect : s.compiler.dialect = fresh.dialect := h.dialect
  have hmode : s.compiler.mode = fresh.mode := h.mode
  have hfresh : fresh.finish s.graph order = .ok done :=
    (Compiler.finish_eq_ok_congr hdialect hmode).mp hdone
  refine ⟨order, _, _, horder, Compiler.generate_eq_ok_iff.mpr ⟨done, hfresh, rfl, rfl⟩, ?_⟩
  rw [hshader, hnumber, Compiler.shaderOf_congr hdialect hmode]
  rfl

/-! ## Turns -/

/-- A call of a run, with the session it is made to. -/
structure Turn where
  before : Session
  call : Call

namespace Turn

/-- Why the call is refused, if it is. -/
def refusal? (t : Turn) : Option EditError := t.before.refusal? t.call

def outcome (t : Turn) : Outcome := t.before.call t.call

def after (t : Turn) : Session := t.outcome.session

/-- Whether a compilation succeeds. -/
def succeeds (t : Turn) : Bool := t.refusal?.isNone && t.outcome.error.isNone

/-- Whether a compilation fails. -/
def fails (t : Turn) : Bool := t.refusal?.isNone && t.outcome.error.isSome

end Turn

/-- The turns of calls one after the other. -/
def turns (s : Session) : List Call → List Turn
  | [] => []
  | c :: rest => ⟨s, c⟩ :: (s.call c).session.turns rest

theorem turns_concat (s : Session) (calls : List Call) (c : Call) :
    s.turns (calls ++ [c]) = s.turns calls ++ [⟨s.after calls, c⟩] := by
  induction calls generalizing s with
  | nil => rfl
  | cons first rest ih => exact congrArg (⟨s, first⟩ :: ·) (ih _)

/-- Every turn of a run starts from a coherent session. -/
theorem Coherent.before (hcat : catalog.Registered) (h : s.Coherent catalog compiler)
    (calls : List Call) : ∀ t ∈ s.turns calls, t.before.Coherent catalog compiler := by
  induction calls generalizing s with
  | nil => simp [turns]
  | cons c rest ih =>
    rw [turns, List.forall_mem_cons]
    exact ⟨h, ih (h.call hcat c)⟩

/-- How a turn may go: it is refused and changes nothing, it succeeds with the next shader, or it
fails and keeps the last one. -/
inductive Turn.Goes (t : Turn) : Prop where
  | refused (refusal : t.refusal?.isSome = true) (success : t.succeeds = false)
      (failure : t.fails = false) (same : t.after = t.before)
  | succeeds (accepted : t.refusal? = none) (success : t.succeeds = true)
      (failure : t.fails = false) (valid : t.after.state = .valid)
      (number : t.after.generation = t.before.compiler.generation + 1)
      (count : t.after.compiler.generation = t.before.compiler.generation + 1)
  | fails (accepted : t.refusal? = none) (success : t.succeeds = false)
      (failure : t.fails = true) (invalid : t.after.state = .invalid)
      (shader : t.after.shader = t.before.shader)
      (compiler : ∃ names, t.after.compiler = { t.before.compiler with names })

/-- A turn from a coherent session ends normally, in one of three ways. -/
theorem Coherent.goes (hcat : catalog.Registered) {t : Turn}
    (h : t.before.Coherent catalog compiler) : t.outcome.abort = none ∧ t.Goes := by
  have hafter : t.after = t.outcome.session := rfl
  rcases call_cases hcat h.reached t.call with
    ⟨e, hrefusal, hcall⟩ | ⟨graph, _, hrefusal, -, hsettles, hcall⟩
  · have houtcome : t.outcome = ⟨t.before, t.before.error, none⟩ := hcall
    have hrefused : t.refusal? = some e := hrefusal
    rw [houtcome] at hafter
    exact ⟨by rw [houtcome], .refused (by simp [hrefused]) (by simp [Turn.succeeds, hrefused])
      (by simp [Turn.fails, hrefused]) hafter⟩
  · have haccepted : t.refusal? = none := hrefusal
    cases hsettles with
    | valid records warnings ordered generated =>
      obtain ⟨done, -, rfl, rfl⟩ := Compiler.generate_eq_ok_iff.mp generated
      have houtcome := (rfl : t.outcome = _).trans hcall
      rw [houtcome] at hafter
      exact ⟨by rw [houtcome], .succeeds haccepted (by simp [Turn.succeeds, haccepted, houtcome])
        (by simp [Turn.fails, houtcome]) (by rw [hafter])
        (by rw [hafter]; rfl) (by rw [hafter]; rfl)⟩
    | invalid names records warnings expected fails =>
      have houtcome := (rfl : t.outcome = _).trans hcall
      rw [houtcome] at hafter
      exact ⟨by rw [houtcome], .fails haccepted (by simp [Turn.succeeds, houtcome])
        (by simp [Turn.fails, haccepted, houtcome]) (by rw [hafter]) (by rw [hafter])
        ⟨names, by rw [hafter]⟩⟩

/-! ## Along a run -/

/-- The last valid session that the calls of a run lead to. -/
def lastValid? (s : Session) (calls : List Call) : Option Session :=
  ((s.turns calls).map Turn.after).reverse.find? (·.state == .valid)

theorem lastValid?_concat (s : Session) (calls : List Call) (c : Call) :
    s.lastValid? (calls ++ [c]) =
      if (s.after (calls ++ [c])).state = .valid then some (s.after (calls ++ [c]))
      else s.lastValid? calls := by
  have hlast : Turn.after ⟨s.after calls, c⟩ = s.after (calls ++ [c]) :=
    (after_concat s calls c).symm
  rw [lastValid?, turns_concat, List.map_append, List.reverse_append, List.map_singleton,
    List.reverse_singleton, List.singleton_append, List.find?_cons, hlast]
  by_cases hvalid : (s.after (calls ++ [c])).state = .valid
  · simp [hvalid]
  · rw [if_neg hvalid, beq_eq_false_iff_ne.mpr hvalid]
    rfl

/-- The calls that compile with success. -/
def successes (s : Session) (calls : List Call) : List Turn :=
  (s.turns calls).filter Turn.succeeds

theorem successes_concat (s : Session) (calls : List Call) (c : Call) :
    s.successes (calls ++ [c]) = s.successes calls ++
      if Turn.succeeds ⟨s.after calls, c⟩ then [⟨s.after calls, c⟩] else [] := by
  rw [successes, turns_concat, List.filter_append, List.filter_singleton, Bool.cond_eq_ite]
  rfl

section Runs

variable (hcat : catalog.Registered) (h : s.Coherent catalog compiler) (calls : List Call)

include hcat h

/-- The last of several calls goes as a turn does. -/
theorem Coherent.goes_last (c : Call) : Turn.Goes ⟨s.after calls, c⟩ :=
  (Coherent.goes hcat (t := ⟨s.after calls, c⟩) (h.after hcat calls)).2

/-- Once something was compiled, a session is valid or invalid. -/
theorem Coherent.settled_after (haccepted : ∃ t ∈ s.turns calls, t.refusal? = none) :
    (s.after calls).state = .valid ∨ (s.after calls).state = .invalid := by
  induction calls using List.reverseRecOn with
  | nil => simp [turns] at haccepted
  | append_singleton calls c ih =>
    rw [turns_concat] at haccepted
    rw [after_concat]
    cases h.goes_last hcat calls c with
    | refused refusal _ _ same =>
      obtain ⟨t, ht, hnone⟩ := haccepted
      rcases List.mem_append.mp ht with hearlier | hlast
      · have hstate := ih ⟨t, hearlier, hnone⟩
        rwa [← show _ = s.after calls from same] at hstate
      · rw [List.mem_singleton.mp hlast] at hnone
        simp [hnone] at refusal
    | succeeds _ _ _ valid => exact Or.inl valid
    | fails _ _ _ invalid => exact Or.inr invalid

/-- The shader is that of the last valid session. -/
theorem Coherent.shader_after (hnone : s.shader = none) :
    (s.after calls).shader = (s.lastValid? calls).bind (·.shader) := by
  induction calls using List.reverseRecOn with
  | nil => exact hnone
  | append_singleton calls c ih =>
    rw [lastValid?_concat]
    split
    · rfl
    next hnot =>
      rw [← ih, after_concat]
      rw [after_concat] at hnot
      cases h.goes_last hcat calls c with
      | refused _ _ _ same => exact congrArg Session.shader same
      | succeeds _ _ _ valid => exact absurd valid hnot
      | fails _ _ _ _ shader => exact shader

/-- The compiler counts the compilations that succeed. -/
theorem Coherent.generation_after :
    (s.after calls).compiler.generation =
      s.compiler.generation + (s.successes calls).length := by
  induction calls using List.reverseRecOn with
  | nil => rfl
  | append_singleton calls c ih =>
    rw [successes_concat, List.length_append, ← Nat.add_assoc, ← ih, after_concat]
    cases h.goes_last hcat calls c with
    | refused _ success _ same =>
      rw [success]
      exact congrArg (·.compiler.generation) same
    | succeeds _ success _ _ _ count =>
      rw [success]
      exact count
    | fails _ success _ _ _ kept =>
      obtain ⟨names, kept⟩ := kept
      have hcount := congrArg Compiler.generation kept
      rw [success]
      exact hcount

/-- Compilations that succeed are numbered one after the other. -/
theorem Coherent.generations :
    (s.successes calls).map (·.after.generation) =
      List.range' (s.compiler.generation + 1) (s.successes calls).length := by
  induction calls using List.reverseRecOn with
  | nil => rfl
  | append_singleton calls c ih =>
    rw [successes_concat]
    cases h.goes_last hcat calls c with
    | refused _ success => simpa [success] using ih
    | fails _ success => simpa [success] using ih
    | succeeds _ success _ _ number =>
      have hcount := h.generation_after hcat calls
      rw [success, if_pos rfl, List.map_append, ih, List.map_singleton, number,
        List.length_append, List.length_singleton, List.range'_concat, hcount]
      simp [Nat.add_right_comm]

end Runs

/-- Over every registered catalog, along every run of calls to a new session with a compiler of
its own: once a call was accepted the session is valid or invalid, and it has an error exactly
when it is invalid. A valid session shows what a fresh compiler generates from its graph, up to
the number; an invalid one shows the shader of the last valid session. Compilations that succeed
are numbered one after the other, those that fail change neither the shader nor anything of the
compiler but its table of names, and a refused call changes nothing at all. -/
theorem runs_track_graph (drafts : List Draft) (compiler : Compiler) (tolerant : Bool)
    (calls : List Call) :
    let start := Session.new (drafts.foldl Catalog.extend .empty) compiler tolerant
    let s := start.after calls
    ((∃ t ∈ start.turns calls, t.refusal? = none) → s.state = .valid ∨ s.state = .invalid) ∧
    (s.error = none ↔ s.state ≠ .invalid) ∧
    (s.state = .valid → ∃ order shader counted, s.graph.order = .ok order ∧
      ({ dialect := compiler.dialect, mode := compiler.mode } : Compiler).generate s.graph order =
        (.ok shader, counted) ∧
      s.shader = some { shader with generation := s.generation }) ∧
    (s.state = .invalid → s.shader = (start.lastValid? calls).bind (·.shader)) ∧
    (start.successes calls).map (·.after.generation) =
      List.range' (compiler.generation + 1) (start.successes calls).length ∧
    ∀ t ∈ start.turns calls, t.outcome.abort = none ∧
      (t.fails = true → t.after.shader = t.before.shader ∧
        ∃ names, t.after.compiler = { t.before.compiler with names }) ∧
      (t.refusal?.isSome = true → t.after = t.before) ∧
      ∀ kind position e, t.call = .apply (.addNode kind position) → t.refusal? = some e →
        t.before.graph.addNode kind = .error e := by
  intro start s
  have hcat : (drafts.foldl Catalog.extend .empty).Registered := ⟨drafts, rfl⟩
  have hstart := coherent_new (drafts.foldl Catalog.extend .empty) compiler tolerant
  have hs := hstart.after hcat calls
  refine ⟨hstart.settled_after hcat calls, hs.error_iff, hs.exists_fresh,
    fun _ => hstart.shader_after hcat calls rfl, hstart.generations hcat calls, ?_⟩
  intro t ht
  obtain ⟨habort, hgoes⟩ := (hstart.before hcat calls t ht).goes hcat
  refine ⟨habort, ?_, ?_, ?_⟩
  · intro hfails
    cases hgoes with
    | refused _ _ failure => simp [failure] at hfails
    | succeeds _ _ failure => simp [failure] at hfails
    | fails _ _ _ _ shader compiler => exact ⟨shader, compiler⟩
  · intro hrefused
    cases hgoes with
    | refused _ _ _ same => exact same
    | succeeds accepted => simp [accepted] at hrefused
    | fails accepted => simp [accepted] at hrefused
  · intro kind position e hcall hrefusal
    rw [Turn.refusal?, hcall] at hrefusal
    exact addNode_of_refusal hrefusal

end FieldGraph.Session
