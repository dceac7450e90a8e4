import FieldGraph.Proofs.Graph.Growth
import FieldGraph.Proofs.Scene.Reload

/-!
# Scenes as lists of steps

A scene asks for commands in a fixed order: every node followed by its parameters, then the links.
Names stand for numbers that are known beforehand, since nodes are numbered in the order of their
declarations. Applying a scene performs these steps one after the other and ends with the first
one that is refused; the names it has learned are those of the nodes added until then.
-/

namespace FieldGraph

namespace Session

variable {catalog : Catalog} {compiler : Compiler} {s : Session}

/-- A command never breaks a coherent session down. -/
theorem Coherent.abort_eq (hcat : catalog.Registered) (h : s.Coherent catalog compiler)
    (c : Command) : (s.apply c).abort = none := by
  rcases apply_cases hcat h.reached c with ⟨_, _, -, happly⟩ | ⟨_, _, _, _, -, -, hsettles, happly⟩
  · rw [happly]
  · rw [happly, hsettles.abort_eq]

/-- An accepted command edits the graph. -/
theorem Coherent.accepted (hcat : catalog.Registered) (h : s.Coherent catalog compiler)
    {c : Command} (hrefused : (s.apply c).refused = none) :
    c.apply s.graph = .ok ((s.apply c).effect, (s.apply c).session.graph) := by
  rcases apply_cases hcat h.reached c with
    ⟨e, _, -, happly⟩ | ⟨effect, graph, _, compilation, hok, -, hsettles, happly⟩
  · simp [happly] at hrefused
  · rw [happly, hok, hsettles.graph_eq]

/-- A refused command leaves the session alone. -/
theorem Coherent.refused (hcat : catalog.Registered) (h : s.Coherent catalog compiler)
    {c : Command} {e : EditError} (hrefused : (s.apply c).refused = some e) :
    (s.apply c).session = s := by
  rcases apply_cases hcat h.reached c with ⟨_, _, -, happly⟩ | ⟨_, _, _, _, -, -, -, happly⟩
  · rw [happly]
  · simp [happly] at hrefused

end Session

namespace Scene

open Session

/-- One command that a scene asks for. -/
inductive Step where
  /-- To add a node. -/
  | add (d : Declaration)
  /-- To set a parameter of a declared node. -/
  | set (d : Declaration) (p : Param)
  /-- To connect two ports. -/
  | join (link : Link)

namespace Step

/-- The name of the node that a step adds. -/
def added? : Step → Option String
  | add d => some d.name
  | set _ _ => none
  | join _ => none

/-- How a refused command of the step is reported. -/
def refusal : Step → EditError → ApplyError
  | add d => .node d.span d.name
  | set d p => .node p.span d.name
  | join link => .connect link

/-- The command of a step, if the ports it names exist. -/
def command (number : String → NodeId) (g : Graph) : Step → Except ApplyError Command
  | add d => .ok (.addNode d.kind d.position)
  | set d p => .ok (.setParameter (number d.name) p.name p.value)
  | join link => do
      let source ← (g.portNamed (number link.source.node) true link.source.port).mapError
        (.endpoint link.span link.source)
      let target ← (g.portNamed (number link.target.node) false link.target.port).mapError
        (.endpoint link.span link.target)
      return .connect source target

/-- The session after a step, or why the step is refused. -/
def perform (number : String → NodeId) (s : Session) (step : Step) :
    Except ApplyError Session := do
  let command ← step.command number s.graph
  match (s.apply command).refused with
  | some error => .error (step.refusal error)
  | none => .ok (s.apply command).session

/-- A link is connected between the ports that it names. -/
theorem command_join {number : String → NodeId} {g : Graph} {link : Link} {c : Command}
    (h : (join link).command number g = .ok c) :
    ∃ source target, g.portNamed (number link.source.node) true link.source.port = .ok source ∧
      g.portNamed (number link.target.node) false link.target.port = .ok target ∧
      c = .connect source target := by
  obtain ⟨source, hsource, hrest⟩ := bind_eq_ok_iff.mp h
  obtain ⟨target, htarget, hc⟩ := bind_eq_ok_iff.mp hrest
  have hport : ∀ {x : Except Reason Port} {f : Reason → ApplyError} {p : Port},
      x.mapError f = .ok p → x = .ok p := by
    rintro (_ | _) f p hx
    · cases hx
    · rw [Except.ok.inj hx]
  exact ⟨source, target, hport hsource, hport htarget, (Except.ok.inj hc).symm⟩

/-- A step that adds a node uses up a number. -/
theorem lastNode_eq {number : String → NodeId} {step : Step} {g g' : Graph}
    (hwf : g.WellFormed) {c : Command} {effect : Command.Effect}
    (hcommand : step.command number g = .ok c) (hok : c.apply g = .ok (effect, g')) :
    g'.lastNode = g.lastNode + step.added?.toList.length := by
  cases step with
  | add d =>
    cases hcommand
    obtain ⟨kind, -, -, rfl⟩ := Command.apply_addNode hwf hok
    rfl
  | set d p =>
    cases hcommand
    obtain ⟨n, index, -, -, rfl⟩ := Command.apply_setParameter hok
    exact (Int.add_zero _).symm
  | join link =>
    obtain ⟨source, target, -, -, rfl⟩ := command_join hcommand
    rw [Command.apply_connect hok]
    rfl

end Step

/-- The steps of a declared node. -/
def Declaration.steps (d : Declaration) : List Step := .add d :: d.params.map (.set d)

/-- The names of the declared nodes. -/
def names (scene : Scene) : List String := scene.nodes.map (·.name)

/-- All steps of a scene. -/
def steps (scene : Scene) : List Step :=
  scene.nodes.flatMap Declaration.steps ++ scene.links.map .join

/-- The number that a name stands for if the first node gets the number after the last one. -/
def number (scene : Scene) (last : NodeId) (name : String) : NodeId :=
  last + 1 + scene.names.idxOf name

/-- The names of the nodes that steps add. -/
def added (steps : List Step) : List String := steps.filterMap Step.added?

@[simp] theorem added_append (first second : List Step) :
    added (first ++ second) = added first ++ added second :=
  List.filterMap_append ..

@[simp] theorem added_joins (links : List Link) : added (links.map .join) = [] := by
  simp [added, Step.added?]

@[simp] theorem added_declaration (d : Declaration) : added d.steps = [d.name] := by
  simp [Declaration.steps, added, Step.added?]

@[simp] theorem added_declarations (nodes : List Declaration) :
    added (nodes.flatMap Declaration.steps) = nodes.map (·.name) := by
  induction nodes with
  | nil => rfl
  | cons d rest ih => rw [List.flatMap_cons, added_append, added_declaration, ih]; rfl

/-- The steps of a scene add its nodes. -/
theorem added_steps (scene : Scene) : added scene.steps = scene.names := by
  rw [steps, added_append, added_declarations, added_joins, List.append_nil, names]

/-! ## Applying step by step -/

/-- Perform one more step of an application. -/
def Applied.perform (a : Applied) : Step → Applied
  | .add d =>
      if a.isOpen then
        let (added, effect) := a.command (.addNode d.kind d.position) (.node d.span d.name)
        if added.error.isNone then { added with ids := (d.name, effect.node) :: added.ids }
        else added
      else a
  | .set d p => a.setParam d.name p
  | .join link => a.connect link

/-- Nothing more is performed once something has ended the application. -/
theorem Applied.perform_of_closed {a : Applied} (h : a.isOpen = false) (step : Step) :
    a.perform step = a := by
  cases step with
  | add d => rw [perform, h, if_neg Bool.false_ne_true]
  | set d p => rw [perform, setParam, h, if_neg Bool.false_ne_true]
  | join link => rw [perform, connect, h, if_neg Bool.false_ne_true]

theorem Applied.foldl_perform_of_closed {a : Applied} (h : a.isOpen = false) (steps : List Step) :
    steps.foldl perform a = a := by
  induction steps with
  | nil => rfl
  | cons step rest ih => rw [List.foldl_cons, perform_of_closed h, ih]

/-- A declaration performs its steps. -/
theorem Applied.declare_eq_foldl (a : Applied) (d : Declaration) :
    a.declare d = d.steps.foldl perform a := by
  have hset : ∀ b : Applied, d.params.foldl (setParam d.name) b =
      (d.params.map (.set d)).foldl perform b := by
    intro b
    rw [List.foldl_map]
    rfl
  rw [Declaration.steps, List.foldl_cons, declare_eq, perform]
  cases hopen : a.isOpen with
  | false =>
    rw [if_neg Bool.false_ne_true, if_neg Bool.false_ne_true, foldl_perform_of_closed hopen]
  | true =>
    simp only [if_true]
    cases herror : (a.command (.addNode d.kind d.position) (.node d.span d.name)).1.error with
    | none => exact hset _
    | some e =>
      refine (foldl_perform_of_closed ?_ _).symm
      simp [isOpen, herror]

/-- Applying a scene performs its steps. -/
theorem apply_eq_foldl (scene : Scene) (s : Session) :
    scene.apply s = scene.steps.foldl Applied.perform { session := s } := by
  have hnodes : ∀ a : Applied, scene.nodes.foldl Applied.declare a =
      (scene.nodes.flatMap Declaration.steps).foldl Applied.perform a := by
    intro a
    rw [List.foldl_flatMap]
    exact congrArg (scene.nodes.foldl · a) (funext₂ Applied.declare_eq_foldl)
  rw [Scene.apply, steps, List.foldl_append, List.foldl_map, hnodes]
  rfl

section

variable {catalog : Catalog} {compiler : Compiler} (hcat : catalog.Registered)

include hcat

/-- A step never breaks the session down. -/
theorem Applied.abort_perform {a : Applied} (hs : a.session.Coherent catalog compiler)
    (habort : a.abort = none) (step : Step) :
    (a.perform step).session.Coherent catalog compiler ∧ (a.perform step).abort = none := by
  have hcommand : ∀ c refusal, (a.command c refusal).1.session.Coherent catalog compiler ∧
      (a.command c refusal).1.abort = none :=
    fun c _ => ⟨(hs.leads_apply hcat c).coherent, hs.abort_eq hcat c⟩
  cases step with
  | add d =>
    rw [Applied.perform]
    split
    · dsimp only
      split <;> exact hcommand (.addNode d.kind d.position) (.node d.span d.name)
    · exact ⟨hs, habort⟩
  | set d p =>
    rw [Applied.perform, Applied.setParam]
    split
    · exact hcommand _ _
    · exact ⟨hs, habort⟩
  | join link =>
    rw [Applied.perform, Applied.connect]
    split
    · dsimp only
      split
      · exact ⟨hs, habort⟩
      · split
        · exact ⟨hs, habort⟩
        · exact hcommand _ _
    · exact ⟨hs, habort⟩

/-- Applying a scene never breaks the session down. -/
theorem abort_apply {s : Session} (hs : s.Coherent catalog compiler) (scene : Scene) :
    (scene.apply s).abort = none := by
  rw [apply_eq_foldl]
  refine (List.foldlRecOn scene.steps Applied.perform (motive := fun a : Applied =>
    a.session.Coherent catalog compiler ∧ a.abort = none) ⟨hs, rfl⟩ ?_).2
  intro a ha step _
  exact Applied.abort_perform hcat ha.1 ha.2 step

end

/-! ## The order of the steps -/

/-- A step comes after others in turn: the node it adds is the next one declared, or the nodes it
names were added before. -/
def Step.Due (scene : Scene) (done : List Step) : Step → Prop
  | add d => added done ++ [d.name] <+: scene.names
  | set d _ => d.name ∈ added done
  | join link => link.source.node ∈ added done ∧ link.target.node ∈ added done

/-- Further steps all come in turn. -/
def AllDue (scene : Scene) : (done rest : List Step) → Prop
  | _, [] => True
  | done, step :: rest => step.Due scene done ∧ AllDue scene (done ++ [step]) rest

theorem allDue_append {scene : Scene} {done first second : List Step} :
    AllDue scene done (first ++ second) ↔
      AllDue scene done first ∧ AllDue scene (done ++ first) second := by
  induction first generalizing done with
  | nil => simp [AllDue]
  | cons step rest ih => simp [AllDue, ih, and_assoc]

theorem allDue_sets {scene : Scene} {done : List Step} {d : Declaration}
    (h : d.name ∈ added done) (params : List Param) :
    AllDue scene done (params.map (.set d)) := by
  induction params generalizing done with
  | nil => trivial
  | cons p rest ih => exact ⟨h, ih (by simp [h])⟩

theorem allDue_joins {scene : Scene} {done : List Step} {links : List Link}
    (h : ∀ link ∈ links, link.source.node ∈ added done ∧ link.target.node ∈ added done) :
    AllDue scene done (links.map .join) := by
  induction links generalizing done with
  | nil => trivial
  | cons link rest ih =>
    obtain ⟨hfirst, hrest⟩ := List.forall_mem_cons.mp h
    exact ⟨hfirst, ih fun link hlink => by simpa [added, Step.added?] using hrest link hlink⟩

theorem allDue_declarations {scene : Scene} {done : List Step} {nodes : List Declaration}
    (h : added done ++ nodes.map (·.name) <+: scene.names) :
    AllDue scene done (nodes.flatMap Declaration.steps) := by
  induction nodes generalizing done with
  | nil => trivial
  | cons d rest ih =>
    rw [List.map_cons, List.append_cons] at h
    rw [List.flatMap_cons, allDue_append]
    refine ⟨⟨(List.prefix_append _ _).trans h, allDue_sets ?_ d.params⟩, ih ?_⟩
    · simp [added, Step.added?]
    · simpa using h

/-- The endpoints of a scene's links are declared. -/
def Closed (scene : Scene) : Prop :=
  ∀ link ∈ scene.links, link.source.node ∈ scene.names ∧ link.target.node ∈ scene.names

instance (scene : Scene) : Decidable scene.Closed :=
  inferInstanceAs (Decidable (∀ link ∈ scene.links, _))

/-- A scene has its steps in turn. -/
theorem Closed.allDue {scene : Scene} (h : scene.Closed) : AllDue scene [] scene.steps := by
  refine allDue_append.mpr ⟨allDue_declarations List.prefix_rfl, allDue_joins ?_⟩
  rw [List.nil_append, added_declarations]
  exact h

/-- Names stand for numbers in the order of the declarations. -/
theorem number_eq {scene : Scene} (hnames : scene.names.Nodup) {earlier : List String}
    {name : String} (h : earlier ++ [name] <+: scene.names) (last : NodeId) :
    scene.number last name = last + 1 + earlier.length := by
  obtain ⟨later, hlater⟩ := h
  have hnew : name ∉ earlier := by
    rw [← hlater, List.append_assoc] at hnames
    exact fun hmem => List.disjoint_of_nodup_append hnames hmem (by simp)
  rw [number, ← hlater, List.append_assoc, List.idxOf_append_of_notMem hnew]
  simp

/-! ## How far an application comes -/

/-- An application of a scene to a session after some steps. -/
structure Stands (catalog : Catalog) (compiler : Compiler) (scene : Scene) (s : Session)
    (done : List Step) (a : Applied) : Prop where
  coherent : a.session.Coherent catalog compiler
  /-- The steps led to the session. -/
  performed : done.foldlM (Step.perform (scene.number s.graph.lastNode)) s = .ok a.session
  /-- The nodes added by them are known. -/
  known : ∀ name, a.ids.lookup name =
    if name ∈ added done then some (scene.number s.graph.lastNode name) else none
  counted : a.session.graph.lastNode = s.graph.lastNode + (added done).length
  abort : a.abort = none

variable {catalog : Catalog} {compiler : Compiler} {scene : Scene} {s : Session}
  {done : List Step} {a : Applied}

theorem Stands.idOf_eq (h : Stands catalog compiler scene s done a) {name : String}
    (hname : name ∈ added done) : a.idOf name = scene.number s.graph.lastNode name := by
  rw [Applied.idOf, h.known, if_pos hname]
  rfl

/-- Connecting a link applies its command if the ports exist. -/
theorem Stands.connect_eq (h : Stands catalog compiler scene s done a) (hopen : a.isOpen = true)
    {link : Link} (hdue : (Step.join link).Due scene done) :
    a.connect link =
      match (Step.join link).command (scene.number s.graph.lastNode) a.session.graph with
      | .error e => { a with error := some e }
      | .ok c => (a.command c (.connect link)).1 := by
  obtain ⟨hsource, htarget⟩ := hdue
  rw [Applied.connect, if_pos hopen, h.idOf_eq hsource, h.idOf_eq htarget]
  dsimp only [Step.command]
  cases a.session.graph.portNamed _ true link.source.port with
  | error reason => rfl
  | ok source =>
    cases a.session.graph.portNamed _ false link.target.port with
    | error reason => rfl
    | ok target => rfl

/-- A step whose ports are missing ends an application. -/
theorem Stands.perform_of_error (h : Stands catalog compiler scene s done a)
    (herror : a.error = none) {step : Step} (hdue : step.Due scene done) {e : ApplyError}
    (hcommand : step.command (scene.number s.graph.lastNode) a.session.graph = .error e) :
    a.perform step = { a with error := some e } := by
  have hopen : a.isOpen = true := by simp [Applied.isOpen, herror, h.abort]
  cases step with
  | add d => cases hcommand
  | set d p => cases hcommand
  | join link => rw [Applied.perform, h.connect_eq hopen hdue, hcommand]

/-- Any other step applies its command. -/
theorem Stands.perform_of_command (hnames : scene.names.Nodup)
    (h : Stands catalog compiler scene s done a)
    (herror : a.error = none) {step : Step} (hdue : step.Due scene done) {c : Command}
    (hcommand : step.command (scene.number s.graph.lastNode) a.session.graph = .ok c) :
    a.perform step =
      { session := (a.session.apply c).session
        events := a.events ++ (a.session.apply c).events
        ids := (if (a.session.apply c).refused.isNone then step.added?.toList else []).map
          (fun name => (name, scene.number s.graph.lastNode name)) ++ a.ids
        error := (a.session.apply c).refused.map step.refusal
        abort := (a.session.apply c).abort } := by
  have hopen : a.isOpen = true := by simp [Applied.isOpen, herror, h.abort]
  cases step with
  | add d =>
    cases hcommand
    rw [Applied.perform, if_pos hopen]
    cases hrefused : (a.session.apply (.addNode d.kind d.position)).refused with
    | some e => simp [Applied.command, hrefused, Step.refusal]
    | none =>
      -- The node is given the number that its name stands for.
      have hnode := effect_addNode hrefused
      rw [h.counted, Int.add_right_comm, ← number_eq hnames hdue] at hnode
      simp [Applied.command, hrefused, Step.added?, hnode]
  | set d p =>
    cases hcommand
    rw [Applied.perform, Applied.setParam, if_pos hopen, h.idOf_eq hdue]
    simp [Applied.command, Step.added?, Step.refusal]
  | join link =>
    rw [Applied.perform, h.connect_eq hopen hdue, hcommand]
    simp [Applied.command, Step.added?, Step.refusal]

/-- One more step is performed, or it is refused and nothing has changed. -/
theorem Stands.step (hcat : catalog.Registered) (hnames : scene.names.Nodup)
    (h : Stands catalog compiler scene s done a) (herror : a.error = none) {step : Step}
    (hdue : step.Due scene done) :
    (a.perform step).error = none ∧
        Stands catalog compiler scene s (done ++ [step]) (a.perform step) ∨
      ∃ e, (a.perform step).error = some e ∧
        Stands catalog compiler scene s done (a.perform step) ∧
        step.perform (scene.number s.graph.lastNode) (a.perform step).session = .error e := by
  cases hcommand : step.command (scene.number s.graph.lastNode) a.session.graph with
  | error e =>
    rw [h.perform_of_error herror hdue hcommand]
    refine Or.inr ⟨e, rfl, ⟨h.coherent, h.performed, h.known, h.counted, h.abort⟩, ?_⟩
    rw [Step.perform, hcommand]
    rfl
  | ok c =>
    rw [h.perform_of_command hnames herror hdue hcommand]
    have hperform : step.perform (scene.number s.graph.lastNode) a.session =
        match (a.session.apply c).refused with
        | some error => .error (step.refusal error)
        | none => .ok (a.session.apply c).session := by
      rw [Step.perform, hcommand]
      rfl
    cases hrefused : (a.session.apply c).refused with
    | some error =>
      rw [hrefused] at hperform
      rw [h.coherent.refused hcat hrefused, h.coherent.abort_eq hcat c]
      exact Or.inr ⟨step.refusal error, rfl,
        ⟨h.coherent, h.performed, h.known, h.counted, rfl⟩, hperform⟩
    | none =>
      have hcoherent := (h.coherent.leads_apply hcat c).coherent
      have hok := h.coherent.accepted hcat hrefused
      obtain ⟨hwf, -⟩ := h.coherent.reached.wellFormed hcat
      have hadded : added (done ++ [step]) = added done ++ step.added?.toList := by
        cases step <;> simp [added, Step.added?]
      rw [hrefused] at hperform
      refine Or.inl ⟨rfl, hcoherent, ?_, ?_, ?_, h.coherent.abort_eq hcat c⟩
      · rw [List.foldlM_append]
        exact bind_eq_ok_iff.mpr ⟨_, h.performed, bind_eq_ok_iff.mpr ⟨_, hperform, rfl⟩⟩
      · intro name
        rw [hadded]
        cases step.added? with
        | none => simpa using h.known name
        | some new =>
          by_cases hnew : name = new
          · simp [hnew]
          · simpa [List.lookup_cons, beq_false_of_ne hnew, hnew] using h.known name
      · rw [Step.lastNode_eq hwf hcommand hok, h.counted, hadded, List.length_append,
          Int.natCast_add, Int.add_assoc]

/-- All further steps are performed, or all before one that is refused. -/
theorem Stands.run (hcat : catalog.Registered) (hnames : scene.names.Nodup) {rest : List Step}
    (h : Stands catalog compiler scene s done a) (herror : a.error = none)
    (hdue : AllDue scene done rest) :
    (rest.foldl Applied.perform a).error = none ∧
        Stands catalog compiler scene s (done ++ rest) (rest.foldl Applied.perform a) ∨
      ∃ e before step later, (rest.foldl Applied.perform a).error = some e ∧
        done ++ rest = before ++ step :: later ∧
        Stands catalog compiler scene s before (rest.foldl Applied.perform a) ∧
        step.perform (scene.number s.graph.lastNode) (rest.foldl Applied.perform a).session =
          .error e := by
  induction rest generalizing done a with
  | nil => exact Or.inl ⟨herror, by rwa [List.append_nil]⟩
  | cons step rest ih =>
    obtain ⟨hfirst, hrest⟩ := hdue
    rw [List.foldl_cons]
    rcases h.step hcat hnames herror hfirst with ⟨hopen, hstands⟩ | ⟨e, hclosed, hstands, hrefused⟩
    · rw [List.append_cons]
      exact ih hstands hopen hrest
    · rw [Applied.foldl_perform_of_closed (by simp [Applied.isOpen, hclosed])]
      exact Or.inr ⟨e, done, step, rest, hclosed, rfl, hstands, hrefused⟩

/-- Applying a scene performs all its steps, or all before one that is refused. -/
theorem Closed.apply_cases (hcat : catalog.Registered) (hnames : scene.names.Nodup)
    (hclosed : scene.Closed) (hs : s.Coherent catalog compiler) :
    (scene.apply s).error = none ∧
        Stands catalog compiler scene s scene.steps (scene.apply s) ∨
      ∃ e before step later, (scene.apply s).error = some e ∧
        scene.steps = before ++ step :: later ∧
        Stands catalog compiler scene s before (scene.apply s) ∧
        step.perform (scene.number s.graph.lastNode) (scene.apply s).session = .error e := by
  have hstart : Stands catalog compiler scene s [] { session := s } :=
    ⟨hs, rfl, by simp [added], by simp [added], rfl⟩
  rw [apply_eq_foldl]
  exact hstart.run hcat hnames rfl hclosed.allDue

end Scene

end FieldGraph
