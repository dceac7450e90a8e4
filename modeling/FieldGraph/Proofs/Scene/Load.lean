import FieldGraph.Proofs.Kind.Standard
import FieldGraph.Proofs.Session.Run
import FieldGraph.Scene.Load

/-!
# What a load shows

A load works by commands, each of which compiles. Whatever compiles on the way is shown, also
graphs that are half of the old scene or half of the new one, and a load that fails later does
not take it back. The events of a load tell everything that was shown: the shader afterwards is
the last one published, and without one it is the shader from before.
-/

namespace FieldGraph

/-- The shader that an event publishes. -/
def Event.shader? : Event → Option Shader
  | .compiled shader => some shader
  | .log _ => none
  | .failed _ => none

/-- The shaders that events publish, in order. -/
def published (events : List Event) : List Shader := events.filterMap Event.shader?

@[simp] theorem published_append (first second : List Event) :
    published (first ++ second) = published first ++ published second :=
  List.filterMap_append ..

@[simp] theorem published_log (record : Record) (rest : List Event) :
    published (.log record :: rest) = published rest := rfl

@[simp] theorem published_records (records : List Record) :
    published (records.map .log) = [] := by
  induction records with
  | nil => rfl
  | cons record rest ih => rw [List.map_cons, published_log, ih]

/-- After records, only the last event may publish a shader. -/
theorem published_told (record : Record) (records : List Record) (last : Event) :
    published (.log record :: (records.map .log ++ [last])) = last.shader?.toList := by
  rw [published_log, published_append, published_records, List.nil_append]
  cases last <;> rfl

namespace Session

/-- Events on the way from one session to another. -/
structure Leads (catalog : Catalog) (compiler : Compiler) (s : Session) (events : List Event)
    (t : Session) : Prop where
  coherent : t.Coherent catalog compiler
  counted : s.compiler.generation ≤ t.compiler.generation
  /-- What was published is newer than what the first session showed. -/
  newer : ∀ shader ∈ published events, s.compiler.generation < shader.generation
  /-- The last shader published is shown. -/
  shown : t.shader = (published events).getLast?.or s.shader

variable {catalog : Catalog} {compiler : Compiler} {s t u : Session} {first second : List Event}

theorem Coherent.leads_self (h : s.Coherent catalog compiler) : s.Leads catalog compiler [] s :=
  ⟨h, le_rfl, by simp [published], rfl⟩

theorem Leads.trans (h₁ : s.Leads catalog compiler first t)
    (h₂ : t.Leads catalog compiler second u) :
    s.Leads catalog compiler (first ++ second) u where
  coherent := h₂.coherent
  counted := h₁.counted.trans h₂.counted
  newer := by
    intro shader hshader
    rw [published_append, List.mem_append] at hshader
    rcases hshader with hfirst | hsecond
    · exact h₁.newer shader hfirst
    · exact h₁.counted.trans_lt (h₂.newer shader hsecond)
  shown := by
    rw [h₂.shown, h₁.shown, published_append, List.getLast?_append, Option.or_assoc]

/-- A command tells what it shows. -/
theorem Coherent.leads_apply (hcat : catalog.Registered) (h : s.Coherent catalog compiler)
    (command : Command) :
    s.Leads catalog compiler (s.apply command).events (s.apply command).session := by
  rcases apply_cases hcat h.reached command with
    ⟨e, record, -, happly⟩ | ⟨effect, graph, record, _, -, hreached, hsettles, happly⟩
  · rw [happly]
    exact ⟨h, le_rfl, by simp [published, Event.shader?], rfl⟩
  · have hcoherent := h.settles hreached hsettles
    rw [happly]
    cases hsettles with
    | @invalid e names records warnings expected fails =>
      have hpublished := published_told record records (.failed e)
      refine ⟨hcoherent, le_rfl, ?_, ?_⟩
      · rw [hpublished]
        exact fun _ hshader => absurd hshader List.not_mem_nil
      · rw [hpublished]
        rfl
    | @valid order shader counted records warnings ordered generated =>
      have hpublished := published_told record records (.compiled shader)
      obtain ⟨done, -, rfl, rfl⟩ := Compiler.generate_eq_ok_iff.mp generated
      refine ⟨hcoherent, Nat.le_succ _, ?_, ?_⟩
      · rw [hpublished]
        intro shader hshader
        rw [List.mem_singleton.mp hshader]
        exact Nat.lt_succ_self _
      · rw [hpublished]
        rfl

/-- The shader changes exactly when one is published. -/
theorem Leads.shader_eq_iff (hs : s.Coherent catalog compiler)
    (h : s.Leads catalog compiler first t) : t.shader = s.shader ↔ published first = [] := by
  rw [h.shown]
  constructor
  · intro hsame
    by_contra hne
    have hlast := List.getLast?_eq_some_getLast hne
    rw [hlast, Option.some_or] at hsame
    -- The last one published would be what was shown before, but its number is larger.
    have hold := hs.numbered _ hsame.symm
    exact absurd hold (h.newer _ (List.getLast_mem hne)).ne'
  · intro hnone
    rw [hnone]
    rfl

end Session

namespace Scene

open Session

variable {catalog : Catalog} {compiler : Compiler} {s : Session}

/-- A declaration adds a node, remembers its name and sets its parameters. -/
theorem Applied.declare_eq (a : Applied) (d : Declaration) :
    a.declare d =
      if a.isOpen then
        if (a.command (.addNode d.kind d.position) (.node d.span d.name)).1.error.isNone then
          let added := a.command (.addNode d.kind d.position) (.node d.span d.name)
          d.params.foldl (setParam d.name)
            { added.1 with ids := (d.name, added.2.node) :: added.1.ids }
        else (a.command (.addNode d.kind d.position) (.node d.span d.name)).1
      else a := rfl

section Steps

variable (hcat : catalog.Registered)

include hcat

theorem Applied.leads_command {a : Applied} (h : s.Leads catalog compiler a.events a.session)
    (c : Command) (refusal : EditError → ApplyError) :
    s.Leads catalog compiler (a.command c refusal).1.events (a.command c refusal).1.session :=
  h.trans (h.coherent.leads_apply hcat c)

theorem Applied.leads_setParam {a : Applied} (h : s.Leads catalog compiler a.events a.session)
    (name : String) (p : Param) :
    s.Leads catalog compiler (a.setParam name p).events (a.setParam name p).session := by
  unfold Applied.setParam
  split
  · exact leads_command hcat h _ _
  · exact h

theorem Applied.leads_declare {a : Applied} (h : s.Leads catalog compiler a.events a.session)
    (d : Declaration) :
    s.Leads catalog compiler (a.declare d).events (a.declare d).session := by
  rw [Applied.declare_eq]
  have hadded := leads_command hcat h (.addNode d.kind d.position) (.node d.span d.name)
  split
  · split
    · refine List.foldlRecOn d.params (Applied.setParam d.name) (motive := fun a : Applied =>
        s.Leads catalog compiler a.events a.session) hadded ?_
      intro a ha p _
      exact leads_setParam hcat ha d.name p
    · exact hadded
  · exact h

theorem Applied.leads_connect {a : Applied} (h : s.Leads catalog compiler a.events a.session)
    (link : Link) :
    s.Leads catalog compiler (a.connect link).events (a.connect link).session := by
  unfold Applied.connect
  split
  · dsimp only
    split
    · exact h
    · split
      · exact h
      · exact leads_command hcat h _ _
  · exact h

/-- A scene that is applied tells what it shows. -/
theorem leads_apply (h : s.Coherent catalog compiler) (scene : Scene) :
    s.Leads catalog compiler (scene.apply s).events (scene.apply s).session := by
  unfold Scene.apply
  refine List.foldlRecOn scene.links Applied.connect (motive := fun a : Applied =>
    s.Leads catalog compiler a.events a.session) ?_ ?_
  · refine List.foldlRecOn scene.nodes Applied.declare (motive := fun a : Applied =>
      s.Leads catalog compiler a.events a.session) h.leads_self ?_
    intro a ha d _
    exact Applied.leads_declare hcat ha d
  · intro a ha link _
    exact Applied.leads_connect hcat ha link

theorem Loaded.leads_remove {l : Loaded} (h : s.Leads catalog compiler l.events l.session)
    (id : NodeId) :
    s.Leads catalog compiler (l.remove id).events (l.remove id).session := by
  unfold Loaded.remove
  split
  · exact h
  · exact h.trans (h.coherent.leads_apply hcat (.removeNode id))

theorem Loaded.leads_place {l : Loaded} (h : s.Leads catalog compiler l.events l.session)
    (scene : Scene) :
    s.Leads catalog compiler (l.place scene).events (l.place scene).session := by
  unfold Loaded.place
  split
  · exact h
  · exact h.trans (leads_apply hcat h.coherent scene)

/-- A load tells what it shows. -/
theorem leads_load (h : s.Coherent catalog compiler) (source : Except FileError String) :
    s.Leads catalog compiler (load source s).events (load source s).session := by
  unfold load
  split
  · exact h.leads_self
  · split
    · exact h.leads_self
    · refine Loaded.leads_place hcat ?_ _
      refine List.foldlRecOn s.graph.nodeIds Loaded.remove (motive := fun l : Loaded =>
        s.Leads catalog compiler l.events l.session) h.leads_self ?_
      intro l hl id _
      exact Loaded.leads_remove hcat hl id

end Steps

/-- Over every registered catalog, for every load into a session that calls lead to: the shader
afterwards is the last one that the load published, else the one from before. Hence a load,
whether it fails or not, keeps the shader exactly when nothing compiled on the way. -/
theorem load_keeps_shader_iff (drafts : List Draft) (compiler : Compiler) (tolerant : Bool)
    (calls : List Call) (source : Except FileError String) :
    let s := (Session.new (drafts.foldl Catalog.extend .empty) compiler tolerant).after calls
    let l := load source s
    l.session.shader = (published l.events).getLast?.or s.shader ∧
      (l.session.shader = s.shader ↔ published l.events = []) := by
  intro s l
  have hcat : (drafts.foldl Catalog.extend .empty).Registered := ⟨drafts, rfl⟩
  have hs := (coherent_new (drafts.foldl Catalog.extend .empty) compiler tolerant).after hcat calls
  have hl := leads_load hcat hs source
  exact ⟨hl.shown, hl.shader_eq_iff hs⟩

/-- A sphere and an output, connected. -/
def sphereCalls : List Call :=
  [.apply (.addNode "sphere" {}), .apply (.addNode "output" {}),
    .apply (.connect ⟨1, .output, 0⟩ (.into 2 0))]

/-- A scene that feeds its output twice, which is refused. -/
def planeTwice : String :=
  "node \"a\" \x7b\n  kind = \"plane\"\n\x7d\nnode \"o\" \x7b\n  kind = \"output\"\n\x7d\n" ++
  "connect \x7b\n  from = \"a.distance\"\n  to   = \"o.distance\"\n\x7d\n" ++
  "connect \x7b\n  from = \"a.distance\"\n  to   = \"o.distance\"\n\x7d\n"

/-- Not every load that fails keeps the shader: the first connection of `planeTwice` completes a
graph, which is shown before the second connection is refused. -/
theorem not_failed_load_keeps_shader :
    ¬ ∀ (drafts : List Draft) (compiler : Compiler) (tolerant : Bool) (calls : List Call)
      (source : Except FileError String),
      let s := (Session.new (drafts.foldl Catalog.extend .empty) compiler tolerant).after calls
      (load source s).error.isSome = true → (load source s).session.shader = s.shader := by
  intro h
  obtain ⟨drafts, hdrafts⟩ := Catalog.standard_registered
  have hkept := h drafts {} false sphereCalls (.ok planeTwice)
  rw [← hdrafts, Catalog.standard_eq] at hkept
  have hrun :
      let s := (Session.new (Kind.standard.foldl Catalog.insert .empty)).after sphereCalls
      let l := load (.ok planeTwice) s
      l.error.isSome = true ∧
        l.session.shader.map (·.expression) ≠ s.shader.map (·.expression) := by
    decide +kernel
  obtain ⟨hfails, hshown⟩ := hrun
  rw [hkept hfails] at hshown
  exact hshown rfl

end Scene

end FieldGraph
