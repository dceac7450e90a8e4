import FieldGraph.Proofs.Scene.Steps

/-!
# What a scene builds

If no step is refused, then a scene has appended its nodes and links to the graph, and nothing
else has changed. A node starts with the defaults of its kind and is then the newest one for as
long as its parameters are set, so each of them ends with the last value that it is given.
-/

namespace FieldGraph.Scene

open Session FieldGraph.Graph

/-! ## Parameters -/

/-- The value of a parameter after assignments: the last one to its name, or else the default. -/
def assigned (params : List Param) (spec : ParamSpec) : Float32 :=
  ((params.reverse.find? (·.name == spec.name)).map (·.value)).getD spec.default

/-- One more assignment is that to its name. -/
theorem assigned_concat (params : List Param) (p : Param) (spec : ParamSpec) :
    assigned (params ++ [p]) spec =
      if spec.name = p.name then p.value else assigned params spec := by
  by_cases h : spec.name = p.name
  · simp [assigned, h]
  · simp [assigned, h, Ne.symm h]

/-- Storing a value at the position of its name is one more assignment. -/
theorem set_assigned (params : List Param) (p : Param) {specs : List ParamSpec}
    (hnodup : (specs.map (·.name)).Nodup) {index : Nat}
    (hindex : specs.findIdx? (·.name == p.name) = some index) :
    (specs.map (assigned params)).set index p.value = specs.map (assigned (params ++ [p])) := by
  induction specs generalizing index with
  | nil => simp at hindex
  | cons spec rest ih =>
    obtain ⟨hfirst, hrest⟩ := List.nodup_cons.mp hnodup
    rw [List.findIdx?_cons] at hindex
    by_cases hname : spec.name = p.name
    · rw [beq_iff_eq.mpr hname, if_pos rfl] at hindex
      obtain rfl := Option.some.inj hindex
      have hothers : rest.map (assigned params) = rest.map (assigned (params ++ [p])) := by
        refine List.map_congr_left fun other hother => ?_
        have hne : other.name ≠ p.name := fun he =>
          hfirst (List.mem_map.mpr ⟨other, hother, he.trans hname.symm⟩)
        rw [assigned_concat, if_neg hne]
      rw [List.map_cons, List.map_cons, List.set_cons_zero, assigned_concat, if_pos hname, hothers]
    · rw [beq_false_of_ne hname, if_neg Bool.false_ne_true] at hindex
      obtain ⟨j, hj, rfl⟩ := Option.map_eq_some_iff.mp hindex
      rw [List.map_cons, List.map_cons, List.set_cons_succ, ih hrest hj, assigned_concat,
        if_neg hname]

/-! ## Steps that were performed -/

variable {catalog : Catalog} {compiler : Compiler} {number : String → NodeId} {s t : Session}

/-- A step that was performed edited the graph by its command. -/
theorem Step.perform_eq_ok (hcat : catalog.Registered) (hs : s.Coherent catalog compiler)
    {step : Step} (h : step.perform number s = .ok t) :
    t.Coherent catalog compiler ∧ ∃ c effect, step.command number s.graph = .ok c ∧
      c.apply s.graph = .ok (effect, t.graph) := by
  obtain ⟨c, hcommand, hrest⟩ := bind_eq_ok_iff.mp h
  cases hrefused : (s.apply c).refused with
  | some e => simp [hrefused] at hrest
  | none =>
    simp only [hrefused, Except.ok.injEq] at hrest
    subst hrest
    exact ⟨(hs.leads_apply hcat c).coherent, c, _, hcommand, hs.accepted hcat hrefused⟩

/-- Setting parameters of the newest node assigns them one after the other. -/
theorem sets_performed (hcat : catalog.Registered) {d : Declaration} {g : Graph} {n : Node}
    (hnew : ∀ m ∈ g.nodes, m.id ≠ n.id) (hnumber : number d.name = n.id)
    (hnodup : (n.kind.params.map (·.name)).Nodup) (before : List Param) {params : List Param}
    (hs : s.Coherent catalog compiler)
    (hgraph : s.graph = g.plus [{ n with params := n.kind.params.map (assigned before) }] [])
    (hok : (params.map (.set d)).foldlM (Step.perform number) s = .ok t) :
    t.Coherent catalog compiler ∧
      t.graph =
        g.plus [{ n with params := n.kind.params.map (assigned (before ++ params)) }] [] := by
  induction params generalizing before s with
  | nil =>
    cases hok
    rw [List.append_nil]
    exact ⟨hs, hgraph⟩
  | cons p rest ih =>
    obtain ⟨u, hfirst, hrest⟩ := bind_eq_ok_iff.mp hok
    obtain ⟨hu, c, effect, hcommand, happly⟩ := Step.perform_eq_ok hcat hs hfirst
    cases hcommand
    obtain ⟨m, index, hm, hindex, hset⟩ := Command.apply_setParameter happly
    rw [hnumber, hgraph] at hm
    obtain rfl := Option.some.inj (hm.symm.trans (node?_plus hnew))
    rw [List.append_cons]
    refine ih (before ++ [p]) hu ?_ hrest
    rw [hset, hgraph, hnumber, ← set_assigned before p hnodup hindex]
    exact updateNode_plus (n := { n with params := n.kind.params.map (assigned before) })
      (f := fun m => { m with params := m.params.set index p.value }) hnew rfl rfl

/-- A node is what a declaration asks for, whatever its number. -/
structure Declares (catalog : Catalog) (d : Declaration) (n : Node) : Prop where
  kind : catalog.find? d.kind = some n.kind
  position : n.position = d.position
  /-- Values given to parameters replace their defaults. -/
  params : n.params = n.kind.params.map (assigned d.params)

/-- The steps of a declaration append its node. -/
theorem declaration_performed (hcat : catalog.Registered) {d : Declaration}
    (hs : s.Coherent catalog compiler) (hnumber : number d.name = s.graph.lastNode + 1)
    (hok : d.steps.foldlM (Step.perform number) s = .ok t) :
    t.Coherent catalog compiler ∧ ∃ n, n.id = s.graph.lastNode + 1 ∧ Declares catalog d n ∧
      t.graph = s.graph.plus [n] [] := by
  obtain ⟨u, hfirst, hrest⟩ := bind_eq_ok_iff.mp hok
  obtain ⟨hu, c, effect, hcommand, happly⟩ := Step.perform_eq_ok hcat hs hfirst
  cases hcommand
  obtain ⟨hwf, hcatalog⟩ := hs.reached.wellFormed hcat
  obtain ⟨kind, hfind, -, hgraph⟩ := Command.apply_addNode hwf happly
  rw [hcatalog] at hfind
  have hnodup := (hcat.faultless kind (Catalog.mem_of_find? hfind)).nodup_params
  obtain ⟨ht, hbuilt⟩ := sets_performed hcat
    (n := ⟨s.graph.lastNode + 1, kind, kind.defaults, d.position⟩) hwf.ne_next hnumber hnodup []
    hu hgraph hrest
  exact ⟨ht, _, rfl, ⟨hfind, rfl, rfl⟩, hbuilt⟩

/-- The steps of declarations append their nodes, numbered in turn. -/
theorem declarations_performed (hcat : catalog.Registered) {nodes : List Declaration}
    {last : NodeId} {k : Nat} (hs : s.Coherent catalog compiler)
    (hlast : s.graph.lastNode = last + k)
    (hnumber : ∀ p ∈ nodes.zipIdx k, number p.1.name = last + 1 + p.2)
    (hok : (nodes.flatMap Declaration.steps).foldlM (Step.perform number) s = .ok t) :
    t.Coherent catalog compiler ∧ ∃ added, t.graph = s.graph.plus added [] ∧
      List.Forall₂ (fun p n => n.id = last + 1 + p.2 ∧ Declares catalog p.1 n)
        (nodes.zipIdx k) added := by
  induction nodes generalizing s k with
  | nil =>
    cases hok
    exact ⟨hs, [], (plus_nil _).symm, .nil⟩
  | cons d rest ih =>
    rw [List.flatMap_cons, List.foldlM_append] at hok
    obtain ⟨u, hfirst, hrest⟩ := bind_eq_ok_iff.mp hok
    rw [List.zipIdx_cons] at hnumber ⊢
    obtain ⟨hhead, htail⟩ := List.forall_mem_cons.mp hnumber
    have hnext : s.graph.lastNode + 1 = last + 1 + k := by
      rw [hlast, Int.add_right_comm]
    obtain ⟨hu, n, hid, hn, hgraph⟩ := declaration_performed hcat hs (hhead.trans hnext.symm) hfirst
    have hlast' : u.graph.lastNode = last + (k + 1 : Nat) := by
      rw [hgraph, Int.natCast_succ, ← Int.add_assoc, ← hlast]
      rfl
    obtain ⟨ht, added, hbuilt, hadded⟩ := ih hu hlast' htail hrest
    refine ⟨ht, n :: added, ?_, .cons ⟨hid.trans hnext, hn⟩ hadded⟩
    rw [hbuilt, hgraph, plus_plus]
    rfl

/-- A connection joins the ports that a link names. -/
structure Joins (g : Graph) (number : String → NodeId) (link : Link) (c : Connection) : Prop where
  source : ∃ n, ∃ index : Nat, ∃ port, g.node? (number link.source.node) = some n ∧
    n.kind.outputs[index]? = some port ∧ port.name = link.source.port ∧
    c.src = ⟨number link.source.node, .output, index⟩
  target : ∃ n, ∃ index : Nat, ∃ port, g.node? (number link.target.node) = some n ∧
    n.kind.inputs[index]? = some port ∧ port.name = link.target.port ∧
    c.dst = ⟨number link.target.node, .input, index⟩

/-- The position of a name is that of a port with the name. -/
theorem getElem?_of_findIdx? {ports : List PortSpec} {name : String} {index : Nat}
    (h : ports.findIdx? (·.name == name) = some index) :
    ∃ port, ports[index]? = some port ∧ port.name = name := by
  obtain ⟨hlt, hname, -⟩ := List.findIdx?_eq_some_iff_getElem.mp h
  exact ⟨ports[index], List.getElem?_eq_getElem hlt, beq_iff_eq.mp hname⟩

/-- A link that was connected appended a connection. -/
theorem link_performed (hcat : catalog.Registered) {link : Link}
    (hs : s.Coherent catalog compiler) (hok : (Step.join link).perform number s = .ok t) :
    t.Coherent catalog compiler ∧ ∃ c, c.id = s.graph.lastConn + 1 ∧
      Joins s.graph number link c ∧ t.graph = s.graph.plus [] [c] := by
  obtain ⟨ht, c, effect, hcommand, happly⟩ := Step.perform_eq_ok hcat hs hok
  obtain ⟨source, target, hsource, htarget, rfl⟩ := Step.command_join hcommand
  obtain ⟨n, i, hn, hi, rfl⟩ := portNamed_eq_ok_iff.mp hsource
  obtain ⟨m, j, hm, hj, rfl⟩ := portNamed_eq_ok_iff.mp htarget
  obtain ⟨out, hout, houtName⟩ := getElem?_of_findIdx? hi
  obtain ⟨into, hinto, hintoName⟩ := getElem?_of_findIdx? hj
  refine ⟨ht, _, rfl, ⟨?_, ?_⟩, Command.apply_connect happly⟩
  · exact ⟨n, i, out, hn, hout, houtName, rfl⟩
  · exact ⟨m, j, into, hm, hinto, hintoName, rfl⟩

/-- Links that were connected appended their connections, numbered in turn. -/
theorem links_performed (hcat : catalog.Registered) {links : List Link} {last : ConnId} {k : Nat}
    (hs : s.Coherent catalog compiler) (hlast : s.graph.lastConn = last + k)
    (hok : (links.map .join).foldlM (Step.perform number) s = .ok t) :
    ∃ made, t.graph = s.graph.plus [] made ∧
      List.Forall₂ (fun p c => c.id = last + 1 + p.2 ∧ Joins t.graph number p.1 c)
        (links.zipIdx k) made := by
  induction links generalizing s k with
  | nil =>
    cases hok
    exact ⟨[], (plus_nil _).symm, .nil⟩
  | cons link rest ih =>
    obtain ⟨u, hfirst, hrest⟩ := bind_eq_ok_iff.mp hok
    obtain ⟨hu, c, hid, hc, hgraph⟩ := link_performed hcat hs hfirst
    have hlast' : u.graph.lastConn = last + (k + 1 : Nat) := by
      rw [hgraph, Int.natCast_succ, ← Int.add_assoc, ← hlast]
      rfl
    obtain ⟨made, hbuilt, hmade⟩ := ih hu hlast' hrest
    have hall : t.graph = s.graph.plus [] (c :: made) := by
      rw [hbuilt, hgraph, plus_plus]
      rfl
    -- Connections leave the nodes alone, so the ports are found to the end.
    have hnodes : t.graph.nodes = s.graph.nodes := by
      rw [hall]
      exact List.append_nil _
    have hsame : ∀ id, t.graph.node? id = s.graph.node? id := by
      intro id
      rw [node?, node?, hnodes]
    refine ⟨c :: made, hall, .cons ⟨by rw [hid, hlast, Int.add_right_comm], ?_⟩ hmade⟩
    obtain ⟨⟨n, i, out, hn, hout⟩, ⟨m, j, into, hm, hinto⟩⟩ := hc
    exact ⟨⟨n, i, out, (hsame _).trans hn, hout⟩, ⟨m, j, into, (hsame _).trans hm, hinto⟩⟩

/-- Distinct names stand for numbers in the order of the declarations. -/
theorem number_of_zipIdx {scene : Scene} (hnames : scene.names.Nodup) (last : NodeId) :
    ∀ p ∈ scene.nodes.zipIdx, scene.number last p.1.name = last + 1 + p.2 := by
  rintro ⟨d, i⟩ hp
  have hd : scene.nodes[i]? = some d := List.mk_mem_zipIdx_iff_getElem?.mp hp
  have hname : scene.names[i]? = some d.name := by rw [names, List.getElem?_map, hd]; rfl
  obtain ⟨hlt, hget⟩ := List.getElem?_eq_some_iff.mp hname
  rw [number, ← hget, hnames.idxOf_getElem i hlt]

/-- All steps of a scene append its nodes and its links. -/
theorem steps_performed (hcat : catalog.Registered) {scene : Scene} (hnames : scene.names.Nodup)
    (hs : s.Coherent catalog compiler)
    (hok : scene.steps.foldlM (Step.perform (scene.number s.graph.lastNode)) s = .ok t) :
    ∃ added made, t.graph = s.graph.plus added made ∧
      List.Forall₂ (fun p n => n.id = s.graph.lastNode + 1 + p.2 ∧ Declares catalog p.1 n)
        scene.nodes.zipIdx added ∧
      List.Forall₂ (fun p c => c.id = s.graph.lastConn + 1 + p.2 ∧
        Joins t.graph (scene.number s.graph.lastNode) p.1 c) scene.links.zipIdx made := by
  rw [steps, List.foldlM_append] at hok
  obtain ⟨u, hnodes, hlinks⟩ := bind_eq_ok_iff.mp hok
  obtain ⟨hu, added, hgraph, hadded⟩ := declarations_performed hcat hs (Int.add_zero _).symm
    (number_of_zipIdx hnames s.graph.lastNode) hnodes
  have hlast : u.graph.lastConn = s.graph.lastConn + (0 : Nat) := by
    rw [hgraph]
    rfl
  obtain ⟨made, hbuilt, hmade⟩ := links_performed hcat hu hlast hlinks
  refine ⟨added, made, ?_, hadded, hmade⟩
  rw [hbuilt, hgraph, plus_plus, List.append_nil, List.nil_append]

/-- Over every registered catalog, applying a scene with distinct names and declared endpoints to
a session that calls lead to ends normally. Without an error, the graph is the one from before
with a node for every declaration and a connection for every link, numbered in turn, and every
name is known by the number of its node. With an error, the session is the one after exactly the
steps before the refused one, and the names of the nodes added by them are known, no others. -/
theorem apply_builds_scene (drafts : List Draft) (compiler : Compiler) (tolerant : Bool)
    (calls : List Call) (scene : Scene) (hnames : scene.names.Nodup) (hclosed : scene.Closed) :
    let catalog := drafts.foldl Catalog.extend .empty
    let s := (Session.new catalog compiler tolerant).after calls
    let number := scene.number s.graph.lastNode
    let a := scene.apply s
    a.abort = none ∧
    (a.error = none →
      (∃ added made, a.session.graph = s.graph.plus added made ∧
        List.Forall₂ (fun p n => n.id = s.graph.lastNode + 1 + p.2 ∧ Declares catalog p.1 n)
          scene.nodes.zipIdx added ∧
        List.Forall₂ (fun p c => c.id = s.graph.lastConn + 1 + p.2 ∧
          Joins a.session.graph number p.1 c) scene.links.zipIdx made) ∧
      ∀ name, a.ids.lookup name = if name ∈ scene.names then some (number name) else none) ∧
    ∀ e, a.error = some e → ∃ done step later, scene.steps = done ++ step :: later ∧
      done.foldlM (Step.perform number) s = .ok a.session ∧
      step.perform number a.session = .error e ∧
      ∀ name, a.ids.lookup name = if name ∈ added done then some (number name) else none := by
  intro catalog s number a
  have hcat : catalog.Registered := ⟨drafts, rfl⟩
  have hs : s.Coherent catalog compiler := (coherent_new catalog compiler tolerant).after hcat calls
  rcases hclosed.apply_cases hcat hnames hs with
    ⟨hnone, hstands⟩ | ⟨e, done, step, later, herror, hsplit, hstands, hrefused⟩
  · refine ⟨hstands.abort, fun _ => ⟨steps_performed hcat hnames hs hstands.performed, ?_⟩, ?_⟩
    · rw [← added_steps]
      exact hstands.known
    · intro e herror
      cases hnone.symm.trans herror
  · refine ⟨hstands.abort, fun hnone => ?_, fun e' herror' => ?_⟩
    · cases herror.symm.trans hnone
    · obtain rfl := Option.some.inj (herror.symm.trans herror')
      exact ⟨done, step, later, hsplit, hstands.performed, hrefused, hstands.known⟩

/-- A sphere whose radius is set twice, and an output that is fed a number of times. -/
def resizedSphere (times : Nat) : Scene where
  nodes := [
    { name := "a", kind := "sphere", params := [⟨"radius", 2, {}⟩, ⟨"radius", 3, {}⟩], span := {} },
    { name := "o", kind := "output", span := {} }]
  links := List.replicate times ⟨⟨"a", "distance"⟩, ⟨"o", "distance"⟩, {}⟩

/-- After a plane was added, the sphere and its output get the next numbers. Feeding the output
twice is refused, and what came before stays. -/
theorem apply_builds_resizedSphere :
    let s := (Session.new .standard).after [.apply (.addNode "plane" {})]
    let a := (resizedSphere 1).apply s
    let b := (resizedSphere 2).apply s
    ((resizedSphere 1).names.Nodup ∧ (resizedSphere 1).Closed ∧ a.error = none ∧
      (∃ added made, added.length = 2 ∧ made.length = 1 ∧
        a.session.graph = s.graph.plus added made) ∧
      a.ids.lookup "a" = some 2 ∧ a.ids.lookup "o" = some 3) ∧
    (resizedSphere 2).names.Nodup ∧ (resizedSphere 2).Closed ∧ ∃ e, b.error = some e ∧
      ∃ done step later, (resizedSphere 2).steps = done ++ step :: later ∧
        done.foldlM (Step.perform ((resizedSphere 2).number s.graph.lastNode)) s = .ok b.session ∧
        step.perform ((resizedSphere 2).number s.graph.lastNode) b.session = .error e := by
  have hrun :
      let s := (Session.new .standard).after [.apply (.addNode "plane" {})]
      s.graph.lastNode = 1 ∧ ((resizedSphere 1).apply s).error.isNone = true ∧
        ((resizedSphere 2).apply s).error.isSome = true := by
    rw [Catalog.standard_eq]
    decide +kernel
  have hdistinct : ∀ times, (resizedSphere times).names.Nodup := fun times => by
    simp [names, resizedSphere]
  have hclosed : (resizedSphere 1).Closed ∧ (resizedSphere 2).Closed := by decide
  obtain ⟨drafts, hdrafts⟩ := Catalog.standard_registered
  have hbuilds := fun times => apply_builds_scene drafts {} false
    [.apply (.addNode "plane" {})] (resizedSphere times) (hdistinct times)
  rw [← hdrafts] at hbuilds
  dsimp only at hbuilds
  -- Only the three facts above are read off the session.
  generalize (Session.new .standard).after [.apply (.addNode "plane" {})] = s at hrun hbuilds ⊢
  obtain ⟨hlast, hfine, hrefused⟩ := hrun
  obtain ⟨-, hbuilt, -⟩ := hbuilds 1 hclosed.1
  obtain ⟨-, -, hstopped⟩ := hbuilds 2 hclosed.2
  have hnone := Option.isNone_iff_eq_none.mp hfine
  obtain ⟨⟨added, made, hgraph, hadded, hmade⟩, hids⟩ := hbuilt hnone
  obtain ⟨e, he⟩ := Option.isSome_iff_exists.mp hrefused
  obtain ⟨done, step, later, hsplit, hperformed, hfails, -⟩ := hstopped e he
  refine ⟨⟨hdistinct 1, hclosed.1, hnone,
    ⟨added, made, hadded.length_eq.symm, hmade.length_eq.symm, hgraph⟩, ?_, ?_⟩,
    hdistinct 2, hclosed.2, e, he, done, step, later, hsplit, hperformed, hfails⟩
  · rw [hids, hlast]
    decide
  · rw [hids, hlast]
    decide

end FieldGraph.Scene
