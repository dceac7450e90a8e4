import FieldGraph.Proofs.Graph.Connect
import FieldGraph.Proofs.Scene.Build

/-!
# Declared nodes are found

The steps of a scene whose endpoints are declared name only nodes that earlier steps have added,
and a node that was added stays. So whatever else a step of such a scene is refused for, it is
never that a node is missing.
-/

namespace FieldGraph

namespace Graph

variable {g : Graph}

theorem isLive_iff_mem {id : NodeId} : g.isLive id = true ↔ ∃ n ∈ g.nodes, n.id = id := by
  simp [isLive, node?]

theorem isLive_plus {added : List Node} {made : List Connection} {id : NodeId} :
    (g.plus added made).isLive id = true ↔ g.isLive id = true ∨ ∃ n ∈ added, n.id = id := by
  simp only [isLive_iff_mem, plus, List.mem_append, or_and_right, exists_or]

theorem isLive_updateNode {id k : NodeId} {f : Node → Node} (hf : ∀ n, (f n).id = n.id)
    (h : g.isLive k = true) : (g.updateNode id f).isLive k = true := by
  obtain ⟨n, hn, rfl⟩ := isLive_iff_mem.mp h
  refine isLive_iff_mem.mpr ⟨_, List.mem_map_of_mem hn, ?_⟩
  split
  · exact hf n
  · rfl

/-! ## Refusals that miss no node -/

theorem cause_addNode {kindId : String} {e : EditError} (h : g.addNode kindId = .error e) :
    e.cause ≠ .nodeNotFound := by
  rw [addNode, kind] at h
  cases hfind : g.catalog.find? kindId with
  | none =>
    rw [hfind] at h
    cases h
    nofun
  | some kind =>
    simp only [hfind, bind, Except.bind] at h
    split at h
    · cases h
      nofun
    · cases h

theorem cause_setParameter {id : NodeId} (hlive : g.isLive id = true) {name : String}
    {value : Float32} {e : EditError} (h : g.setParameter id name value = .error e) :
    e.cause ≠ .nodeNotFound := by
  obtain ⟨n, hn⟩ := Option.isSome_iff_exists.mp hlive
  simp only [setParameter, hn] at h
  split at h
  · cases h
    nofun
  split at h
  · cases h
    nofun
  split at h
  · cases h
  · cases h
    nofun

theorem cause_portNamed {id : NodeId} (hlive : g.isLive id = true) {output : Bool} {name : String}
    {reason : Reason} (h : g.portNamed id output name = .error reason) :
    reason.cause ≠ .nodeNotFound := by
  obtain ⟨n, hn⟩ := Option.isSome_iff_exists.mp hlive
  cases hport : if output then n.kind.output? name else n.kind.input? name with
  | some index =>
    rw [portNamed_eq_ok_iff.mpr ⟨n, index, hn, hport, rfl⟩] at h
    cases h
  | none =>
    simp only [portNamed, hn, hport] at h
    cases h
    simp

theorem WellFormed.cause_connect (h : g.WellFormed) {src dst : Port}
    (hsrc : g.isLive src.node = true) (hdst : g.isLive dst.node = true) {e : EditError}
    (herror : g.connect src dst = .error e) : e.cause ≠ .nodeNotFound := by
  rcases Demand.met_or_firstUnmet g src dst with hmet | ⟨d, hfirst⟩
  · rw [h.connect_of_met hmet] at herror
    cases herror
  · obtain ⟨note, hrefused⟩ := h.connect_of_firstUnmet hfirst
    obtain rfl := Except.error.inj (hrefused.symm.trans herror)
    cases d <;> simp [EditError.cause, Demand.cause, absence, hsrc, hdst]

end Graph

theorem eq_error_of_bind_pure {ε α β : Type} {x : Except ε α} {f : α → β} {e : ε}
    (h : (x >>= fun a => pure (f a)) = .error e) : x = .error e := by
  cases x with
  | error e' => exact congrArg _ (Except.error.inj h)
  | ok a => cases h

/-- A command is refused for what the graph refuses. -/
theorem Session.apply_of_refused {s : Session} {c : Command} {e : EditError}
    (h : (s.apply c).refused = some e) : c.apply s.graph = .error e := by
  rw [Session.apply] at h
  split at h
  case h_1 herror => rw [herror, Option.some.inj h]
  case h_2 => cases h

namespace Scene

open Session FieldGraph.Graph

variable {catalog : Catalog} {compiler : Compiler} {number : String → NodeId} {s t : Session}

/-- A step is refused because a port is missing or because its command is refused. -/
theorem Step.perform_eq_error {step : Step} {e : ApplyError}
    (h : step.perform number s = .error e) :
    step.command number s.graph = .error e ∨ ∃ c e', step.command number s.graph = .ok c ∧
      (s.apply c).refused = some e' ∧ e = step.refusal e' := by
  rw [Step.perform] at h
  cases hcommand : step.command number s.graph with
  | error e' =>
    rw [hcommand] at h
    exact Or.inl (congrArg _ (Except.error.inj h))
  | ok c =>
    rw [hcommand] at h
    cases hrefused : (s.apply c).refused with
    | none => simp [bind, Except.bind, hrefused] at h
    | some e' =>
      simp only [bind, Except.bind, hrefused] at h
      exact Or.inr ⟨c, e', rfl, hrefused, (Except.error.inj h).symm⟩

/-- A link has no command if one of its ports is missing. -/
theorem Step.command_join_error {g : Graph} {link : Link} {e : ApplyError}
    (h : (join link).command number g = .error e) :
    (∃ reason, g.portNamed (number link.source.node) true link.source.port = .error reason ∧
      e = .endpoint link.span link.source reason) ∨
    ∃ reason, g.portNamed (number link.target.node) false link.target.port = .error reason ∧
      e = .endpoint link.span link.target reason := by
  rw [Step.command] at h
  cases hsource : g.portNamed (number link.source.node) true link.source.port with
  | error reason =>
    rw [hsource] at h
    exact Or.inl ⟨reason, rfl, (Except.error.inj h).symm⟩
  | ok source =>
    rw [hsource] at h
    cases htarget : g.portNamed (number link.target.node) false link.target.port with
    | error reason =>
      rw [htarget] at h
      exact Or.inr ⟨reason, rfl, (Except.error.inj h).symm⟩
    | ok target =>
      rw [htarget] at h
      cases h

/-- After a command of a step the old nodes are live, and so is the one that it adds. -/
theorem Step.isLive_of_apply {step : Step} {g g' : Graph} (hwf : g.WellFormed) {c : Command}
    {effect : Command.Effect} (hcommand : step.command number g = .ok c)
    (hok : c.apply g = .ok (effect, g')) {id : NodeId}
    (h : g.isLive id = true ∨ g.lastNode < id ∧ id ≤ g.lastNode + step.added?.toList.length) :
    g'.isLive id = true := by
  have hold : step.added?.toList.length = 0 → g.isLive id = true := by
    intro hnone
    refine h.resolve_right ?_
    rintro ⟨hlt, hle⟩
    rw [hnone, Int.natCast_zero, Int.add_zero] at hle
    exact hlt.not_ge hle
  cases step with
  | add d =>
    cases hcommand
    obtain ⟨kind, -, -, rfl⟩ := Command.apply_addNode hwf hok
    refine isLive_plus.mpr (h.imp_right fun ⟨hlt, hle⟩ => ⟨_, List.mem_singleton_self _, ?_⟩)
    exact Int.le_antisymm hlt hle
  | set d p =>
    cases hcommand
    obtain ⟨n, index, -, -, rfl⟩ := Command.apply_setParameter hok
    exact isLive_updateNode (fun _ => rfl) (hold rfl)
  | join link =>
    obtain ⟨source, target, -, -, rfl⟩ := command_join hcommand
    rw [Command.apply_connect hok]
    exact isLive_plus.mpr (Or.inl (hold rfl))

/-- Steps that were performed have added nodes that are live, and the old ones are too. -/
theorem isLive_of_performed (hcat : catalog.Registered) {done : List Step}
    (hs : s.Coherent catalog compiler) (hok : done.foldlM (Step.perform number) s = .ok t)
    {id : NodeId} (h : s.graph.isLive id = true ∨
      s.graph.lastNode < id ∧ id ≤ s.graph.lastNode + (added done).length) :
    t.graph.isLive id = true := by
  induction done generalizing s with
  | nil =>
    cases hok
    refine h.resolve_right ?_
    rintro ⟨hlt, hle⟩
    rw [added, List.filterMap_nil, List.length_nil, Int.natCast_zero, Int.add_zero] at hle
    exact hlt.not_ge hle
  | cons step rest ih =>
    obtain ⟨u, hfirst, hrest⟩ := bind_eq_ok_iff.mp hok
    obtain ⟨hu, c, effect, hcommand, happly⟩ := Step.perform_eq_ok hcat hs hfirst
    obtain ⟨hwf, -⟩ := hs.reached.wellFormed hcat
    have hlast := Step.lastNode_eq hwf hcommand happly
    have hcount : (added (step :: rest)).length =
        step.added?.toList.length + (added rest).length := by
      rw [← List.length_append]
      cases hstep : step.added? <;> simp [added, hstep]
    have hlive : s.graph.isLive id = true ∨ s.graph.lastNode < id ∧
        id ≤ s.graph.lastNode + step.added?.toList.length → u.graph.isLive id = true :=
      Step.isLive_of_apply hwf hcommand happly
    refine ih hu hrest ?_
    -- A number is given out by the first step if it is not above those given out after it.
    by_cases hadded : id ≤ s.graph.lastNode + step.added?.toList.length
    · exact Or.inl (hlive (h.imp_right fun hnew => ⟨hnew.1, hadded⟩))
    · rcases h with hold | ⟨-, hle⟩
      · exact Or.inl (hlive (Or.inl hold))
      · rw [hcount, Int.natCast_add, ← Int.add_assoc, ← hlast] at hle
        rw [← hlast] at hadded
        exact Or.inr ⟨Int.not_le.mp hadded, hle⟩

variable {scene : Scene} {done : List Step} {a : Applied}

/-- The nodes added so far are live under the numbers that their names stand for. -/
theorem Stands.isLive (hcat : catalog.Registered) (hs : s.Coherent catalog compiler)
    (h : Stands catalog compiler scene s done a) (hdone : added done <+: scene.names)
    {name : String} (hname : name ∈ added done) :
    a.session.graph.isLive (scene.number s.graph.lastNode name) = true := by
  obtain ⟨later, hlater⟩ := hdone
  have hindex : scene.names.idxOf name < (added done).length := by
    rw [← hlater, List.idxOf_append_of_mem hname]
    exact List.idxOf_lt_length_of_mem hname
  have hbounds : ∀ (last : Int) {i n : Nat},
      i < n → last < last + 1 + i ∧ last + 1 + i ≤ last + n := by
    omega
  exact isLive_of_performed hcat hs h.performed (Or.inr (hbounds _ hindex))

/-- A due step of a scene is never refused because a node is missing. -/
theorem Stands.cause_ne (hcat : catalog.Registered) (hs : s.Coherent catalog compiler)
    (h : Stands catalog compiler scene s done a) (hdone : added done <+: scene.names) {step : Step}
    (hdue : step.Due scene done) {e : ApplyError}
    (hrefused : step.perform (scene.number s.graph.lastNode) a.session = .error e) :
    e.cause ≠ .nodeNotFound := by
  have hlive : ∀ name ∈ added done,
      a.session.graph.isLive (scene.number s.graph.lastNode name) = true :=
    fun _ hname => h.isLive hcat hs hdone hname
  obtain ⟨hwf, -⟩ := h.coherent.reached.wellFormed hcat
  rcases Step.perform_eq_error hrefused with hcommand | ⟨c, e', hcommand, happly, rfl⟩
  · cases step with
    | add d => cases hcommand
    | set d p => cases hcommand
    | join link =>
      rcases Step.command_join_error hcommand with ⟨reason, hport, rfl⟩ | ⟨reason, hport, rfl⟩
      · exact cause_portNamed (hlive _ hdue.1) hport
      · exact cause_portNamed (hlive _ hdue.2) hport
  · cases step with
    | add d =>
      cases hcommand
      exact cause_addNode (addNode_of_refusal happly)
    | set d p =>
      cases hcommand
      exact cause_setParameter (hlive _ hdue) (eq_error_of_bind_pure (apply_of_refused happly))
    | join link =>
      obtain ⟨source, target, hsource, htarget, rfl⟩ := Step.command_join hcommand
      obtain ⟨_, _, -, -, rfl⟩ := portNamed_eq_ok_iff.mp hsource
      obtain ⟨_, _, -, -, rfl⟩ := portNamed_eq_ok_iff.mp htarget
      exact hwf.cause_connect (hlive _ hdue.1) (hlive _ hdue.2)
        (eq_error_of_bind_pure (apply_of_refused happly))

/-- Whatever a scene with distinct names and declared endpoints is refused for, no node is
missing. -/
theorem Closed.cause_ne (hcat : catalog.Registered) (hnames : scene.names.Nodup)
    (hclosed : scene.Closed) (hs : s.Coherent catalog compiler) {e : ApplyError}
    (herror : (scene.apply s).error = some e) : e.cause ≠ .nodeNotFound := by
  rcases hclosed.apply_cases hcat hnames hs with
    ⟨hnone, -⟩ | ⟨e', before, step, later, herror', hsplit, hstands, hrefused⟩
  · cases hnone.symm.trans herror
  · obtain rfl := Option.some.inj (herror'.symm.trans herror)
    have hadded : added before <+: scene.names := by
      rw [← added_steps, hsplit, added_append]
      exact List.prefix_append _ _
    have hdue := hclosed.allDue
    rw [hsplit, allDue_append] at hdue
    exact hstands.cause_ne hcat hs hadded hdue.2.1 hrefused

end Scene

end FieldGraph
