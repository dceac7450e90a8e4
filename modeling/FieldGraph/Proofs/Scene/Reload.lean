import FieldGraph.Proofs.Scene.Load
import FieldGraph.Proofs.Shader.Renumber

/-!
# Reloading

A load first removes the nodes of the old graph. What is left behind is an empty graph whose
counters have moved, and applying a scene to it goes as it does from the start, with raised
numbers: both runs stay twins, command by command. Hence a load does not depend on what was loaded
before, and the shader it ends with is the same but for the numbers of nodes.
-/

namespace FieldGraph

open FieldGraph.Graph

/-! ## Twin sessions -/

namespace Session

/-- Sessions whose graphs differ in numbers only. -/
structure Twins (catalog : Catalog) (compiler : Compiler) (d e : Int) (a b : Session) : Prop where
  left : a.Coherent catalog compiler
  right : b.Coherent catalog compiler
  graph : a.graph = b.graph.shift d e
  valid : a.state = .valid ↔ b.state = .valid

variable {catalog : Catalog} {compiler : Compiler} {d e : Int} {a b : Session}

theorem Twins.symm (h : Twins catalog compiler d e a b) : Twins catalog compiler (-d) (-e) b a :=
  ⟨h.right, h.left, by rw [h.graph, shift_neg], h.valid.symm⟩

theorem Twins.dialect_eq (h : Twins catalog compiler d e a b) :
    a.compiler.dialect = b.compiler.dialect :=
  h.left.dialect.trans h.right.dialect.symm

theorem Twins.mode_eq (h : Twins catalog compiler d e a b) : a.compiler.mode = b.compiler.mode :=
  h.left.mode.trans h.right.mode.symm

theorem Settles.graph_eq {s : Session} {compilation : Compilation} (h : s.Settles compilation) :
    compilation.session.graph = s.graph := by
  cases h <;> rfl

theorem Settles.abort_eq {s : Session} {compilation : Compilation} (h : s.Settles compilation) :
    compilation.abort = none := by
  cases h <;> rfl

/-- If a graph compiles, then so does the renumbered graph. -/
theorem Settles.valid_of_shift {ca cb : Compilation} (ha : a.Settles ca) (hb : b.Settles cb)
    (hwf : b.graph.WellFormed) (hgraph : a.graph = b.graph.shift d e)
    (hdialect : a.compiler.dialect = b.compiler.dialect)
    (hmode : a.compiler.mode = b.compiler.mode) (hvalid : cb.session.state = .valid) :
    ca.session.state = .valid := by
  cases hb with
  | invalid => cases hvalid
  | @valid order shader counted records warnings ordered generated =>
    obtain ⟨done, hdone, -⟩ := Compiler.generate_eq_ok_iff.mp generated
    cases ha with
    | valid => rfl
    | invalid names records warnings expected fails =>
      rw [hgraph] at fails
      have hdone' := Compiler.finish_shift d e hwf hdone
      rw [← Compiler.finish_eq_ok_congr hdialect hmode] at hdone'
      exact absurd (Compiler.generate_eq_ok_iff.mpr ⟨_, hdone', rfl, rfl⟩)
        (fails _ _ _ (hwf.order_shift d e ordered))

/-- An accepted command that adds a node answers the next number. -/
theorem effect_addNode {s : Session} {kind : String} {position : Vec2}
    (h : (s.apply (.addNode kind position)).refused = none) :
    (s.apply (.addNode kind position)).effect.node = s.graph.lastNode + 1 := by
  unfold Session.apply at h ⊢
  cases hok : Command.apply s.graph (.addNode kind position) with
  | error error => simp [hok] at h
  | ok result =>
    obtain ⟨⟨id, g₁⟩, hadd, hrest⟩ := bind_eq_ok_iff.mp hok
    obtain ⟨g₂, -, he⟩ := bind_eq_ok_iff.mp hrest
    cases he
    cases step_of_addNode hadd with
    | push => rfl

/-- No node has the number zero, hence no port. -/
theorem Coherent.portNamed_zero {s : Session} (hcat : catalog.Registered)
    (h : s.Coherent catalog compiler) (output : Bool) (port : String) :
    s.graph.portNamed 0 output port = .error ⟨.nodeNotFound, toString (0 : NodeId)⟩ := by
  obtain ⟨hwf, -⟩ := h.reached.wellFormed hcat
  have hnone : s.graph.node? 0 = none := by
    refine Option.eq_none_iff_forall_ne_some.mpr fun n hn => ?_
    obtain ⟨hmem, hid⟩ := hwf.node?_iff.mp hn
    have hissued := hwf.nodeIds n hmem
    rw [hid] at hissued
    exact absurd hissued.1 (by decide)
  rw [Graph.portNamed, hnone]

/-- Twins stay twins under commands that are alike: both refuse them or both accept them. -/
theorem Twins.apply (hcat : catalog.Registered) (h : Twins catalog compiler d e a b)
    {raised command : Command} (halike : raised.Alike d command) :
    Twins catalog compiler d e (a.apply raised).session (b.apply command).session ∧
      (a.apply raised).refused.isSome = (b.apply command).refused.isSome ∧
      (a.apply raised).abort = none ∧ (b.apply command).abort = none := by
  rcases apply_cases hcat h.left.reached raised with
    ⟨ea, _, hfail, ha⟩ | ⟨effa, ga, _, ca, hok, hreached, hsettles, ha⟩ <;>
  rcases apply_cases hcat h.right.reached command with
    ⟨eb, _, hfail', hb⟩ | ⟨effb, gb, _, cb, hok', hreached', hsettles', hb⟩
  · rw [ha, hb]
    exact ⟨h, rfl, rfl, rfl⟩
  · obtain ⟨effect, hraised⟩ := halike.apply_shift e hok'
    rw [← h.graph] at hraised
    cases hfail.symm.trans hraised
  · obtain ⟨effect, hlowered⟩ := halike.symm.apply_shift (-e) hok
    rw [← h.symm.graph] at hlowered
    cases hfail'.symm.trans hlowered
  · obtain ⟨effect, hraised⟩ := halike.apply_shift e hok'
    rw [← h.graph] at hraised
    have hgraph : ga = gb.shift d e := (Prod.mk.inj (Except.ok.inj (hok.symm.trans hraised))).2
    have hback : gb = ga.shift (-d) (-e) := by rw [hgraph, shift_neg]
    obtain ⟨hwf, -⟩ := hreached.wellFormed hcat
    obtain ⟨hwf', -⟩ := hreached'.wellFormed hcat
    rw [ha, hb]
    refine ⟨⟨h.left.settles hreached hsettles, h.right.settles hreached' hsettles', ?_, ?_⟩, rfl,
      hsettles.abort_eq, hsettles'.abort_eq⟩
    · exact hsettles.graph_eq.trans (hgraph.trans (congrArg _ hsettles'.graph_eq.symm))
    · constructor
      · exact hsettles'.valid_of_shift hsettles hwf hback h.dialect_eq.symm h.mode_eq.symm
      · exact hsettles.valid_of_shift hsettles' hwf' hgraph h.dialect_eq h.mode_eq

/-- Valid twins show the same shader but for numbers. -/
theorem Twins.shaders (hcat : catalog.Registered) (h : Twins catalog compiler d e a b)
    (hvalid : b.state = .valid) :
    ∃ x y, a.shader = some x ∧ b.shader = some y ∧ x.source = y.source ∧
      x.expression = y.expression ∧ x.uniforms = y.uniforms ∧
      x.nodes = y.nodes.map (NodeCode.shift d) := by
  obtain ⟨ordera, donea, hordera, hdonea, hshadera⟩ := h.left.current (h.valid.mpr hvalid)
  obtain ⟨orderb, doneb, horderb, hdoneb, hshaderb⟩ := h.right.current hvalid
  obtain ⟨hwf, -⟩ := h.right.reached.wellFormed hcat
  rw [h.graph] at hordera hdonea
  obtain rfl := Except.ok.inj (hordera.symm.trans (hwf.order_shift d e horderb))
  rw [Compiler.finish_eq_ok_congr h.dialect_eq h.mode_eq] at hdonea
  obtain rfl := Except.ok.inj (hdonea.symm.trans (Compiler.finish_shift d e hwf hdoneb))
  rw [Compiler.shaderOf_congr h.dialect_eq h.mode_eq] at hshadera
  refine ⟨_, _, hshadera, hshaderb, ?_, rfl, rfl, rfl⟩
  simp only [Compiler.shaderOf, Compiler.text_write]
  rfl

end Session

/-! ## Twin applications -/

namespace Scene

open Session

/-- Applications of a scene to twins that have come equally far. -/
structure Applied.Twins (catalog : Catalog) (compiler : Compiler) (d e : Int) (a b : Applied) :
    Prop where
  session : Session.Twins catalog compiler d e a.session b.session
  ids : a.ids = b.ids.map fun entry => (entry.1, entry.2 + d)
  error : a.error.isSome = b.error.isSome
  abort_left : a.abort = none
  abort_right : b.abort = none

namespace Applied.Twins

variable {catalog : Catalog} {compiler : Compiler} {d e : Int} {a b : Applied}

theorem isOpen_eq (h : Applied.Twins catalog compiler d e a b) : a.isOpen = b.isOpen := by
  simp [isOpen, h.abort_left, h.abort_right, ← Option.not_isSome, h.error]

/-- Both know the same names, under numbers that differ by the amount. -/
theorem lookup_eq (h : Applied.Twins catalog compiler d e a b) (name : String) :
    a.ids.lookup name = (b.ids.lookup name).map (· + d) := by
  rw [h.ids]
  induction b.ids with
  | nil => rfl
  | cons entry rest ih =>
    rw [List.map_cons, List.lookup_cons, List.lookup_cons, ih]
    cases name == entry.1 <;> rfl

theorem idOf_eq (h : Applied.Twins catalog compiler d e a b) {name : String}
    (hknown : (b.ids.lookup name).isSome = true) : a.idOf name = b.idOf name + d := by
  obtain ⟨id, hid⟩ := Option.isSome_iff_exists.mp hknown
  simp [idOf, h.lookup_eq, hid]

/-- A new name may be learned under numbers that differ by the amount. -/
theorem named (h : Applied.Twins catalog compiler d e a b) (name : String) {raised id : NodeId}
    (hid : raised = id + d) :
    Applied.Twins catalog compiler d e { a with ids := (name, raised) :: a.ids }
      { b with ids := (name, id) :: b.ids } :=
  ⟨h.session, by simp [h.ids, hid], h.error, h.abort_left, h.abort_right⟩

variable (hcat : catalog.Registered)

include hcat

theorem command (h : Applied.Twins catalog compiler d e a b) {raised command : Command}
    (halike : raised.Alike d command) (refusal : EditError → ApplyError) :
    Applied.Twins catalog compiler d e (a.command raised refusal).1
      (b.command command refusal).1 := by
  obtain ⟨hsession, hrefused, hleft, hright⟩ := h.session.apply hcat halike
  exact ⟨hsession, h.ids, by simpa [Applied.command] using hrefused, hleft, hright⟩

theorem setParam (h : Applied.Twins catalog compiler d e a b) {name : String}
    (hknown : (b.ids.lookup name).isSome = true) (p : Param) :
    Applied.Twins catalog compiler d e (a.setParam name p) (b.setParam name p) ∧
      ((b.setParam name p).ids.lookup name).isSome = true := by
  unfold Applied.setParam
  rw [h.isOpen_eq, h.idOf_eq hknown]
  split
  · exact ⟨h.command hcat (.setParameter _ _ _) _, hknown⟩
  · exact ⟨h, hknown⟩

theorem setParams (h : Applied.Twins catalog compiler d e a b) {name : String}
    (hknown : (b.ids.lookup name).isSome = true) (params : List Param) :
    Applied.Twins catalog compiler d e (params.foldl (Applied.setParam name) a)
      (params.foldl (Applied.setParam name) b) := by
  induction params generalizing a b with
  | nil => exact h
  | cons p rest ih =>
    obtain ⟨hnext, hstill⟩ := h.setParam hcat hknown p
    exact ih hnext hstill

theorem declare (h : Applied.Twins catalog compiler d e a b) (decl : Declaration) :
    Applied.Twins catalog compiler d e (a.declare decl) (b.declare decl) := by
  rw [declare_eq, declare_eq, h.isOpen_eq]
  have hadded := h.command hcat (.addNode decl.kind decl.position) (.node decl.span decl.name)
  obtain ⟨-, hrefused, -⟩ := h.session.apply hcat (.addNode decl.kind decl.position)
  split
  · rw [← Option.not_isSome, hadded.error, Option.not_isSome]
    split
    next haccepted =>
      -- Both accept the node, so both answer their next number.
      have hright : (b.session.apply (.addNode decl.kind decl.position)).refused = none := by
        simpa [Applied.command] using haccepted
      have hleft : (a.session.apply (.addNode decl.kind decl.position)).refused = none := by
        rw [hright] at hrefused
        simpa using hrefused
      have hlast : a.session.graph.lastNode = b.session.graph.lastNode + d := by
        rw [h.session.graph]
        rfl
      have hnode : (a.session.apply (.addNode decl.kind decl.position)).effect.node =
          (b.session.apply (.addNode decl.kind decl.position)).effect.node + d := by
        rw [effect_addNode hleft, effect_addNode hright, hlast, Int.add_right_comm]
      exact (hadded.named decl.name hnode).setParams hcat (by simp) decl.params
    · exact hadded
  · exact h

/-- Both find a port by the names of node and port, or neither does. -/
theorem portNamed (h : Applied.Twins catalog compiler d e a b) (name : String) (output : Bool)
    (port : String) :
    (∃ p, b.session.graph.portNamed (b.idOf name) output port = .ok p ∧
      a.session.graph.portNamed (a.idOf name) output port = .ok (p.shift d)) ∨
    ∃ r r', b.session.graph.portNamed (b.idOf name) output port = .error r ∧
      a.session.graph.portNamed (a.idOf name) output port = .error r' := by
  cases hname : b.ids.lookup name with
  | none =>
    -- An unknown name stands for a number that no node has.
    have hleft : a.idOf name = 0 := by simp [idOf, h.lookup_eq, hname]
    have hright : b.idOf name = 0 := by simp [idOf, hname]
    rw [hleft, hright]
    exact Or.inr ⟨_, _, h.session.right.portNamed_zero hcat output port,
      h.session.left.portNamed_zero hcat output port⟩
  | some id =>
    rw [h.idOf_eq (by simp [hname]), h.session.graph]
    cases hport : b.session.graph.portNamed (b.idOf name) output port with
    | ok p => exact Or.inl ⟨p, rfl, portNamed_shift d e hport⟩
    | error r =>
      cases hport' : (b.session.graph.shift d e).portNamed (b.idOf name + d) output port with
      | error r' => exact Or.inr ⟨r, r', rfl, rfl⟩
      | ok p =>
        have hback := portNamed_shift (-d) (-e) hport'
        rw [shift_neg, Int.add_neg_cancel_right, hport] at hback
        cases hback

theorem connect (h : Applied.Twins catalog compiler d e a b) (link : Link) :
    Applied.Twins catalog compiler d e (a.connect link) (b.connect link) := by
  unfold Applied.connect
  rw [h.isOpen_eq]
  split
  · dsimp only
    rcases h.portNamed hcat link.source.node true link.source.port with
      ⟨source, hright, hleft⟩ | ⟨r, r', hright, hleft⟩
    · rw [hright, hleft]
      rcases h.portNamed hcat link.target.node false link.target.port with
        ⟨target, hright, hleft⟩ | ⟨r, r', hright, hleft⟩
      · simp only [hright, hleft]
        exact h.command hcat (.connect source target) _
      · simp only [hright, hleft]
        exact ⟨h.session, h.ids, rfl, h.abort_left, h.abort_right⟩
    · rw [hright, hleft]
      exact ⟨h.session, h.ids, rfl, h.abort_left, h.abort_right⟩
  · exact h

end Applied.Twins

/-- Applying a scene to twins yields twins. -/
theorem twins_apply {catalog : Catalog} {compiler : Compiler} {d e : Int} {a b : Session}
    (hcat : catalog.Registered) (h : Session.Twins catalog compiler d e a b) (scene : Scene) :
    Applied.Twins catalog compiler d e (scene.apply a) (scene.apply b) := by
  have hstart : Applied.Twins catalog compiler d e { session := a } { session := b } :=
    ⟨h, rfl, rfl, rfl, rfl⟩
  have hnodes : Applied.Twins catalog compiler d e
      (scene.nodes.foldl Applied.declare { session := a })
      (scene.nodes.foldl Applied.declare { session := b }) :=
    List.rel_foldl (fun _ _ hab _ _ hd => hd ▸ hab.declare hcat _) hstart
      (List.forall₂_same.mpr fun _ _ => rfl)
  exact List.rel_foldl (fun _ _ hab _ _ hl => hl ▸ hab.connect hcat _) hnodes
    (List.forall₂_same.mpr fun _ _ => rfl)

end Scene

/-! ## Clearing -/

/-- A well-formed graph without nodes is an empty graph whose counters have moved. -/
theorem Graph.WellFormed.eq_shift_empty {g : Graph} (h : g.WellFormed) (hnodes : g.nodes = []) :
    g = (Graph.empty g.catalog).shift g.lastNode g.lastConn := by
  have hconns : g.conns = [] := by
    refine List.eq_nil_iff_forall_not_mem.mpr fun c hc => ?_
    obtain ⟨⟨n, hn⟩, -⟩ := h.live_of_conn hc
    simp [node?, hnodes] at hn
  have hfeeds : g.feeds = [] := by
    cases hfirst : g.feeds with
    | nil => rfl
    | cons f rest =>
      obtain ⟨c, hc, -⟩ := h.feed?_iff.mp (show g.feed? f.1 = some f.2 by simp [feed?, hfirst])
      simp [hconns] at hc
  have hout : g.output = none := by
    refine Option.eq_none_iff_forall_ne_some.mpr fun id hid => ?_
    obtain ⟨n, hn, -⟩ := (h.output id).mp hid
    simp [hnodes] at hn
  cases g
  simp_all [shift, Graph.empty]

namespace Scene

open Session

variable {catalog : Catalog} {compiler : Compiler}

/-- The first node of a graph can be removed, which leaves the others. -/
theorem Loaded.remove_first (hcat : catalog.Registered) {l : Loaded} (herror : l.error = none)
    (h : l.session.Coherent catalog compiler) {n : Node} {rest : List Node}
    (hnodes : l.session.graph.nodes = n :: rest) :
    (l.remove n.id).error = none ∧ (l.remove n.id).session.Coherent catalog compiler ∧
      (l.remove n.id).session.graph.nodes = rest ∧
      (l.remove n.id).session.graph.lastNode = l.session.graph.lastNode ∧
      (l.remove n.id).session.graph.lastConn = l.session.graph.lastConn := by
  obtain ⟨hwf, -⟩ := h.reached.wellFormed hcat
  have hlive : l.session.graph.isLive n.id = true := by simp [isLive, node?, hnodes]
  have hremove := removeNode_eq_ok_iff.mpr ⟨hlive, rfl⟩
  have hcommand : Command.apply l.session.graph (.removeNode n.id) =
      .ok ({ removed := l.session.graph.touching n.id }, l.session.graph.withoutNode n.id) :=
    bind_eq_ok_iff.mpr ⟨_, hremove, rfl⟩
  have hothers : (l.session.graph.withoutNode n.id).nodes = rest := by
    have hascending : Ascending Node.id (n :: rest) := hnodes ▸ hwf.nodesAscending
    rw [withoutNode, hnodes]
    simp only [List.filter_cons, bne_self_eq_false, Bool.false_eq_true, if_false]
    refine List.filter_eq_self.mpr fun m hm => ?_
    have hlt : n.id < m.id := List.rel_of_pairwise_cons hascending hm
    exact bne_iff_ne.mpr hlt.ne'
  rcases apply_cases hcat h.reached (.removeNode n.id) with
    ⟨e, _, hfail, -⟩ | ⟨effect, graph, record, compilation, hok, hreached, hsettles, happly⟩
  · cases hfail.symm.trans hcommand
  · obtain ⟨-, rfl⟩ := Prod.mk.inj (Except.ok.inj (hok.symm.trans hcommand))
    have hresult : l.remove n.id =
        { session := compilation.session
          events := l.events ++ .log record :: compilation.events } := by
      rw [Loaded.remove, herror, if_neg (by simp), happly]
      simp only [hsettles.abort_eq]
    rw [hresult]
    refine ⟨rfl, h.settles hreached hsettles, ?_⟩
    rw [hsettles.graph_eq]
    exact ⟨hothers, by simp [withoutNode, foldl_dropConn], by simp [withoutNode, foldl_dropConn]⟩

/-- Removing all nodes succeeds and leaves the counters alone. -/
theorem Loaded.clear (hcat : catalog.Registered) {l : Loaded} (herror : l.error = none)
    (h : l.session.Coherent catalog compiler) :
    (l.session.graph.nodeIds.foldl Loaded.remove l).error = none ∧
      (l.session.graph.nodeIds.foldl Loaded.remove l).session.Coherent catalog compiler ∧
      (l.session.graph.nodeIds.foldl Loaded.remove l).session.graph =
        (Graph.empty catalog).shift l.session.graph.lastNode l.session.graph.lastConn := by
  generalize hnodes : l.session.graph.nodes = nodes
  rw [nodeIds, hnodes]
  induction nodes generalizing l with
  | nil =>
    obtain ⟨hwf, hcatalog⟩ := h.reached.wellFormed hcat
    refine ⟨herror, h, ?_⟩
    rw [← hcatalog]
    exact hwf.eq_shift_empty hnodes
  | cons n rest ih =>
    obtain ⟨herror', h', hrest, hlastNode, hlastConn⟩ := remove_first hcat herror h hnodes
    have hcleared := ih herror' h' hrest
    rwa [hlastNode, hlastConn] at hcleared

/-- A scene is placed if nothing refuses it and the session is valid in the end. -/
theorem Loaded.error_place_iff {l : Loaded} (herror : l.error = none) (scene : Scene) :
    (l.place scene).error = none ↔ (scene.apply l.session).error = none ∧
      (scene.apply l.session).abort = none ∧ (scene.apply l.session).session.state = .valid := by
  unfold Loaded.place
  rw [herror]
  cases hrefused : (scene.apply l.session).error <;>
    cases haborted : (scene.apply l.session).abort <;> simp [hrefused, haborted]

theorem Loaded.session_place {l : Loaded} (herror : l.error = none) (scene : Scene) :
    (l.place scene).session = (scene.apply l.session).session := by
  rw [Loaded.place, herror]
  rfl

/-- Over every registered catalog, a load into a session that calls lead to goes as a load into
a new session whose compiler has the same dialect and mode: one succeeds if the other does. Then
both show a shader with the same source, expression and uniforms and the same code of nodes,
whose numbers are larger by the number of the last node that the session had before. -/
theorem reload_eq_fresh_load (drafts : List Draft) (compiler : Compiler) (tolerant : Bool)
    (calls : List Call) (workGroup generation : Nat) (tolerant' : Bool)
    (source : Except FileError String) :
    let catalog := drafts.foldl Catalog.extend .empty
    let s := (Session.new catalog compiler tolerant).after calls
    let fresh := Session.new catalog { compiler with workGroup, generation } tolerant'
    ((load source s).error = none ↔ (load source fresh).error = none) ∧
      ((load source fresh).error = none → ∃ x y,
        (load source s).session.shader = some x ∧ (load source fresh).session.shader = some y ∧
        x.source = y.source ∧ x.expression = y.expression ∧ x.uniforms = y.uniforms ∧
        x.nodes = y.nodes.map fun code => { code with node := code.node + s.graph.lastNode }) := by
  intro catalog s fresh
  have hcat : catalog.Registered := ⟨drafts, rfl⟩
  have hs : s.Coherent catalog compiler := (coherent_new catalog compiler tolerant).after hcat calls
  have hfresh : fresh.Coherent catalog compiler :=
    { coherent_new catalog { compiler with workGroup, generation } tolerant' with
      dialect := rfl, mode := rfl }
  cases source with
  | error error => simp [load]
  | ok text =>
    cases hscene : ofText text with
    | error findings => simp [load, hscene]
    | ok scene =>
      have hload : ∀ t : Session, load (.ok text) t =
          (t.graph.nodeIds.foldl Loaded.remove { session := t }).place scene := by
        intro t
        simp only [load, hscene]
      obtain ⟨herror, hcleared, hgraph⟩ := Loaded.clear (l := { session := s }) hcat rfl hs
      rw [hload s, hload fresh]
      set cleared := s.graph.nodeIds.foldl Loaded.remove { session := s }
      -- Without an output nothing is valid, neither what was cleared nor what is new.
      have hinvalid : cleared.session.state ≠ .valid := by
        intro hvalid
        obtain ⟨order, done, horder, -⟩ := hcleared.current hvalid
        simp [hgraph, Graph.order, shift, Graph.empty] at horder
      have htwins : Session.Twins catalog compiler s.graph.lastNode s.graph.lastConn
          cleared.session fresh :=
        ⟨hcleared, hfresh, hgraph, iff_of_false hinvalid (by simp [fresh, Session.new])⟩
      have hplaced := twins_apply hcat htwins scene
      have hfirst : (fresh.graph.nodeIds.foldl Loaded.remove { session := fresh }) =
          { session := fresh } := rfl
      rw [hfirst, Loaded.session_place herror, Loaded.session_place rfl,
        Loaded.error_place_iff herror, Loaded.error_place_iff rfl]
      refine ⟨?_, fun hloaded => hplaced.session.shaders hcat hloaded.2.2⟩
      rw [hplaced.session.valid, hplaced.abort_left, hplaced.abort_right,
        ← Option.not_isSome_iff_eq_none, hplaced.error, Option.not_isSome_iff_eq_none]

end Scene

end FieldGraph
