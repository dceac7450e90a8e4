import FieldGraph.Proofs.Scene.Text

/-!
# Which argument sets a parameter

A parameter `x`, `y` or `z` can be set by an argument of its name and by the argument `xyz`. The
arguments of a block are read in the order of the text, but what `xyz` sets is listed before all
others, wherever it is written. So the list is in the order of the text only if `xyz` is written
before the others, and the argument of a parameter's own name always prevails.
-/

namespace FieldGraph.Scene

open Config (Argument Block Body)
open Session FieldGraph.Graph

/-- The parameters of a block as they are listed: those of the axes, then the others in the order
of the text, each of them once. -/
structure Listing (b : Block) (axes own params : List Param) : Prop where
  all : params = axes ++ own
  fromAxes : NodeBlock.SetsAxes (b.argument? "xyz") axes
  fromOwn : List.Forall₂ NodeBlock.Sets (b.arguments.filter (·.name ∉ Blocks.reserved)) own
  ascending : own.Pairwise fun p q => p.span.start.byte < q.span.start.byte
  distinct : (own.map (·.name)).Nodup

/-- The value of a parameter is that of the argument of its name, or else that of its axis, or
else the default. -/
structure Settled (axes own : List Param) (spec : ParamSpec) (value : Float32) : Prop where
  byName : ∀ p ∈ own, p.name = spec.name → value = p.value
  byAxis : (∀ p ∈ own, p.name ≠ spec.name) → ∀ p ∈ axes, p.name = spec.name → value = p.value
  byDefault : (∀ p ∈ axes ++ own, p.name ≠ spec.name) → value = spec.default

/-! ## Order -/

namespace Listing

variable {b : Block} {axes own params : List Param}

/-- A block in the order of the text lists its own parameters in that order. -/
theorem of_gives (horder : Config.InOrder b.arguments b.blocks) {d : Declaration}
    (hd : (Blocks.decodeNode b).1.Gives d) : ∃ axes own, Listing b axes own d.params := by
  obtain ⟨hascending, hnames, -, -⟩ := horder
  obtain ⟨axes, own, haxes, hown, hparams⟩ := hd.params
  have hpart : List.Sublist (Blocks.decodeNode b).1.params b.arguments := List.filter_sublist
  have hplaces : (Blocks.decodeNode b).1.params.map (·.span.start.byte) =
      own.map (·.span.start.byte) := map_eq_of_forall₂ hown fun a p hp => by rw [hp.span]
  have hsame : (Blocks.decodeNode b).1.params.map (·.name) = own.map (·.name) :=
    map_eq_of_forall₂ hown fun a p hp => hp.name.symm
  refine ⟨axes, own, hparams, haxes, hown, ?_, ?_⟩
  · rw [← List.pairwise_map (f := fun p : Param => p.span.start.byte) (R := (· < ·)), ← hplaces,
      List.pairwise_map]
    exact hascending.sublist hpart
  · rw [← hsame]
    exact hnames.sublist (hpart.map _)

/-- The parameters are in the order of the text exactly if no argument for one of them is written
before `xyz`. -/
theorem pairwise_iff (h : Listing b axes own params) :
    params.Pairwise (fun p q => p.span.start.byte ≤ q.span.start.byte) ↔
      ∀ xyz ∈ b.argument? "xyz", ∀ a ∈ b.arguments, a.name ∉ Blocks.reserved →
        xyz.span.start.byte ≤ a.span.start.byte := by
  have hown : own.Pairwise fun p q => p.span.start.byte ≤ q.span.start.byte :=
    h.ascending.imp Nat.le_of_lt
  have hplaces : (b.arguments.filter (·.name ∉ Blocks.reserved)).map (·.span.start.byte) =
      own.map (·.span.start.byte) := map_eq_of_forall₂ h.fromOwn fun a p hp => by rw [hp.span]
  have hfrom := h.fromAxes
  rw [h.all, List.pairwise_append]
  cases hxyz : b.argument? "xyz" with
  | none =>
    rw [hxyz] at hfrom
    cases hfrom
    simpa using hown
  | some xyz =>
    rw [hxyz] at hfrom
    have haxes : axes.Pairwise fun p q => p.span.start.byte ≤ q.span.start.byte := by
      cases hfrom with
      | given => simp
    have hbetween : (∀ p ∈ axes, ∀ q ∈ own, p.span.start.byte ≤ q.span.start.byte) ↔
        ∀ q ∈ own, xyz.span.start.byte ≤ q.span.start.byte := by
      cases hfrom with
      | given => simp
    have harguments : (∀ q ∈ own, xyz.span.start.byte ≤ q.span.start.byte) ↔
        ∀ a ∈ b.arguments.filter (·.name ∉ Blocks.reserved),
          xyz.span.start.byte ≤ a.span.start.byte := by
      rw [← List.forall_mem_map (f := fun q : Param => q.span.start.byte)
        (P := (xyz.span.start.byte ≤ ·)), ← hplaces, List.forall_mem_map]
    rw [hbetween, harguments]
    simp [haxes, hown]

end Listing

/-! ## Values -/

/-- The last assignment to a name is the only one. -/
theorem findLast_eq {params : List Param} (hnames : (params.map (·.name)).Nodup) {p : Param}
    (hp : p ∈ params) : params.reverse.find? (·.name == p.name) = some p := by
  cases hfind : params.reverse.find? (·.name == p.name) with
  | none =>
    have hother := List.find?_eq_none.mp hfind p (List.mem_reverse.mpr hp)
    exact absurd (beq_self_eq_true p.name) hother
  | some q =>
    have hq : q ∈ params := List.mem_reverse.mp (List.mem_of_find?_eq_some hfind)
    have hname : q.name = p.name := by simpa using List.find?_some hfind
    rw [List.inj_on_of_nodup_map hnames hq hp hname]

theorem findLast_eq_none {params : List Param} {name : String}
    (h : ∀ p ∈ params, p.name ≠ name) : params.reverse.find? (·.name == name) = none :=
  List.find?_eq_none.mpr fun p hp => by simpa using h p (List.mem_reverse.mp hp)

theorem nodup_of_setsAxes {argument : Option Argument} {axes : List Param}
    (h : NodeBlock.SetsAxes argument axes) : (axes.map (·.name)).Nodup := by
  cases h with
  | absent => exact List.nodup_nil
  | given => simp

/-- The last assignment in a listing is that of the own argument, if there is one. -/
theorem Listing.settled {b : Block} {axes own params : List Param}
    (h : Listing b axes own params) (spec : ParamSpec) :
    Settled axes own spec (assigned params spec) := by
  -- The search starts at the end, so it comes to the own arguments before the axes.
  have hfind : params.reverse.find? (·.name == spec.name) =
      (own.reverse.find? (·.name == spec.name)).or (axes.reverse.find? (·.name == spec.name)) := by
    rw [h.all, List.reverse_append, List.find?_append]
  have haxes := nodup_of_setsAxes h.fromAxes
  rw [assigned, hfind]
  constructor
  · intro p hp hname
    rw [← hname, findLast_eq h.distinct hp]
    rfl
  · intro hnone p hp hname
    rw [findLast_eq_none hnone, ← hname, findLast_eq haxes hp]
    rfl
  · intro hnone
    obtain ⟨hnoAxis, hnoName⟩ := List.forall_mem_append.mp hnone
    rw [findLast_eq_none hnoName, findLast_eq_none hnoAxis]
    rfl

/-! ## Nodes -/

theorem exists_mem_of_forall₂ {α β : Type} {R : α → β → Prop} {as : List α} {bs : List β}
    (h : List.Forall₂ R as bs) {a : α} (ha : a ∈ as) : ∃ b ∈ bs, R a b := by
  have hpaired := forall₂_and_right.mpr ⟨h, fun b hb => hb⟩
  obtain ⟨b, hab, hb⟩ := exists_forall₂_iff.mp ⟨bs, hpaired⟩ a ha
  exact ⟨b, hb, hab⟩

/-- The node that a scene adds for a declaration, known by its name. -/
theorem exists_node_of_applied {catalog : Catalog} (hcat : catalog.Registered) {compiler : Compiler}
    {s : Session} (hs : s.Coherent catalog compiler) {scene : Scene} (hnames : scene.names.Nodup)
    (hclosed : scene.Closed) (hok : (scene.apply s).error = none) {d : Declaration}
    (hd : d ∈ scene.nodes) :
    ∃ n, (scene.apply s).ids.lookup d.name = some n.id ∧
      (scene.apply s).session.graph.node? n.id = some n ∧ Declares catalog d n := by
  rcases hclosed.apply_cases hcat hnames hs with
    ⟨-, hstands⟩ | ⟨e, done, step, later, herror, -, -, -⟩
  · obtain ⟨added, made, hgraph, hadded, -⟩ := steps_performed hcat hnames hs hstands.performed
    obtain ⟨hwf, -⟩ := hstands.coherent.reached.wellFormed hcat
    obtain ⟨i, hi⟩ := List.getElem?_of_mem hd
    have hmem : (d, i) ∈ scene.nodes.zipIdx := List.mk_mem_zipIdx_iff_getElem?.mpr hi
    obtain ⟨n, hn, hid, hdeclares⟩ := exists_mem_of_forall₂ hadded hmem
    have hname : d.name ∈ scene.names := List.mem_map_of_mem hd
    refine ⟨n, ?_, ?_, hdeclares⟩
    · rw [hstands.known, added_steps, if_pos hname, hid]
      exact congrArg some (number_of_zipIdx hnames _ (d, i) hmem)
    · refine hwf.node?_iff.mpr ⟨?_, rfl⟩
      rw [hgraph]
      exact List.mem_append_right _ hn
  · cases herror.symm.trans hok

/-- If a scene is read from a body in the order of a text, each of its declarations comes from a
block whose parameters are listed with those of `xyz` first and the others after them in the order
of the text. The list as a whole is in the order of the text exactly if no parameter is written
before `xyz`. Over every registered catalog, if applying the scene to a session that calls lead to
fails nowhere, then each parameter of the declared node has the value of the argument of its name,
or else that of `xyz`, or else its default. A text from which the scene is read has such a body. -/
theorem own_arguments_prevail (scene : Scene) :
    (∀ body : Body, Config.InOrder body.arguments body.blocks → ofBody body = .ok scene →
      ∀ d ∈ scene.nodes, ∃ b ∈ body.blocks, b.type = "node" ∧ d.span = b.span ∧
        ∃ axes own, Listing b axes own d.params ∧
          (d.params.Pairwise (fun p q => p.span.start.byte ≤ q.span.start.byte) ↔
            ∀ xyz ∈ b.argument? "xyz", ∀ a ∈ b.arguments, a.name ∉ Blocks.reserved →
              xyz.span.start.byte ≤ a.span.start.byte) ∧
          ∀ (drafts : List Draft) (compiler : Compiler) (tolerant : Bool) (calls : List Call),
            let start := Session.new (drafts.foldl Catalog.extend .empty) compiler tolerant
            let a := scene.apply (start.after calls)
            a.error = none → ∃ n, a.ids.lookup d.name = some n.id ∧
              a.session.graph.node? n.id = some n ∧
              List.Forall₂ (Settled axes own) n.kind.params n.params) ∧
    ∀ source, ofText source = .ok scene →
      Config.InOrder (Body.ofText source).1.arguments (Body.ofText source).1.blocks ∧
        ofBody (Body.ofText source).1 = .ok scene := by
  refine ⟨fun body horder h d hd => ?_,
    fun source h => ⟨Config.Body.inOrder_ofText source, (ofText_eq_ok_iff.mp h).2⟩⟩
  obtain ⟨blocks, hblocks, hgive⟩ := ofBody_eq_ok_iff.mp h
  have hheld := Blocks.held_of_ofBody hblocks
  have hnodes := hgive.nodes
  rw [hheld.nodes, List.forall₂_map_left_iff] at hnodes
  obtain ⟨b, hb, hgives⟩ := exists_mem_of_forall₂ hnodes.flip hd
  obtain ⟨hmem, htype⟩ := List.mem_filter.mp hb
  obtain ⟨-, -, -, hinner⟩ := horder
  obtain ⟨axes, own, hlisting⟩ := Listing.of_gives (hinner b hmem) hgives
  refine ⟨b, hmem, of_decide_eq_true htype, hgives.span, axes, own, hlisting,
    hlisting.pairwise_iff, ?_⟩
  intro drafts compiler tolerant calls start a hok
  have hcat : (drafts.foldl Catalog.extend .empty).Registered := ⟨drafts, rfl⟩
  have hs := (coherent_new (drafts.foldl Catalog.extend .empty) compiler tolerant).after hcat calls
  obtain ⟨n, hknown, hn, hdeclares⟩ :=
    exists_node_of_applied hcat hs hgive.names hgive.closed hok hd
  refine ⟨n, hknown, hn, ?_⟩
  rw [hdeclares.params, List.forall₂_map_right_iff]
  exact List.forall₂_same.mpr fun spec _ => hlisting.settled spec

/-- A moved node whose `x` is written before its `xyz`. -/
def xyzLast : String :=
  "node \"m\" \x7b\n  kind = \"translate\"\n  x    = 5\n  xyz  = [1, 2, 3]\n\x7d\n"

/-- The parameters that `xyzLast` lists, with their places. -/
theorem listed_xyzLast : ((ofText xyzLast).toOption.map fun scene => scene.nodes.map fun d =>
    d.params.map fun p => (p.name, p.span.start.byte, p.value.toBits)) =
    some [[("x", 45, 0x3f800000), ("y", 45, 0x40000000), ("z", 45, 0x40400000),
      ("x", 34, 0x40a00000)]] := by
  decide +kernel

/-- The node that `xyzLast` adds to a new session, by its first parameter. -/
theorem added_xyzLast : ((ofText xyzLast).toOption.map fun scene =>
    ((scene.apply (Session.new .standard)).error.isNone,
      (scene.apply (Session.new .standard)).session.graph.nodes.map fun n =>
        (n.kind.param? "x", n.params.head?.map (·.toBits)))) =
    some (true, [(some 0, some 0x40a00000)]) := by
  rw [Catalog.standard_eq]
  decide +kernel

theorem reads_xyzLast : ∃ scene d, ofText xyzLast = .ok scene ∧ scene.nodes = [d] ∧
    (d.params.map fun p => (p.name, p.span.start.byte, p.value.toBits)) =
      [("x", 45, 0x3f800000), ("y", 45, 0x40000000), ("z", 45, 0x40400000),
        ("x", 34, 0x40a00000)] ∧
    (scene.apply (Session.new .standard)).error = none ∧
    ((scene.apply (Session.new .standard)).session.graph.nodes.map fun n =>
      (n.kind.param? "x", n.params.head?.map (·.toBits))) = [(some 0, some 0x40a00000)] := by
  obtain ⟨scene, hscene, hnodes⟩ := exists_of_toOption_map listed_xyzLast
  obtain ⟨scene', hscene', hadded⟩ := exists_of_toOption_map added_xyzLast
  obtain rfl := Except.ok.inj (hscene.symm.trans hscene')
  obtain ⟨d, hd, hlisted⟩ := List.map_eq_singleton_iff.mp hnodes
  obtain ⟨herror, hgraph⟩ := Prod.mk.inj hadded
  exact ⟨scene, d, hscene, hd, hlisted, Option.isNone_iff_eq_none.mp herror, hgraph⟩

/-- The own argument prevails over a later `xyz`. -/
theorem own_arguments_prevail_xyzLast :
    ∃ scene d, ofText xyzLast = .ok scene ∧ scene.nodes = [d] ∧
      (scene.apply (Session.new .standard)).error = none ∧
      ∃ b ∈ (Body.ofText xyzLast).1.blocks, ∃ axes own, Listing b axes own d.params ∧
        ∃ n, (scene.apply (Session.new .standard)).ids.lookup d.name = some n.id ∧
          (scene.apply (Session.new .standard)).session.graph.node? n.id = some n ∧
          List.Forall₂ (Settled axes own) n.kind.params n.params := by
  obtain ⟨scene, d, hscene, hnodes, -, herror, -⟩ := reads_xyzLast
  have hd : d ∈ scene.nodes := hnodes ▸ List.mem_singleton_self d
  obtain ⟨hbodies, htexts⟩ := own_arguments_prevail scene
  obtain ⟨horder, hread⟩ := htexts xyzLast hscene
  obtain ⟨b, hb, -, -, axes, own, hlisting, -, happly⟩ := hbodies _ horder hread d hd
  obtain ⟨drafts, hdrafts⟩ := Catalog.standard_registered
  have hnode := happly drafts {} false []
  rw [← hdrafts] at hnode
  exact ⟨scene, d, hscene, hnodes, herror, b, hb, axes, own, hlisting, hnode herror⟩

/-- Parameters are not always listed in the order of the text, and the argument written last does
not always prevail: `xyzLast` sets `x` to one after it set `x` to five, and it stays five. -/
theorem not_last_argument_prevails :
    (¬ ∀ (source : String) (scene : Scene), ofText source = .ok scene → ∀ d ∈ scene.nodes,
      d.params.Pairwise fun p q => p.span.start.byte ≤ q.span.start.byte) ∧
    ¬ ∀ (source : String) (scene : Scene), ofText source = .ok scene →
      (scene.apply (Session.new .standard)).error = none → ∀ d ∈ scene.nodes, ∀ p ∈ d.params,
      (∀ q ∈ d.params, q.name = p.name → q.span.start.byte ≤ p.span.start.byte) →
      ∀ n, (scene.apply (Session.new .standard)).ids.lookup d.name = some n.id →
        (scene.apply (Session.new .standard)).session.graph.node? n.id = some n →
        ∀ index, n.kind.param? p.name = some index → n.params[index]? = some p.value := by
  obtain ⟨scene, d, hscene, hnodes, hparams, herror, hgraph⟩ := reads_xyzLast
  have hd : d ∈ scene.nodes := hnodes ▸ List.mem_singleton_self d
  have hplaces : d.params.map (·.span.start.byte) = [45, 45, 45, 34] := by
    simpa [Function.comp_def] using congrArg (List.map (·.2.1)) hparams
  constructor
  · intro h
    have hsorted := List.pairwise_map.mpr (h xyzLast scene hscene d hd)
    rw [hplaces] at hsorted
    exact absurd hsorted (by decide)
  · intro h
    obtain ⟨p, rest, hcons, hp, -⟩ := List.map_eq_cons_iff.mp hparams
    obtain ⟨hname, hplace, hbits⟩ : p.name = "x" ∧ p.span.start.byte = 45 ∧
        p.value.toBits = 0x3f800000 := by
      simpa using hp
    have hlast : ∀ q ∈ d.params, q.span.start.byte ≤ p.span.start.byte := by
      have hall : ∀ place ∈ d.params.map (·.span.start.byte), place ≤ 45 := by
        rw [hplaces]
        decide
      intro q hq
      rw [hplace]
      exact hall _ (List.mem_map_of_mem hq)
    obtain ⟨blocks, -, hgive⟩ := ofBody_eq_ok_iff.mp (ofText_eq_ok_iff.mp hscene).2
    obtain ⟨n, hknown, hn, -⟩ := exists_node_of_applied Catalog.standard_registered
      (coherent_new .standard {} false) hgive.names hgive.closed herror hd
    have hmem : (n.kind.param? "x", n.params.head?.map (·.toBits)) ∈
        [(some 0, some (0x40a00000 : UInt32))] := by
      rw [← hgraph]
      exact List.mem_map_of_mem (List.mem_of_find?_eq_some hn)
    obtain ⟨hindex, hfirst⟩ := Prod.mk.inj (List.mem_singleton.mp hmem)
    have hvalue := h xyzLast scene hscene herror d hd p (hcons ▸ List.mem_cons_self)
      (fun q hq _ => hlast q hq) n hknown hn 0 (hname ▸ hindex)
    rw [List.head?_eq_getElem?, hvalue, Option.map_some, hbits] at hfirst
    exact absurd hfirst (by decide)

end FieldGraph.Scene
