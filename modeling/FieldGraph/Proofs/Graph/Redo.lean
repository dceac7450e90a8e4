import FieldGraph.Proofs.Shader.Upstream

/-!
# Undoing and redoing connections

A connection that was just made can be removed, and then nothing is left of it but the number it
used up. A connection that was removed can be made again: its ports are still there, its input was
fed by nothing else and is free, and a way back from its destination to its source would have been a
cycle while it was there. It gets a new number, which is all that distinguishes the graphs, so what
is compiled of them is the same.
-/

namespace FieldGraph

open Relation

namespace Graph

variable {g : Graph}

/-! ## Undoing -/

/-- A connection to a free input can be dropped again. -/
theorem WellFormed.dropConn_pushConn (h : g.WellFormed) {src dst : Port}
    (hfree : g.feed? dst = none) :
    (g.pushConn src dst).2.dropConn ⟨g.lastConn + 1, src, dst⟩ =
      { g with lastConn := g.lastConn + 1 } := by
  have hconns : g.conns.filter (·.id != g.lastConn + 1) = g.conns :=
    List.filter_eq_self.mpr fun c hc => bne_iff_ne.mpr (h.connId_ne_next hc)
  simp [Graph.dropConn, Graph.pushConn, hconns, filter_feeds_of_free hfree]

/-- A connection that was made can be removed, and only its number is used up. -/
theorem WellFormed.disconnect_connect (h : g.WellFormed) {src dst : Port} {id : ConnId}
    {g' : Graph} (hok : g.connect src dst = .ok (id, g')) :
    g'.disconnect id = .ok { g with lastConn := g'.lastConn } := by
  have hwf := h.connect hok
  obtain ⟨-, -, _, _, -, -, -, -, hfree, -, he⟩ := connect_eq_ok_iff.mp hok
  obtain ⟨rfl, rfl⟩ := Prod.mk.inj he
  have hfound : (g.pushConn src dst).2.conn? (g.lastConn + 1) =
      some ⟨g.lastConn + 1, src, dst⟩ :=
    hwf.conn?_iff.mpr ⟨mem_conns_pushConn.mpr (Or.inr rfl), rfl⟩
  exact disconnect_eq_ok_iff.mpr ⟨_, hfound, (h.dropConn_pushConn hfree).symm⟩

/-! ## Redoing -/

/-- A connection that was dropped can be made again. -/
theorem WellFormed.connect_dropConn (h : g.WellFormed) {c : Connection} (hc : c ∈ g.conns) :
    (g.dropConn c).connect c.src c.dst = .ok ((g.dropConn c).pushConn c.src c.dst) := by
  obtain ⟨hout, hin, srcSpec, dstSpec, hsrc, hdst, htype⟩ := h.linked c hc
  have hedge : g.Feeds c.src.node c.dst.node := ⟨c, hc, rfl, rfl⟩
  have hself : c.src.node ≠ c.dst.node := by
    intro hsame
    rw [← hsame] at hedge
    exact h.acyclic _ (.single hedge)
  have hfree : (g.dropConn c).feed? c.dst = none := by rw [feed?_dropConn, if_pos rfl]
  -- A way back exists in the whole graph too, where the connection closes it to a cycle.
  have hopen : (g.dropConn c).reaches c.dst.node c.src.node = false := by
    rw [Bool.eq_false_iff, ne_eq, reaches_iff]
    intro hpath
    refine h.acyclic c.src.node (TransGen.head' hedge (ReflTransGen.mono ?_ _ _ hpath))
    rintro a b ⟨d, hd, rfl, rfl⟩
    exact ⟨d, (mem_conns_dropConn.mp hd).1, rfl, rfl⟩
  exact connect_eq_ok_iff.mpr
    ⟨hout, hin, srcSpec, dstSpec, hsrc, hdst, htype, hself, hfree, hopen, rfl⟩

/-- A connection that is made again has a new number, and nothing else differs. -/
theorem WellFormed.relabelled_redo (h : g.WellFormed) {c : Connection} (hc : c ∈ g.conns) :
    Relabelled (Equiv.swap c.id (g.lastConn + 1)) { g with lastConn := g.lastConn + 1 }
      ((g.dropConn c).pushConn c.src c.dst).2 := by
  have hfixed : ∀ d ∈ g.conns, d ≠ c → Equiv.swap c.id (g.lastConn + 1) d.id = d.id := by
    intro d hd hne
    refine Equiv.swap_apply_of_ne_of_ne (fun hsame => hne ?_) (h.connId_ne_next hd)
    exact h.connsAscending.eq_of_key_eq hd hc hsame
  have hkeep : ∀ d ∈ g.conns, d ≠ c → d.relabel (Equiv.swap c.id (g.lastConn + 1)) = d := by
    intro d hd hne
    rw [Connection.relabel, hfixed d hd hne]
  have hmove : c.relabel (Equiv.swap c.id (g.lastConn + 1)) = ⟨g.lastConn + 1, c.src, c.dst⟩ := by
    rw [Connection.relabel, Equiv.swap_apply_left]
  refine ⟨rfl, rfl, rfl, rfl, rfl, fun d => ?_, fun dst => ?_⟩
  · rw [mem_conns_pushConn, mem_conns_dropConn]
    constructor
    · rintro (⟨hd, hne⟩ | hd)
      · have hsame := hkeep _ hd fun he => hne (congrArg Connection.id he)
        rwa [Connection.relabel_inj.mp hsame] at hd
      · rw [Connection.relabel_inj.mp (hd.trans hmove.symm)]
        exact hc
    · intro hd
      by_cases he : d = c
      · rw [he]
        exact Or.inr hmove
      · have hne : d.id ≠ c.id := fun hsame => he (h.connsAscending.eq_of_key_eq hd hc hsame)
        rw [hkeep d hd he]
        exact Or.inl ⟨hd, hne⟩
  · rw [feed?_pushConn, feed?_dropConn]
    change _ = (g.feed? dst).map _
    by_cases hdst : dst = c.dst
    · rw [if_pos hdst, hdst, h.feed?_iff.mpr ⟨c, hc, rfl, rfl⟩, Option.map_some,
        Equiv.swap_apply_left]
      rfl
    · rw [if_neg hdst, if_neg hdst]
      cases hfed : g.feed? dst with
      | none => rfl
      | some id =>
        obtain ⟨d, hd, rfl, rfl⟩ := h.feed?_iff.mp hfed
        rw [Option.map_some, hfixed d hd fun hsame => hdst (by rw [hsame])]

end Graph

/-- Over every registered catalog and in every graph that edits lead to: a connection that was made
can be removed, which restores the graph but for the number used up. Every connection can be removed
and made again between its ports. It then has a number that no connection had, the graph differs in
that number only, and it has the same report, the same order and, over every list of nodes, the same
shader or error. -/
theorem connections_undo_redo (drafts : List Draft) (edits : List Edit) :
    let g := (Graph.empty (drafts.foldl Catalog.extend .empty)).run edits
    (∀ src dst id g₁, g.connect src dst = .ok (id, g₁) →
      g₁.disconnect id = .ok { g with lastConn := g₁.lastConn }) ∧
    ∀ c ∈ g.conns, ∃ g₁ id g₂, g.disconnect c.id = .ok g₁ ∧
      g₁.connect c.src c.dst = .ok (id, g₂) ∧ (∀ d ∈ g.conns, d.id ≠ id) ∧
      Graph.Relabelled (Equiv.swap c.id id) { g with lastConn := g₂.lastConn } g₂ ∧
      g₂.validate = g.validate ∧ g₂.order = g.order ∧
      ∀ (compiler : Compiler) (order : List NodeId),
        compiler.generate g₂ order = compiler.generate g order := by
  intro g
  have hwf : g.WellFormed := (Graph.Reached.wellFormed ⟨drafts, rfl⟩ ⟨edits, rfl⟩).1
  refine ⟨fun src dst id g₁ hok => hwf.disconnect_connect hok, fun c hc => ?_⟩
  have hredo := hwf.connect_dropConn hc
  have hwf₂ := (hwf.dropConn hc).connect hredo
  have hsame := hwf.relabelled_redo hc
  have hat : ∀ id, Graph.SameAt g ((g.dropConn c).pushConn c.src c.dst).2 id := fun id =>
    ⟨rfl, hwf.source?_congr hwf₂ fun src dst _ => hsame.exists_conn_iff src dst⟩
  have hupstream : Graph.SameUpstream g ((g.dropConn c).pushConn c.src c.dst).2 :=
    ⟨rfl, fun id _ => hat id⟩
  refine ⟨g.dropConn c, _, _, Graph.disconnect_eq_ok_iff.mpr ⟨c, hwf.conn?_iff.mpr ⟨hc, rfl⟩, rfl⟩,
    hredo, fun d hd => hwf.connId_ne_next hd, hsame, ?_, ?_, ?_⟩
  · exact (hwf.validate_congr hwf₂ rfl fun id => (hat id).source).symm
  · exact (hupstream.order_eq hwf hwf₂).symm
  · exact fun compiler order => (compiler.generate_congr fun id _ => hat id).symm

/-- Edits that feed a moved copy of a sphere and one input of a union from the sphere. -/
def halfJoined : List Edit :=
  spherePairNodes ++ [.connect (.outOf 1 0) (.into 2 0), .connect (.outOf 1 0) (.into 3 0)]

/-- The copy can be joined to the union and taken off again, and it can be fed anew, by a connection
with another number. -/
theorem connections_undo_redo_halfJoined :
    let g := (Graph.empty .standard).run halfJoined
    let c : Connection := ⟨1, .outOf 1 0, .into 2 0⟩
    (∃ id g₁, g.connect (.outOf 2 0) (.into 3 1) = .ok (id, g₁) ∧
      g₁.disconnect id = .ok { g with lastConn := g₁.lastConn }) ∧
    c ∈ g.conns ∧ ∃ g₁ id g₂, g.disconnect 1 = .ok g₁ ∧
      g₁.connect (.outOf 1 0) (.into 2 0) = .ok (id, g₂) ∧ id ≠ 1 ∧
      Graph.Relabelled (Equiv.swap 1 id) { g with lastConn := g₂.lastConn } g₂ ∧
      g₂.validate = g.validate ∧ g₂.order = g.order ∧
      ∀ (compiler : Compiler) (order : List NodeId),
        compiler.generate g₂ order = compiler.generate g order := by
  intro g c
  have hrun : (g.connect (.outOf 2 0) (.into 3 1)).toOption.map (·.1) = some 3 ∧ c ∈ g.conns := by
    simp only [g, c, Catalog.standard_eq]
    decide +kernel
  obtain ⟨hmade, hc⟩ := hrun
  obtain ⟨drafts, hdrafts⟩ := Catalog.standard_registered
  have hredo := connections_undo_redo drafts halfJoined
  rw [← hdrafts] at hredo
  obtain ⟨hundo, hagain⟩ := hredo
  obtain ⟨⟨id, g₁⟩, hok, -⟩ := exists_of_toOption_map hmade
  obtain ⟨g₂, id', g₃, hdropped, hconnected, hnew, hsame⟩ := hagain c hc
  exact ⟨⟨id, g₁, hok, hundo _ _ _ _ hok⟩, hc, g₂, id', g₃, hdropped, hconnected,
    (hnew c hc).symm, hsame⟩

end FieldGraph
