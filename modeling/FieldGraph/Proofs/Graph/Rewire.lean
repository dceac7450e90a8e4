import FieldGraph.Proofs.Graph.Upstream

/-!
# Connections in another order

A connection is checked against those made before it, so a list of connections is checked against
different graphs when it is made in another order. The checks only get harder as connections are
added: an input that is free at the end was free before, and a graph without cycles at the end had
none before. Hence two neighbouring connections can change places, and with them any two orders.
What differs in the end are the numbers given out on the way, and nothing that compilation sees.
-/

namespace FieldGraph

open Relation

/-- A connection under another number. -/
def Connection.relabel (σ : Equiv.Perm ConnId) (c : Connection) : Connection :=
  { c with id := σ c.id }

theorem Connection.relabel_inj {σ : Equiv.Perm ConnId} {c d : Connection} :
    c.relabel σ = d.relabel σ ↔ c = d := by
  cases c
  cases d
  simp [relabel]

namespace Graph

variable {g g' : Graph}

/-- Make connections one after the other, up to the first that is refused. -/
def connectAll (g : Graph) : List (Port × Port) → Except EditError Graph
  | [] => .ok g
  | (src, dst) :: rest => do
      let (_, g) ← g.connect src dst
      g.connectAll rest

theorem connectAll_cons_eq_ok_iff {link : Port × Port} {rest : List (Port × Port)} :
    g.connectAll (link :: rest) = .ok g' ↔
      ∃ id next, g.connect link.1 link.2 = .ok (id, next) ∧ next.connectAll rest = .ok g' := by
  rw [connectAll, bind_eq_ok_iff, Prod.exists]

theorem connectAll_append_eq_ok_iff {links rest : List (Port × Port)} :
    g.connectAll (links ++ rest) = .ok g' ↔
      ∃ next, g.connectAll links = .ok next ∧ next.connectAll rest = .ok g' := by
  induction links generalizing g with
  | nil => simp [connectAll]
  | cons link links ih =>
    rw [List.cons_append, connectAll_cons_eq_ok_iff]
    simp only [ih, connectAll_cons_eq_ok_iff]
    constructor
    · rintro ⟨id, next, hconnect, middle, hlinks, hrest⟩
      exact ⟨middle, ⟨id, next, hconnect, hlinks⟩, hrest⟩
    · rintro ⟨middle, ⟨id, next, hconnect, hlinks⟩, hrest⟩
      exact ⟨id, next, hconnect, middle, hlinks, hrest⟩

/-! ## One more connection -/

/-- An accepted connection keeps the invariant. -/
theorem WellFormed.connect (h : g.WellFormed) {src dst : Port} {id : ConnId}
    (hok : g.connect src dst = .ok (id, g')) : g'.WellFormed := by
  obtain ⟨outwards, inwards, _, _, source, target, typed, -, free, open_, he⟩ :=
    connect_eq_ok_iff.mp hok
  obtain ⟨-, rfl⟩ := Prod.mk.inj he
  exact h.pushConn outwards inwards source target typed free open_

/-- Accepted connections keep the invariant. -/
theorem WellFormed.connectAll (h : g.WellFormed) {links : List (Port × Port)}
    (hok : g.connectAll links = .ok g') : g'.WellFormed := by
  induction links generalizing g with
  | nil =>
    cases hok
    exact h
  | cons link rest ih =>
    obtain ⟨id, next, hconnect, hrest⟩ := connectAll_cons_eq_ok_iff.mp hok
    exact ih (h.connect hconnect) hrest

/-- An accepted connection uses one number up. -/
theorem lastConn_of_connect {src dst : Port} {id : ConnId}
    (hok : g.connect src dst = .ok (id, g')) :
    g'.lastConn = g.lastConn + 1 := by
  obtain ⟨-, -, _, _, -, -, -, -, -, -, he⟩ := connect_eq_ok_iff.mp hok
  obtain ⟨-, rfl⟩ := Prod.mk.inj he
  rfl

theorem lastConn_le_of_connect {src dst : Port} {id : ConnId}
    (hok : g.connect src dst = .ok (id, g')) : g.lastConn ≤ g'.lastConn := by
  rw [lastConn_of_connect hok]
  exact Int.le_of_lt (Int.lt_succ g.lastConn)

theorem lastConn_le_of_connectAll {links : List (Port × Port)}
    (hok : g.connectAll links = .ok g') : g.lastConn ≤ g'.lastConn := by
  induction links generalizing g with
  | nil =>
    cases hok
    exact Int.le_refl _
  | cons link rest ih =>
    obtain ⟨id, next, hconnect, hrest⟩ := connectAll_cons_eq_ok_iff.mp hok
    exact Int.le_trans (lastConn_le_of_connect hconnect) (ih hrest)

/-! ## Graphs up to the numbers of connections -/

/-- Two graphs that differ in the numbers of connections only. -/
structure Relabelled (σ : Equiv.Perm ConnId) (g g' : Graph) : Prop where
  catalog : g'.catalog = g.catalog
  nodes : g'.nodes = g.nodes
  output : g'.output = g.output
  lastNode : g'.lastNode = g.lastNode
  lastConn : g'.lastConn = g.lastConn
  conns : ∀ c, c.relabel σ ∈ g'.conns ↔ c ∈ g.conns
  feeds : ∀ dst, g'.feed? dst = (g.feed? dst).map σ

namespace Relabelled

variable {σ τ : Equiv.Perm ConnId}

theorem refl (g : Graph) : Relabelled 1 g g :=
  ⟨rfl, rfl, rfl, rfl, rfl, fun _ => Iff.rfl, fun dst => by cases g.feed? dst <;> rfl⟩

theorem trans {g'' : Graph} (h : Relabelled σ g g') (h' : Relabelled τ g' g'') :
    Relabelled (τ * σ) g g'' where
  catalog := h'.catalog.trans h.catalog
  nodes := h'.nodes.trans h.nodes
  output := h'.output.trans h.output
  lastNode := h'.lastNode.trans h.lastNode
  lastConn := h'.lastConn.trans h.lastConn
  conns c := (h'.conns (c.relabel σ)).trans (h.conns c)
  feeds dst := by
    rw [h'.feeds, h.feeds, Option.map_map]
    rfl

/-- The same ports are connected. -/
theorem exists_conn_iff (h : Relabelled σ g g') (src dst : Port) :
    (∃ c ∈ g.conns, c.src = src ∧ c.dst = dst) ↔ ∃ c ∈ g'.conns, c.src = src ∧ c.dst = dst := by
  constructor
  · rintro ⟨c, hc, rfl, rfl⟩
    exact ⟨c.relabel σ, (h.conns c).mpr hc, rfl, rfl⟩
  · rintro ⟨c, hc, rfl, rfl⟩
    -- Every number is the image of one, so every connection is one under another number.
    have hback : (c.relabel σ⁻¹).relabel σ = c := by simp [Connection.relabel]
    exact ⟨c.relabel σ⁻¹, (h.conns _).mp (by rwa [hback]), rfl, rfl⟩

/-- The same nodes feed each other. -/
theorem feeds_eq (h : Relabelled σ g g') : g'.Feeds = g.Feeds := by
  funext a b
  rw [eq_iff_iff]
  constructor
  · rintro ⟨c, hc, rfl, rfl⟩
    obtain ⟨d, hd, hsrc, hdst⟩ := (h.exists_conn_iff c.src c.dst).mpr ⟨c, hc, rfl, rfl⟩
    exact ⟨d, hd, by rw [hsrc], by rw [hdst]⟩
  · rintro ⟨c, hc, rfl, rfl⟩
    exact ⟨c.relabel σ, (h.conns c).mpr hc, rfl, rfl⟩

theorem node?_eq (h : Relabelled σ g g') (id : NodeId) : g'.node? id = g.node? id := by
  rw [node?, h.nodes, node?]

theorem portSpec_eq (h : Relabelled σ g g') (p : Port) : g'.portSpec p = g.portSpec p := by
  rw [portSpec, h.node?_eq, portSpec]

/-- Both graphs show the same everywhere. -/
theorem sameAt (h : Relabelled σ g g') (hg : g.WellFormed) (hg' : g'.WellFormed) (id : NodeId) :
    SameAt g g' id :=
  ⟨by rw [h.node?_eq], hg.source?_congr hg' fun src dst _ => h.exists_conn_iff src dst⟩

/-- The same connection can be appended to both graphs. -/
theorem pushConn (h : Relabelled σ g g') (hfixed : ∀ id, g.lastConn < id → σ id = id)
    (src dst : Port) : Relabelled σ (g.pushConn src dst).2 (g'.pushConn src dst).2 where
  catalog := h.catalog
  nodes := h.nodes
  output := h.output
  lastNode := h.lastNode
  lastConn := congrArg (· + 1) h.lastConn
  conns c := by
    have hnew : Connection.relabel σ ⟨g.lastConn + 1, src, dst⟩ = ⟨g.lastConn + 1, src, dst⟩ := by
      simp only [Connection.relabel, hfixed _ (Int.lt_succ g.lastConn)]
    rw [mem_conns_pushConn, mem_conns_pushConn, h.conns, h.lastConn]
    refine or_congr_right ?_
    nth_rewrite 1 [← hnew]
    exact Connection.relabel_inj
  feeds port := by
    rw [feed?_pushConn, feed?_pushConn, h.feeds, h.lastConn]
    split
    · rw [Option.map_some, hfixed _ (Int.lt_succ g.lastConn)]
    · rfl

/-- A connection accepted by one graph is accepted by the other. -/
theorem connect (h : Relabelled σ g g') (hfixed : ∀ id, g.lastConn < id → σ id = id)
    {src dst : Port} {id : ConnId} {next : Graph} (hok : g.connect src dst = .ok (id, next)) :
    ∃ next', g'.connect src dst = .ok (id, next') ∧ Relabelled σ next next' := by
  obtain ⟨outwards, inwards, srcSpec, dstSpec, source, target, typed, distinct, free, open_, he⟩ :=
    connect_eq_ok_iff.mp hok
  obtain ⟨rfl, rfl⟩ := Prod.mk.inj he
  refine ⟨(g'.pushConn src dst).2, connect_eq_ok_iff.mpr ⟨outwards, inwards, srcSpec, dstSpec,
    by rwa [h.portSpec_eq], by rwa [h.portSpec_eq], typed, distinct, by rw [h.feeds, free]; rfl,
    ?_, ?_⟩, h.pushConn hfixed src dst⟩
  · rwa [Bool.eq_false_iff, ne_eq, reaches_iff, h.feeds_eq, ← reaches_iff, ← ne_eq,
      ← Bool.eq_false_iff]
  · exact Prod.ext (congrArg (· + 1) h.lastConn).symm rfl

/-- Connections accepted by one graph are accepted by the other. -/
theorem connectAll (h : Relabelled σ g g') (hfixed : ∀ id, g.lastConn < id → σ id = id)
    {links : List (Port × Port)} {last : Graph} (hok : g.connectAll links = .ok last) :
    ∃ last', g'.connectAll links = .ok last' ∧ Relabelled σ last last' := by
  induction links generalizing g g' with
  | nil =>
    cases hok
    exact ⟨g', rfl, h⟩
  | cons link rest ih =>
    obtain ⟨id, next, hconnect, hrest⟩ := connectAll_cons_eq_ok_iff.mp hok
    obtain ⟨next', hconnect', hnext⟩ := h.connect hfixed hconnect
    have hle : g.lastConn ≤ next.lastConn := lastConn_le_of_connect hconnect
    obtain ⟨last', hlast', hsame⟩ :=
      ih hnext (fun id hid => hfixed id (Int.lt_of_le_of_lt hle hid)) hrest
    exact ⟨last', connectAll_cons_eq_ok_iff.mpr ⟨id, next', hconnect', hlast'⟩, hsame⟩

end Relabelled

/-! ## Two connections change places -/

/-- The two numbers after the last one change places. -/
def exchange (last : Int) : Equiv.Perm Int := Equiv.swap (last + 1) (last + 2)

theorem exchange_fixed {last id : Int} (h : id ≤ last ∨ last + 2 < id) : exchange last id = id :=
  Equiv.swap_apply_of_ne_of_ne (by omega) (by omega)

theorem exchange_first (last : Int) : exchange last (last + 1) = last + 1 + 1 := by
  rw [exchange, Equiv.swap_apply_left, Int.add_assoc]
  rfl

theorem exchange_second (last : Int) : exchange last (last + 1 + 1) = last + 1 := by
  rw [exchange, Int.add_assoc]
  exact Equiv.swap_apply_right ..

/-- Connections made before keep their numbers. -/
theorem WellFormed.relabel_exchange_mem_iff (h : g.WellFormed) {c : Connection} :
    c.relabel (exchange g.lastConn) ∈ g.conns ↔ c ∈ g.conns := by
  have hkeep : ∀ d ∈ g.conns, d.relabel (exchange g.lastConn) = d := by
    intro d hd
    simp only [Connection.relabel, exchange_fixed (Or.inl (h.connIds d hd).2)]
  constructor
  · intro hc
    rwa [← Connection.relabel_inj.mp (hkeep _ hc)]
  · intro hc
    rwa [hkeep c hc]

/-- Connections to two inputs appended in either order differ in their two numbers. -/
theorem WellFormed.relabelled_exchange (h : g.WellFormed) (src src' : Port) {dst dst' : Port}
    (hne : dst ≠ dst') :
    Relabelled (exchange g.lastConn) ((g.pushConn src dst).2.pushConn src' dst').2
      ((g.pushConn src' dst').2.pushConn src dst).2 where
  catalog := rfl
  nodes := rfl
  output := rfl
  lastNode := rfl
  lastConn := rfl
  conns c := by
    have hfirst : Connection.relabel (exchange g.lastConn) ⟨g.lastConn + 1, src, dst⟩ =
        ⟨g.lastConn + 1 + 1, src, dst⟩ := by
      simp only [Connection.relabel, exchange_first]
    have hsecond : Connection.relabel (exchange g.lastConn) ⟨g.lastConn + 1 + 1, src', dst'⟩ =
        ⟨g.lastConn + 1, src', dst'⟩ := by
      simp only [Connection.relabel, exchange_second]
    have hlast : ∀ p q : Port, (g.pushConn p q).2.lastConn = g.lastConn + 1 := fun _ _ => rfl
    rw [mem_conns_pushConn, mem_conns_pushConn, mem_conns_pushConn, mem_conns_pushConn, hlast,
      hlast, h.relabel_exchange_mem_iff, ← hfirst, ← hsecond, Connection.relabel_inj,
      Connection.relabel_inj, or_assoc, or_assoc]
    exact or_congr_right or_comm
  feeds port := by
    have hold : (g.feed? port).map (exchange g.lastConn) = g.feed? port := by
      cases hfeed : g.feed? port with
      | none => rfl
      | some id =>
        obtain ⟨c, hc, rfl, -⟩ := h.feed?_iff.mp hfeed
        rw [Option.map_some, exchange_fixed (Or.inl (h.connIds c hc).2)]
    have hlast : ∀ p q : Port, (g.pushConn p q).2.lastConn = g.lastConn + 1 := fun _ _ => rfl
    rw [feed?_pushConn, feed?_pushConn, feed?_pushConn, feed?_pushConn, hlast, hlast]
    by_cases hdst : port = dst
    · have hdst' : port ≠ dst' := fun he => hne (hdst.symm.trans he)
      rw [if_pos hdst, if_neg hdst', if_pos hdst, Option.map_some, exchange_first]
    · rw [if_neg hdst, if_neg hdst]
      by_cases hdst' : port = dst'
      · rw [if_pos hdst', if_pos hdst', Option.map_some, exchange_second]
      · rw [if_neg hdst', if_neg hdst', hold]

/-- Two connections that are accepted one after the other are accepted in the other order. -/
theorem WellFormed.connect_exchange (h : g.WellFormed) {src dst src' dst' : Port}
    {id id' : ConnId} {next last : Graph} (hfirst : g.connect src dst = .ok (id, next))
    (hsecond : next.connect src' dst' = .ok (id', last)) :
    ∃ last', g.connectAll [(src', dst'), (src, dst)] = .ok last' ∧
      Relabelled (exchange g.lastConn) last last' := by
  have hlast : last.WellFormed := (h.connect hfirst).connect hsecond
  obtain ⟨outwards, inwards, srcSpec, dstSpec, source, target, typed, distinct, free, open_, he⟩ :=
    connect_eq_ok_iff.mp hfirst
  obtain rfl : next = (g.pushConn src dst).2 := congrArg Prod.snd he
  obtain ⟨outwards', inwards', srcSpec', dstSpec', source', target', typed', distinct', free',
    open', he'⟩ := connect_eq_ok_iff.mp hsecond
  obtain rfl : last = ((g.pushConn src dst).2.pushConn src' dst').2 := congrArg Prod.snd he'
  -- The second input was free after the first connection, so they are not the same.
  rw [feed?_pushConn] at free'
  have hne : dst' ≠ dst := by
    rintro rfl
    rw [if_pos rfl] at free'
    cases free'
  rw [if_neg hne] at free'
  have hearly : g.reaches dst'.node src'.node = false := by
    rw [Bool.eq_false_iff, ne_eq, reaches_iff] at open' ⊢
    intro hpath
    exact open' (ReflTransGen.mono (fun _ _ hab => feeds_pushConn.mpr (.inl hab)) _ _ hpath)
  -- A way back from the first input would have closed a cycle in the end.
  have hlate : (g.pushConn src' dst').2.reaches dst.node src.node = false := by
    rw [Bool.eq_false_iff, ne_eq, reaches_iff]
    intro hpath
    have hedge : ((g.pushConn src dst).2.pushConn src' dst').2.Feeds src.node dst.node :=
      feeds_pushConn.mpr (.inl (feeds_pushConn.mpr (.inr ⟨rfl, rfl⟩)))
    refine hlast.acyclic src.node (TransGen.head' hedge (ReflTransGen.mono ?_ _ _ hpath))
    intro a b hab
    rw [feeds_pushConn, feeds_pushConn]
    exact (feeds_pushConn.mp hab).imp_left .inl
  have hconnect' : g.connect src' dst' = .ok (g.pushConn src' dst') :=
    connect_eq_ok_iff.mpr ⟨outwards', inwards', srcSpec', dstSpec', source', target', typed',
      distinct', free', hearly, rfl⟩
  have hconnect : (g.pushConn src' dst').2.connect src dst =
      .ok ((g.pushConn src' dst').2.pushConn src dst) :=
    connect_eq_ok_iff.mpr ⟨outwards, inwards, srcSpec, dstSpec, source, target, typed, distinct,
      by rw [feed?_pushConn, if_neg hne.symm, free], hlate, rfl⟩
  exact ⟨_, connectAll_cons_eq_ok_iff.mpr ⟨_, _, hconnect',
    connectAll_cons_eq_ok_iff.mpr ⟨_, _, hconnect, rfl⟩⟩, h.relabelled_exchange src src' hne.symm⟩

/-- Connections that are accepted in one order are accepted in every order, and the graphs differ in
the numbers that were given out on the way. -/
theorem WellFormed.connectAll_perm {links links' : List (Port × Port)} (hperm : links.Perm links')
    (h : g.WellFormed) {last : Graph} (hok : g.connectAll links = .ok last) :
    ∃ last' σ, g.connectAll links' = .ok last' ∧ Relabelled σ last last' ∧
      ∀ id, id ≤ g.lastConn ∨ last.lastConn < id → σ id = id := by
  induction hperm generalizing g last with
  | nil => exact ⟨last, 1, hok, .refl last, fun _ _ => rfl⟩
  | cons link _ ih =>
    obtain ⟨id, next, hconnect, hrest⟩ := connectAll_cons_eq_ok_iff.mp hok
    obtain ⟨last', σ, hlast', hsame, hfixed⟩ := ih (h.connect hconnect) hrest
    have hle : g.lastConn ≤ next.lastConn := lastConn_le_of_connect hconnect
    exact ⟨last', σ, connectAll_cons_eq_ok_iff.mpr ⟨id, next, hconnect, hlast'⟩, hsame,
      fun id hid => hfixed id (hid.imp_left fun hold => Int.le_trans hold hle)⟩
  | swap second first rest =>
    obtain ⟨id, next, hfirst, hmore⟩ := connectAll_cons_eq_ok_iff.mp hok
    obtain ⟨id', both, hsecond, hrest⟩ := connectAll_cons_eq_ok_iff.mp hmore
    obtain ⟨both', hboth', hexchanged⟩ := h.connect_exchange hfirst hsecond
    have hboth : both.lastConn = g.lastConn + 2 := by
      rw [lastConn_of_connect hsecond, lastConn_of_connect hfirst, Int.add_assoc]
      rfl
    have hfixed : ∀ id, both.lastConn < id → exchange g.lastConn id = id := fun id hid =>
      exchange_fixed (Or.inr (hboth ▸ hid))
    obtain ⟨last', hlast', hsame⟩ := hexchanged.connectAll hfixed hrest
    refine ⟨last', exchange g.lastConn, connectAll_append_eq_ok_iff.mpr ⟨both', hboth', hlast'⟩,
      hsame, fun id hid => ?_⟩
    rcases hid with hold | hnew
    · exact exchange_fixed (Or.inl hold)
    · exact hfixed id (Int.lt_of_le_of_lt (lastConn_le_of_connectAll hrest) hnew)
  | trans _ _ ih ih' =>
    obtain ⟨middle, σ, hmiddle, hsame, hfixed⟩ := ih h hok
    obtain ⟨last', τ, hlast', hsame', hfixed'⟩ := ih' h hmiddle
    refine ⟨last', τ * σ, hlast', hsame.trans hsame', fun id hid => ?_⟩
    rw [Equiv.Perm.mul_apply, hfixed id hid, hfixed' id (by rwa [hsame.lastConn])]

end Graph

end FieldGraph
