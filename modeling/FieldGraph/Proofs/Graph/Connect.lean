import FieldGraph.Proofs.Graph.Preservation

/-!
# Legal connections

Seven things are demanded of a connection, and they are checked one after the other. Here each demand
is said without the check, in terms of nodes, connections and paths between them. A connection is
made exactly when all demands are met; then it is all that is added. Otherwise it is refused for the
first demand that is not met.
-/

namespace FieldGraph

open Relation

/-- The ports of a kind on one side. -/
def Signature.ports (k : Signature) : Direction → List PortSpec
  | .input => k.inputs
  | .output => k.outputs
  | .other _ => []

namespace Graph

/-- A live node has the port, with a description. -/
def HasPort (g : Graph) (p : Port) (spec : PortSpec) : Prop :=
  ∃ n ∈ g.nodes, n.id = p.node ∧
    ∃ i : Nat, p.index = i ∧ (n.kind.ports p.direction)[i]? = some spec

/-- Why a port that does not exist is refused. -/
def absence (g : Graph) (p : Port) : Cause :=
  if g.isLive p.node then .portNotFound else .nodeNotFound

end Graph

/-- What is demanded of a connection. -/
inductive Demand where
  /-- It leads from an output to an input. -/
  | directions
  | source
  | target
  /-- It joins two nodes. -/
  | distinct
  | typed
  | free
  | acyclic
  deriving DecidableEq, Repr

namespace Demand

/-- All demands in the order in which they are checked. -/
def all : List Demand := [directions, source, target, distinct, typed, free, acyclic]

/-- A connection between two ports meets a demand. -/
def Met (g : Graph) (src dst : Port) : Demand → Prop
  | directions => src.direction = .output ∧ dst.direction = .input
  | source => ∃ spec, g.HasPort src spec
  | target => ∃ spec, g.HasPort dst spec
  | distinct => src.node ≠ dst.node
  | typed => ∃ srcSpec dstSpec, g.HasPort src srcSpec ∧ g.HasPort dst dstSpec ∧
      srcSpec.type = dstSpec.type
  | free => ∀ c ∈ g.conns, c.dst ≠ dst
  | acyclic => ¬ ReflTransGen g.Feeds dst.node src.node

/-- The cause by which an unmet demand is known. -/
def cause (g : Graph) (src dst : Port) : Demand → Cause
  | directions => .portDirection
  | source => g.absence src
  | target => g.absence dst
  | distinct => .selfLoop
  | typed => .typeMismatch
  | free => .inputOccupied
  | acyclic => .wouldCreateCycle

/-- A demand that is not met while all demands before it are. -/
structure FirstUnmet (g : Graph) (src dst : Port) (d : Demand) : Prop where
  unmet : ¬ d.Met g src dst
  earlier : ∀ e ∈ all.takeWhile (· ≠ d), e.Met g src dst

variable {g : Graph} {src dst : Port}

/-- Either all demands are met or one is the first that is not. -/
theorem met_or_firstUnmet (g : Graph) (src dst : Port) :
    (∀ d, Met g src dst d) ∨ ∃ d, FirstUnmet g src dst d := by
  classical
  cases hfind : all.find? fun d => ¬ d.Met g src dst with
  | none =>
    refine Or.inl fun d => ?_
    have hlisted : d ∈ all := by cases d <;> decide
    simpa using List.find?_eq_none.mp hfind d hlisted
  | some d =>
    obtain ⟨hunmet, before, after, hsplit, hbefore⟩ := List.find?_eq_some_iff_append.mp hfind
    refine Or.inr ⟨d, by simpa using hunmet, fun e he => ?_⟩
    have hne : ∀ e ∈ before, e ≠ d := by
      rintro e hmem rfl
      have hmet := hbefore e hmem
      simp_all
    have htake : all.takeWhile (· ≠ d) = before := by
      rw [hsplit, List.takeWhile_append_of_pos (by simpa using hne)]
      simp
    rw [htake] at he
    simpa using hbefore e he

end Demand

namespace Graph

variable {g : Graph} {src dst : Port}

/-! ## Ports -/

/-- Looking up a port of a live node on a side that exists. -/
theorem portSpec_of_node {p : Port} {n : Node} (hn : g.node? p.node = some n)
    (hside : p.direction = .input ∨ p.direction = .output) :
    (∃ i : Nat, ∃ spec, p.index = i ∧ (n.kind.ports p.direction)[i]? = some spec ∧
      g.portSpec p = .ok spec) ∨
    (∃ note, g.portSpec p = .error ⟨.portNotFound, note⟩) ∧
      ∀ i : Nat, p.index = i → (n.kind.ports p.direction)[i]? = none := by
  have hpick : g.portSpec p =
      if p.index < 0 then .error ⟨.portNotFound, p.text ++ " of " ++ n.kind.id⟩
      else (n.kind.ports p.direction)[p.index.toNat]?.elim
        (.error ⟨.portNotFound, p.text ++ " of " ++ n.kind.id⟩) .ok := by
    rcases hside with hside | hside <;> simp only [portSpec, hn, hside, Signature.ports]
    · cases n.kind.inputs[p.index.toNat]? <;> rfl
    · cases n.kind.outputs[p.index.toNat]? <;> rfl
  by_cases hneg : p.index < 0
  · rw [if_pos hneg] at hpick
    exact Or.inr ⟨⟨_, hpick⟩, fun i hi => by omega⟩
  · rw [if_neg hneg] at hpick
    have hindex : p.index = (p.index.toNat : Int) := by omega
    cases hport : (n.kind.ports p.direction)[p.index.toNat]? with
    | some spec =>
      rw [hport] at hpick
      exact Or.inl ⟨p.index.toNat, spec, hindex, hport, hpick⟩
    | none =>
      rw [hport] at hpick
      refine Or.inr ⟨⟨_, hpick⟩, fun i hi => ?_⟩
      obtain rfl : i = p.index.toNat := by omega
      exact hport

/-- A port is described as it exists, or it is absent and the reason says how. -/
theorem WellFormed.portSpec_cases (h : g.WellFormed) {p : Port}
    (hside : p.direction = .input ∨ p.direction = .output) :
    (∃ spec, g.portSpec p = .ok spec ∧ ∀ other, g.HasPort p other ↔ other = spec) ∨
    (∃ note, g.portSpec p = .error ⟨g.absence p, note⟩) ∧ ∀ spec, ¬ g.HasPort p spec := by
  cases hn : g.node? p.node with
  | none =>
    have hlive : g.isLive p.node = false := by simp [isLive, hn]
    refine Or.inr ⟨⟨toString p.node, by simp [portSpec, hn, absence, hlive]⟩, ?_⟩
    rintro spec ⟨n, hmem, hid, -⟩
    have hfound := h.node?_iff.mpr ⟨hmem, hid⟩
    cases hn.symm.trans hfound
  | some n =>
    have hlive : g.isLive p.node = true := by simp [isLive, hn]
    have hhas : ∀ spec, g.HasPort p spec ↔
        ∃ i : Nat, p.index = i ∧ (n.kind.ports p.direction)[i]? = some spec := by
      intro spec
      constructor
      · rintro ⟨m, hmem, hid, hport⟩
        obtain rfl := Option.some.inj (hn.symm.trans (h.node?_iff.mpr ⟨hmem, hid⟩))
        exact hport
      · intro hport
        obtain ⟨hmem, hid⟩ := h.node?_iff.mp hn
        exact ⟨n, hmem, hid, hport⟩
    rcases portSpec_of_node hn hside with ⟨i, spec, hi, hport, hok⟩ | ⟨⟨note, herror⟩, habsent⟩
    · refine Or.inl ⟨spec, hok, fun other => ?_⟩
      rw [hhas]
      constructor
      · rintro ⟨j, hj, hother⟩
        obtain rfl : i = j := by omega
        exact Option.some.inj (hother.symm.trans hport)
      · rintro rfl
        exact ⟨i, hi, hport⟩
    · refine Or.inr ⟨⟨note, by rw [herror, absence, hlive]; rfl⟩, fun spec hspec => ?_⟩
      obtain ⟨i, hi, hport⟩ := (hhas spec).mp hspec
      cases (habsent i hi).symm.trans hport

/-- A port that exists is described as it is. -/
theorem WellFormed.portSpec_eq_ok (h : g.WellFormed) {p : Port} {spec : PortSpec}
    (hside : p.direction = .input ∨ p.direction = .output) (hport : g.HasPort p spec) :
    g.portSpec p = .ok spec := by
  rcases h.portSpec_cases hside with ⟨found, hok, hall⟩ | ⟨-, hnone⟩
  · rw [hok, (hall spec).mp hport]
  · exact absurd hport (hnone spec)

/-- A port that does not exist is refused. -/
theorem WellFormed.portSpec_eq_error (h : g.WellFormed) {p : Port}
    (hside : p.direction = .input ∨ p.direction = .output) (hport : ¬ ∃ spec, g.HasPort p spec) :
    ∃ note, g.portSpec p = .error ⟨g.absence p, note⟩ := by
  rcases h.portSpec_cases hside with ⟨found, -, hall⟩ | ⟨herror, -⟩
  · exact absurd ⟨found, (hall found).mpr rfl⟩ hport
  · exact herror

/-! ## Checks -/

/-- Nothing is reached exactly if no path leads there. -/
theorem reaches_eq_false_iff {a b : NodeId} :
    g.reaches a b = false ↔ ¬ ReflTransGen g.Feeds a b := by
  rw [← reaches_iff, Bool.not_eq_true]

/-- If all demands are met the connection is made. -/
theorem WellFormed.connect_of_met (h : g.WellFormed) (hmet : ∀ d, Demand.Met g src dst d) :
    g.connect src dst = .ok (g.pushConn src dst) := by
  obtain ⟨hout, hin⟩ := hmet .directions
  obtain ⟨srcSpec, dstSpec, hsrc, hdst, htype⟩ := hmet .typed
  exact connect_eq_ok_iff.mpr ⟨hout, hin, srcSpec, dstSpec, h.portSpec_eq_ok (Or.inr hout) hsrc,
    h.portSpec_eq_ok (Or.inl hin) hdst, htype, hmet .distinct, h.feed?_eq_none_iff.mpr (hmet .free),
    reaches_eq_false_iff.mpr (hmet .acyclic), rfl⟩

/-- Once both ports are known to exist, their descriptions decide whether the types agree. -/
theorem WellFormed.portSpecs_of_met (h : g.WellFormed) (hdir : Demand.directions.Met g src dst)
    (hsrc : Demand.source.Met g src dst) (hdst : Demand.target.Met g src dst) :
    ∃ srcSpec dstSpec, g.portSpec src = .ok srcSpec ∧ g.portSpec dst = .ok dstSpec ∧
      (Demand.typed.Met g src dst ↔ srcSpec.type = dstSpec.type) := by
  obtain ⟨hout, hin⟩ := hdir
  obtain ⟨srcSpec, hsrc⟩ := hsrc
  obtain ⟨dstSpec, hdst⟩ := hdst
  have hsrcOk := h.portSpec_eq_ok (Or.inr hout) hsrc
  have hdstOk := h.portSpec_eq_ok (Or.inl hin) hdst
  refine ⟨srcSpec, dstSpec, hsrcOk, hdstOk, ?_, fun htype => ⟨_, _, hsrc, hdst, htype⟩⟩
  rintro ⟨s, t, hs, ht, htype⟩
  obtain rfl := Except.ok.inj (hsrcOk.symm.trans (h.portSpec_eq_ok (Or.inr hout) hs))
  obtain rfl := Except.ok.inj (hdstOk.symm.trans (h.portSpec_eq_ok (Or.inl hin) ht))
  exact htype

/-- The connection is refused for the first demand that is not met. -/
theorem WellFormed.connect_of_firstUnmet (h : g.WellFormed) {d : Demand}
    (hfirst : d.FirstUnmet g src dst) :
    ∃ note, g.connect src dst = .error (.connecting ⟨src, dst, ⟨d.cause g src dst, note⟩⟩) := by
  obtain ⟨hunmet, hmet⟩ := hfirst
  unfold connect
  -- The checks before the one for `d` pass because the demands before `d` are met.
  cases d with
  | directions =>
    have hdir : src.direction ≠ .output ∨ dst.direction ≠ .input := not_and_or.mp hunmet
    simp [hdir, Demand.cause]
  | source =>
    obtain ⟨hout, hin⟩ := hmet .directions (by decide)
    obtain ⟨note, herror⟩ := h.portSpec_eq_error (Or.inr hout) hunmet
    simp [hout, hin, herror, Demand.cause]
  | target =>
    obtain ⟨hout, hin⟩ := hmet .directions (by decide)
    obtain ⟨srcSpec, hsrc⟩ := hmet .source (by decide)
    have hsrcOk := h.portSpec_eq_ok (Or.inr hout) hsrc
    obtain ⟨note, herror⟩ := h.portSpec_eq_error (Or.inl hin) hunmet
    simp [hout, hin, hsrcOk, herror, Demand.cause]
  | distinct =>
    have hdir := hmet .directions (by decide)
    obtain ⟨srcSpec, dstSpec, hsrc, hdst, -⟩ :=
      h.portSpecs_of_met hdir (hmet .source (by decide)) (hmet .target (by decide))
    have hself : src.node = dst.node := not_not.mp hunmet
    simp [hdir.1, hdir.2, hsrc, hdst, hself, Demand.cause]
  | typed =>
    have hdir := hmet .directions (by decide)
    obtain ⟨srcSpec, dstSpec, hsrc, hdst, htyped⟩ :=
      h.portSpecs_of_met hdir (hmet .source (by decide)) (hmet .target (by decide))
    have hself : src.node ≠ dst.node := hmet .distinct (by decide)
    have htype : srcSpec.type ≠ dstSpec.type := fun htype => hunmet (htyped.mpr htype)
    simp [hdir.1, hdir.2, hsrc, hdst, hself, htype, Demand.cause]
  | free =>
    have hdir := hmet .directions (by decide)
    obtain ⟨srcSpec, dstSpec, hsrc, hdst, htyped⟩ :=
      h.portSpecs_of_met hdir (hmet .source (by decide)) (hmet .target (by decide))
    have hself : src.node ≠ dst.node := hmet .distinct (by decide)
    have htype := htyped.mp (hmet .typed (by decide))
    cases hfeed : g.feed? dst with
    | none => exact absurd (h.feed?_eq_none_iff.mp hfeed) hunmet
    | some id => simp [hdir.1, hdir.2, hsrc, hdst, hself, htype, Demand.cause]
  | acyclic =>
    have hdir := hmet .directions (by decide)
    obtain ⟨srcSpec, dstSpec, hsrc, hdst, htyped⟩ :=
      h.portSpecs_of_met hdir (hmet .source (by decide)) (hmet .target (by decide))
    have hself : src.node ≠ dst.node := hmet .distinct (by decide)
    have htype := htyped.mp (hmet .typed (by decide))
    have hfree := h.feed?_eq_none_iff.mpr (hmet .free (by decide))
    have hback : g.reaches dst.node src.node = true := reaches_iff.mpr (not_not.mp hunmet)
    simp [hdir.1, hdir.2, hsrc, hdst, hself, htype, hfree, hback, Demand.cause]

/-- A connection to a free input is all that is added. -/
theorem pushConn_eq (hfree : g.feed? dst = none) :
    g.pushConn src dst = (g.lastConn + 1, { g with
      conns := g.conns ++ [⟨g.lastConn + 1, src, dst⟩]
      feeds := (dst, g.lastConn + 1) :: g.feeds
      lastConn := g.lastConn + 1 }) := by
  rw [pushConn, filter_feeds_of_free hfree]

/-- Over every registered catalog, in every graph that edits lead to and between any two ports: a
connection is made exactly when all demands are met. Then it gets a number that no connection has
and nothing else changes. Otherwise it is refused for the first demand that is not met. -/
theorem connect_accepts_legal (drafts : List Draft) (edits : List Edit) (src dst : Port) :
    let g := (Graph.empty (drafts.foldl Catalog.extend .empty)).run edits
    (∀ result, g.connect src dst = .ok result ↔ (∀ d, Demand.Met g src dst d) ∧
      result = (g.lastConn + 1, { g with
        conns := g.conns ++ [⟨g.lastConn + 1, src, dst⟩]
        feeds := (dst, g.lastConn + 1) :: g.feeds
        lastConn := g.lastConn + 1 })) ∧
    (∀ c ∈ g.conns, c.id ≠ g.lastConn + 1) ∧
    ∀ e, g.connect src dst = .error e → ∃ d : Demand, d.FirstUnmet g src dst ∧
      ∃ note, e = .connecting ⟨src, dst, ⟨d.cause g src dst, note⟩⟩ := by
  intro g
  have hwf : g.WellFormed := (Reached.wellFormed ⟨drafts, rfl⟩ ⟨edits, rfl⟩).1
  have hmade : (∀ d, Demand.Met g src dst d) → g.connect src dst = .ok (g.lastConn + 1, { g with
        conns := g.conns ++ [⟨g.lastConn + 1, src, dst⟩]
        feeds := (dst, g.lastConn + 1) :: g.feeds
        lastConn := g.lastConn + 1 }) := by
    intro hmet
    rw [hwf.connect_of_met hmet, pushConn_eq (hwf.feed?_eq_none_iff.mpr (hmet .free))]
  refine ⟨fun result => ⟨fun hok => ?_, fun ⟨hmet, hresult⟩ => hresult ▸ hmade hmet⟩, ?_, ?_⟩
  · rcases Demand.met_or_firstUnmet g src dst with hmet | ⟨d, hfirst⟩
    · exact ⟨hmet, Except.ok.inj (hok.symm.trans (hmade hmet))⟩
    · obtain ⟨note, herror⟩ := hwf.connect_of_firstUnmet hfirst
      cases hok.symm.trans herror
  · exact fun c hc => hwf.connId_ne_next hc
  · intro e herror
    rcases Demand.met_or_firstUnmet g src dst with hmet | ⟨d, hfirst⟩
    · cases herror.symm.trans (hmade hmet)
    · obtain ⟨note, hrefused⟩ := hwf.connect_of_firstUnmet hfirst
      exact ⟨d, hfirst, note, Except.error.inj (herror.symm.trans hrefused)⟩

end Graph

end FieldGraph
