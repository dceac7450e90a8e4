import FieldGraph.Field.Pool
import Mathlib

/-!
# Discipline of a pool

Which slots of a pool are handed out can be told from the calls made so far and what they answered:
a slot is out from the request it served until a buffer it backs is taken back. The flags of the
pool say the same after every run of requests and releases, which is what one call preserves. So no
slot has two holders, a request is served by the first slot that is not out and large enough, a
buffer is taken back exactly if its slot is out, and nothing is left over when there were as many
successful releases as requests.
-/

namespace FieldGraph.Pool

/-! ## Calls -/

/-- A call on a pool. -/
inductive Call where
  | acquire (length : Nat)
  | release (b : Buffer)
  deriving DecidableEq, Repr

/-- What a call answers. -/
inductive Answer where
  | handed (b : Buffer)
  | taken
  | refused (error : ReleaseError)
  deriving DecidableEq, Repr

/-- A buffer was handed out. -/
def Answer.isHanded : Answer → Bool
  | handed _ => true
  | taken | refused _ => false

/-- A buffer was taken back. -/
def Answer.isTaken : Answer → Bool
  | taken => true
  | handed _ | refused _ => false

/-- Make a call. A buffer that is not taken back leaves the pool as it is. -/
def call (p : Pool) : Call → Answer × Pool
  | .acquire length => (.handed (p.acquire length).1, (p.acquire length).2)
  | .release b =>
      match p.release b with
      | .ok p => (.taken, p)
      | .error error => (.refused error, p)

/-- Calls with their answers, in the order in which they were made. -/
abbrev Log := List (Call × Answer)

/-- Make a call and note it. -/
def record (s : Log × Pool) (c : Call) : Log × Pool :=
  (s.1 ++ [(c, (s.2.call c).1)], (s.2.call c).2)

/-- Make calls on a new pool. -/
def logged (calls : List Call) : Log × Pool := calls.foldl record ([], {})

/-- The slots that are out after a call. -/
def outAfter (out : List Nat) : Call × Answer → List Nat
  | (_, .handed b) => out ++ b.slot.toList
  | (.release b, .taken) => b.slot.elim out out.erase
  | _ => out

/-- The slots that were handed out and not taken back since. -/
def Log.out (log : Log) : List Nat := log.foldl outAfter []

/-- The number of requests. -/
def Log.requests (log : Log) : Nat := log.countP (·.2.isHanded)

/-- The number of buffers taken back. -/
def Log.returns (log : Log) : Nat := log.countP (·.2.isTaken)

/-- The slot that backs a buffer of a pool. A buffer without room is backed by nothing. -/
def backing? (p : Pool) (b : Buffer) : Option Nat :=
  if b.capacity = 0 then none else b.slot.filter (· < p.slots.length)

/-- A slot that backs a buffer is the one the buffer knows. -/
theorem slot_of_backing {p : Pool} {b : Buffer} {i : Nat} (h : p.backing? b = some i) :
    b.slot = some i := by
  unfold backing? at h
  split at h
  · cases h
  · exact (Option.filter_eq_some_iff.mp h).1

/-! ## Slots -/

/-- Someone holds a slot. -/
def IsHeld (p : Pool) (i : Nat) : Prop := ∃ s, p.slots[i]? = some s ∧ s.held = true

/-- A slot is held only if there is one. -/
theorem IsHeld.lt {p : Pool} {i : Nat} (h : p.IsHeld i) : i < p.slots.length := by
  obtain ⟨s, hs, -⟩ := h
  exact (List.getElem?_eq_some_iff.mp hs).1

/-- Marking changes one slot. -/
theorem getElem?_mark (p : Pool) (i : Nat) (held : Bool) (j : Nat) :
    (p.mark i held).slots[j]? = p.slots[j]?.map fun s => if i = j then { s with held } else s :=
  List.getElem?_modify ..

/-- Marking a slot as held adds it to the slots that are held. -/
theorem isHeld_mark_true {p : Pool} {i : Nat} (hi : i < p.slots.length) (j : Nat) :
    (p.mark i true).IsHeld j ↔ p.IsHeld j ∨ j = i := by
  unfold IsHeld
  rw [getElem?_mark]
  by_cases h : i = j
  · subst h
    simp [List.getElem?_eq_getElem hi]
  · have hne : j ≠ i := Ne.symm h
    simp [h, hne]

/-- Marking a slot as free removes it from the slots that are held. -/
theorem isHeld_mark_false (p : Pool) (i j : Nat) :
    (p.mark i false).IsHeld j ↔ p.IsHeld j ∧ j ≠ i := by
  unfold IsHeld
  rw [getElem?_mark]
  by_cases h : i = j
  · subst h
    simp
  · have hne : j ≠ i := Ne.symm h
    simp [h, hne]

/-- A new slot is held by whom it was made for. -/
theorem isHeld_concat (slots : List Slot) (length j : Nat) :
    (Pool.mk (slots ++ [⟨length, true⟩])).IsHeld j ↔
      (Pool.mk slots).IsHeld j ∨ j = slots.length := by
  unfold IsHeld
  dsimp only
  rcases lt_trichotomy j slots.length with hlt | heq | hgt
  · rw [List.getElem?_append_left hlt]
    simp [hlt.ne]
  · subst heq
    simp
  · rw [List.getElem?_eq_none (by simp; omega), List.getElem?_eq_none (by omega)]
    simp [hgt.ne']

/-! ## Single calls -/

/-- A request is served by the first slot that can, or by a new one if there is none. -/
theorem acquire_cases (p : Pool) (length : Nat) :
    (∃ i s, p.slots[i]? = some s ∧ s.held = false ∧ length ≤ s.size ∧
      (∀ j < i, ∀ t, p.slots[j]? = some t → t.held = false → t.size < length) ∧
      p.acquire length = (⟨some i, length, s.size⟩, p.mark i true)) ∨
    (∀ s ∈ p.slots, s.held = false → s.size < length) ∧
      p.acquire length =
        (⟨some p.slots.length, length, length⟩, ⟨p.slots ++ [⟨length, true⟩]⟩) := by
  have hserves (s : Slot) : s.serves length = true ↔ s.held = false ∧ length ≤ s.size := by
    simp [Slot.serves]
  unfold acquire
  cases hfind : p.slots.findIdx? (·.serves length) with
  | some i =>
    left
    obtain ⟨hlt, hserved, hbefore⟩ := List.findIdx?_eq_some_iff_getElem.mp hfind
    obtain ⟨hfree, hroom⟩ := (hserves _).mp hserved
    have hat : p.slots[i]? = some p.slots[i] := List.getElem?_eq_getElem hlt
    refine ⟨i, p.slots[i], hat, hfree, hroom, ?_,
      by simp only [hat, Option.map_some, Option.getD_some]⟩
    intro j hj t ht hfree'
    obtain ⟨hj', rfl⟩ := List.getElem?_eq_some_iff.mp ht
    have hnot := hbefore j hj
    rw [hserves, not_and, not_le] at hnot
    exact hnot hfree'
  | none =>
    right
    refine ⟨fun s hs hfree => ?_, rfl⟩
    have hnot := List.findIdx?_eq_none_iff.mp hfind s hs
    rw [← Bool.not_eq_true, hserves, not_and, not_le] at hnot
    exact hnot hfree

/-- A request is served by a slot that nobody held, and nothing else changes hands. -/
theorem exists_acquired (p : Pool) (length : Nat) :
    ∃ i, (p.acquire length).1.slot = some i ∧ ¬ p.IsHeld i ∧
      ∀ j, (p.acquire length).2.IsHeld j ↔ p.IsHeld j ∨ j = i := by
  obtain ⟨i, s, hs, hfree, -, -, heq⟩ | ⟨-, heq⟩ := p.acquire_cases length
  · rw [heq]
    refine ⟨i, rfl, ?_, isHeld_mark_true (List.getElem?_eq_some_iff.mp hs).1⟩
    rintro ⟨t, ht, hheld⟩
    rw [hs] at ht
    cases ht
    rw [hfree] at hheld
    cases hheld
  · rw [heq]
    exact ⟨_, rfl, fun hheld => hheld.lt.false, isHeld_concat p.slots length⟩

/-- A request gets the length it asks for. -/
theorem length_acquire (p : Pool) (length : Nat) : (p.acquire length).1.length = length := by
  obtain ⟨i, s, -, -, -, -, heq⟩ | ⟨-, heq⟩ := p.acquire_cases length
  · rw [heq]
  · rw [heq]

/-- A buffer that is not empty is backed by the slot it was handed out with. -/
theorem backing?_acquire (p : Pool) {length : Nat} (hlength : 1 ≤ length) :
    (p.acquire length).2.backing? (p.acquire length).1 = (p.acquire length).1.slot := by
  obtain ⟨i, s, hs, -, hroom, -, heq⟩ | ⟨-, heq⟩ := p.acquire_cases length
  · have hi : i < (p.mark i true).slots.length := by
      rw [mark, List.length_modify]
      exact (List.getElem?_eq_some_iff.mp hs).1
    rw [heq, backing?, if_neg (by dsimp only; omega)]
    simp [Option.filter, hi]
  · rw [heq, backing?, if_neg (by dsimp only; omega)]
    simp [Option.filter]

/-- A buffer is taken back exactly if its slot is held. -/
theorem release_cases (p : Pool) (b : Buffer) :
    (∃ i, p.backing? b = some i ∧ p.IsHeld i ∧ p.release b = .ok (p.mark i false)) ∨
    (∀ i, p.backing? b = some i → ¬ p.IsHeld i) ∧ ∃ error, p.release b = .error error := by
  unfold release backing?
  by_cases hcapacity : b.capacity = 0
  · right
    simp [hcapacity]
  simp only [if_neg hcapacity]
  cases b.slot with
  | none =>
    right
    simp
  | some i =>
    cases hat : p.slots[i]? with
    | none =>
      right
      have hge : ¬ i < p.slots.length := not_lt.mpr (List.getElem?_eq_none_iff.mp hat)
      simp [Option.filter, hge]
    | some s =>
      have hlt : i < p.slots.length := (List.getElem?_eq_some_iff.mp hat).1
      have hfilter : (some i).filter (· < p.slots.length) = some i := by simp [Option.filter, hlt]
      rw [hfilter]
      cases hheld : s.held with
      | true => exact .inl ⟨i, rfl, ⟨s, hat, hheld⟩, by simp [hat, hheld]⟩
      | false =>
        right
        refine ⟨?_, .notHeld, by simp [hat, hheld]⟩
        rintro j hj ⟨t, ht, htheld⟩
        cases hj
        rw [hat] at ht
        cases ht
        rw [hheld] at htheld
        cases htheld

/-- A buffer whose slot is held is given back. -/
theorem releaseOrKeep_eq {p : Pool} {b : Buffer} {i : Nat} (hbacking : p.backing? b = some i)
    (hheld : p.IsHeld i) : p.releaseOrKeep b = p.mark i false := by
  obtain ⟨j, hj, -, heq⟩ | ⟨hnot, -⟩ := p.release_cases b
  · rw [hbacking] at hj
    cases hj
    rw [releaseOrKeep, heq]
  · exact absurd hheld (hnot i hbacking)

/-- A request does not take slots away. -/
theorem length_le_acquire (p : Pool) (length : Nat) :
    p.slots.length ≤ (p.acquire length).2.slots.length := by
  obtain ⟨i, s, -, -, -, -, heq⟩ | ⟨-, heq⟩ := p.acquire_cases length
  · rw [heq, mark, List.length_modify]
  · rw [heq]
    simp

/-- Giving a buffer back neither makes nor removes slots. -/
theorem length_releaseOrKeep (p : Pool) (b : Buffer) :
    (p.releaseOrKeep b).slots.length = p.slots.length := by
  obtain ⟨i, -, -, heq⟩ | ⟨-, error, heq⟩ := p.release_cases b
  · rw [releaseOrKeep, heq]
    exact List.length_modify ..
  · rw [releaseOrKeep, heq]

/-- A buffer stays backed while no slots are taken away. -/
theorem backing?_mono {p q : Pool} {b : Buffer} {i : Nat} (h : p.backing? b = some i)
    (hlength : p.slots.length ≤ q.slots.length) : q.backing? b = some i := by
  unfold backing? at h ⊢
  split at h
  · cases h
  · next hcapacity =>
    rw [Option.filter_eq_some_iff] at h
    rw [if_neg hcapacity, Option.filter_eq_some_iff]
    exact ⟨h.1, decide_eq_true ((of_decide_eq_true h.2).trans_le hlength)⟩

/-- Returning a buffer undoes its request, whatever was requested and returned in between. -/
theorem isHeld_returned (p : Pool) {length : Nat} (hlength : 1 ≤ length) {q : Pool}
    (hslots : (p.acquire length).2.slots.length ≤ q.slots.length)
    (hq : ∀ i, q.IsHeld i ↔ (p.acquire length).2.IsHeld i) (i : Nat) :
    (q.releaseOrKeep (p.acquire length).1).IsHeld i ↔ p.IsHeld i := by
  obtain ⟨j, hj, hfree, hheld⟩ := p.exists_acquired length
  have hbacking := backing?_mono ((p.backing?_acquire hlength).trans hj) hslots
  have hout : q.IsHeld j := (hq j).mpr ((hheld j).mpr (.inr rfl))
  rw [releaseOrKeep_eq hbacking hout, isHeld_mark_false, hq, hheld]
  constructor
  · rintro ⟨h | h, hne⟩
    · exact h
    · exact absurd h hne
  · intro h
    refine ⟨.inl h, ?_⟩
    rintro rfl
    exact hfree h

/-- Nothing is left over exactly if no slot is held. -/
theorem leak?_eq_none_iff (p : Pool) : p.leak? = none ↔ ∀ i, ¬ p.IsHeld i := by
  have hnone : p.leak? = none ↔ p.slots.findIdx? (·.held) = none := by
    unfold leak?
    cases p.slots.findIdx? (·.held) <;> simp
  rw [hnone, List.findIdx?_eq_none_iff]
  constructor
  · rintro h i ⟨s, hs, hheld⟩
    have := h s (List.mem_of_getElem? hs)
    rw [hheld] at this
    cases this
  · intro h s hs
    obtain ⟨i, hi⟩ := List.getElem?_of_mem hs
    by_contra hheld
    exact h i ⟨s, hi, by simpa using hheld⟩

/-! ## Contents -/

section

variable {α : Type}

/-- What was written is at the start. -/
theorem take_overwrite (cells values : List α) :
    (overwrite cells values).take values.length = values := by
  rw [overwrite, List.take_left]

/-- A buffer shows what was written to it. -/
theorem Contents.read_write (c : Contents α) {b : Buffer} {i : Nat} (hslot : b.slot = some i)
    {values : List α} (hlength : values.length = b.length) :
    (c.write b values).read b = values := by
  simp only [read, write, hslot, if_true]
  rw [← hlength, take_overwrite]

/-- Writing to a buffer does not show in another slot. -/
theorem Contents.read_write_of_ne (c : Contents α) {a b : Buffer} (hslots : a.slot ≠ b.slot)
    (values : List α) : (c.write b values).read a = c.read a := by
  unfold read write
  cases ha : a.slot with
  | none => cases b.slot <;> rfl
  | some i =>
    cases hb : b.slot with
    | none => rfl
    | some j =>
      have hne : i ≠ j := by
        rintro rfl
        exact hslots (ha.trans hb.symm)
      simp only [if_neg hne]

end

/-! ## Runs -/

/-- What a log says about the pool it was made on. -/
structure Tracks (log : Log) (p : Pool) : Prop where
  /-- The flags tell which slots are out. -/
  out_iff : ∀ i, i ∈ log.out ↔ p.IsHeld i
  /-- No slot is out twice. -/
  nodup : log.out.Nodup
  /-- Requests are answered by returns or still open. -/
  balance : log.requests = log.returns + log.out.length

/-- Nothing is out of a new pool. -/
theorem tracks_nil : Tracks [] {} where
  out_iff i := by simp [Log.out, IsHeld]
  nodup := List.nodup_nil
  balance := rfl

/-- What one more call does to what is out. -/
theorem Log.out_concat (log : Log) (entry : Call × Answer) :
    Log.out (log ++ [entry]) = outAfter log.out entry := by
  simp [Log.out]

/-- One more call counts as a request if it handed out a buffer. -/
theorem Log.requests_concat (log : Log) (c : Call) (a : Answer) :
    Log.requests (log ++ [(c, a)]) = log.requests + if a.isHanded then 1 else 0 := by
  rw [Log.requests, List.countP_append, List.countP_singleton, Log.requests]

/-- It counts as a return if it took one back. -/
theorem Log.returns_concat (log : Log) (c : Call) (a : Answer) :
    Log.returns (log ++ [(c, a)]) = log.returns + if a.isTaken then 1 else 0 := by
  rw [Log.returns, List.countP_append, List.countP_singleton, Log.returns]

/-- A log goes on tracking its pool when a slot that is not out is handed out. -/
theorem Tracks.handed {log : Log} {p p' : Pool} (h : Tracks log p) {c : Call} {b : Buffer} {i : Nat}
    (hslot : b.slot = some i) (hfree : ¬ p.IsHeld i)
    (hheld : ∀ j, p'.IsHeld j ↔ p.IsHeld j ∨ j = i) : Tracks (log ++ [(c, .handed b)]) p' := by
  have hout : Log.out (log ++ [(c, .handed b)]) = log.out ++ [i] := by
    rw [Log.out_concat, outAfter, hslot]
    rfl
  have hnew : i ∉ log.out := fun hmem => hfree ((h.out_iff i).mp hmem)
  refine ⟨fun j => ?_, ?_, ?_⟩
  · rw [hout, hheld, ← h.out_iff, List.mem_append, List.mem_singleton]
  · rw [hout]
    rw [← List.concat_eq_append]
    exact h.nodup.concat hnew
  · have hbalance := h.balance
    rw [hout, Log.requests_concat, Log.returns_concat, List.length_append, List.length_singleton]
    change log.requests + 1 = log.returns + 0 + (log.out.length + 1)
    omega

/-- A log goes on tracking its pool when a slot that is out is taken back. -/
theorem Tracks.taken {log : Log} {p : Pool} (h : Tracks log p) {b : Buffer} {i : Nat}
    (hslot : b.slot = some i) (hheld : p.IsHeld i) :
    Tracks (log ++ [(.release b, .taken)]) (p.mark i false) := by
  have hout : Log.out (log ++ [(.release b, .taken)]) = log.out.erase i := by
    rw [Log.out_concat, outAfter, hslot]
    rfl
  have hmem : i ∈ log.out := (h.out_iff i).mpr hheld
  refine ⟨fun j => ?_, ?_, ?_⟩
  · rw [hout, h.nodup.mem_erase_iff, isHeld_mark_false, h.out_iff, and_comm]
  · rw [hout]
    exact h.nodup.erase i
  · have hbalance := h.balance
    have hlength := List.length_erase_add_one hmem
    rw [hout, Log.requests_concat, Log.returns_concat]
    change log.requests + 0 = log.returns + 1 + (log.out.erase i).length
    omega

/-- A log goes on tracking its pool when a buffer is refused. -/
theorem Tracks.refused {log : Log} {p : Pool} (h : Tracks log p) (b : Buffer)
    (error : ReleaseError) : Tracks (log ++ [(.release b, .refused error)]) p := by
  have hout : Log.out (log ++ [(.release b, .refused error)]) = log.out := by
    rw [Log.out_concat]
    rfl
  refine ⟨fun j => ?_, ?_, ?_⟩
  · rw [hout, h.out_iff]
  · rw [hout]
    exact h.nodup
  · rw [hout, Log.requests_concat, Log.returns_concat]
    exact h.balance

/-- One call keeps a log tracking its pool. -/
theorem Tracks.call {log : Log} {p : Pool} (h : Tracks log p) (c : Call) :
    Tracks (record (log, p) c).1 (record (log, p) c).2 := by
  cases c with
  | acquire length =>
    obtain ⟨i, hslot, hfree, hheld⟩ := p.exists_acquired length
    exact h.handed hslot hfree hheld
  | release b =>
    obtain ⟨i, hbacking, hheld, heq⟩ | ⟨-, error, heq⟩ := p.release_cases b
    · rw [record, Pool.call, heq]
      exact h.taken (slot_of_backing hbacking) hheld
    · rw [record, Pool.call, heq]
      exact h.refused b error

/-- Every run keeps its log tracking the pool. -/
theorem tracks_logged (calls : List Call) : Tracks (logged calls).1 (logged calls).2 := by
  have hrun : ∀ s : Log × Pool, Tracks s.1 s.2 →
      Tracks (calls.foldl record s).1 (calls.foldl record s).2 := by
    induction calls with
    | nil => exact fun s hs => hs
    | cons c rest ih => exact fun s hs => ih _ (hs.call c)
  exact hrun ([], {}) tracks_nil

/-! ## Discipline -/

/-- A slot that is not out and has room for a request. -/
def CanServe (p : Pool) (out : List Nat) (length i : Nat) : Prop :=
  i ∉ out ∧ ∃ s, p.slots[i]? = some s ∧ length ≤ s.size

/-- A pool differs from another one at most in who holds one slot. -/
def Marked (p p' : Pool) (i : Nat) (held : Bool) : Prop :=
  ∀ j, p'.slots[j]? = p.slots[j]?.map fun s => if i = j then { s with held } else s

/-- What the calls that were made so far promise about the next one. -/
structure Disciplined (log : Log) (p : Pool) : Prop where
  /-- No slot has two holders. -/
  nodup : log.out.Nodup
  /-- A request gets a buffer of its length in a slot that is not out, the first one with room. A
  new slot is made only if none has room. -/
  acquire : ∀ length, ∃ i,
    (p.acquire length).1.slot = some i ∧ (p.acquire length).1.length = length ∧
    length ≤ (p.acquire length).1.capacity ∧ i ∉ log.out ∧
    (IsLeast {j | p.CanServe log.out length j} i ∧ p.Marked (p.acquire length).2 i true ∨
      (∀ j, ¬ p.CanServe log.out length j) ∧ i = p.slots.length ∧
        (p.acquire length).2.slots = p.slots ++ [⟨length, true⟩])
  /-- Unless it is empty the buffer is backed by that slot. -/
  backed : ∀ length, 1 ≤ length →
    (p.acquire length).2.backing? (p.acquire length).1 = (p.acquire length).1.slot
  /-- A buffer whose slot is out is taken back, which frees this slot and no other. -/
  release : ∀ b, ∀ i ∈ log.out, p.backing? b = some i →
    ∃ p', p.release b = .ok p' ∧ p.Marked p' i false
  /-- Any other buffer is refused, which changes nothing. -/
  refuse : ∀ b, (∀ i ∈ log.out, p.backing? b ≠ some i) →
    ∃ error, p.call (.release b) = (.refused error, p)
  /-- Nothing is left over exactly if there were as many returns as requests. -/
  settled : p.leak? = none ↔ log.returns = log.requests
  /-- That is, if no slot is out. -/
  leftOver : p.leak? = none ↔ log.out = []

/-- Nothing is left over exactly if no slot is out. -/
theorem Tracks.leak?_eq_none_iff {log : Log} {p : Pool} (h : Tracks log p) :
    p.leak? = none ↔ log.out = [] := by
  rw [Pool.leak?_eq_none_iff, List.eq_nil_iff_forall_not_mem]
  exact forall_congr' fun i => not_congr (h.out_iff i).symm

/-- A pool that is tracked is disciplined. -/
theorem Tracks.disciplined {log : Log} {p : Pool} (h : Tracks log p) : Disciplined log p where
  nodup := h.nodup
  acquire length := by
    have hfree {i : Nat} {s : Slot} (hs : p.slots[i]? = some s) :
        i ∉ log.out ↔ s.held = false := by
      rw [h.out_iff, IsHeld, hs]
      simp
    obtain ⟨i, s, hs, hheld, hroom, hfirst, heq⟩ | ⟨hnone, heq⟩ := p.acquire_cases length
    · refine ⟨i, ?_⟩
      rw [heq]
      refine ⟨rfl, rfl, hroom, (hfree hs).mpr hheld, .inl ⟨⟨⟨(hfree hs).mpr hheld, s, hs, hroom⟩,
        ?_⟩, p.getElem?_mark i true⟩⟩
      rintro j ⟨hj, t, ht, hfits⟩
      by_contra hlt
      exact absurd hfits (not_le.mpr (hfirst j (not_le.mp hlt) t ht ((hfree ht).mp hj)))
    · refine ⟨p.slots.length, ?_⟩
      rw [heq]
      refine ⟨rfl, rfl, le_rfl, fun hmem => ((h.out_iff _).mp hmem).lt.false,
        .inr ⟨?_, rfl, rfl⟩⟩
      rintro j ⟨hj, t, ht, hfits⟩
      exact absurd hfits (not_le.mpr (hnone t (List.mem_of_getElem? ht) ((hfree ht).mp hj)))
  backed length hlength := p.backing?_acquire hlength
  release b i hi hbacking := by
    obtain ⟨j, hj, -, heq⟩ | ⟨hnot, -⟩ := p.release_cases b
    · rw [hbacking] at hj
      cases hj
      exact ⟨_, heq, p.getElem?_mark i false⟩
    · exact absurd ((h.out_iff i).mp hi) (hnot i hbacking)
  refuse b hb := by
    obtain ⟨i, hi, hheld, -⟩ | ⟨-, error, heq⟩ := p.release_cases b
    · exact absurd hi (hb i ((h.out_iff i).mpr hheld))
    · exact ⟨error, by rw [Pool.call, heq]⟩
  settled := by
    have hbalance := h.balance
    rw [h.leak?_eq_none_iff, ← List.length_eq_zero_iff]
    omega
  leftOver := h.leak?_eq_none_iff

/-- After every run of requests and of releases of any buffers a pool hands out only slots that are
not out, makes new ones only when it has to, takes back exactly the buffers whose slots are out, and
finds nothing left over exactly if there were as many returns as requests. -/
theorem runs_keep_discipline (calls : List Call) :
    Disciplined (logged calls).1 (logged calls).2 :=
  (tracks_logged calls).disciplined

end FieldGraph.Pool
