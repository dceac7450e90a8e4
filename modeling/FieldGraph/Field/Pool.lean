import FieldGraph.Geometry.Vec

/-!
# Pools of scratch buffers

A pool hands out buffers and takes them back. A request is served by the first free slot that
is large enough; only if there is none is a new slot made. A buffer is known by the slot that
backs it. What the slots hold is kept beside the pool: a buffer comes with whatever its slot was
last used for.
-/

namespace FieldGraph

/-- Storage owned by a pool. -/
structure Pool.Slot where
  /-- How many elements it was made for. -/
  size : Nat
  /-- Whether someone holds it. -/
  held : Bool
  deriving DecidableEq, Repr

/-- A pool of buffers. -/
structure Pool where
  slots : List Pool.Slot := []
  deriving DecidableEq, Repr

namespace Pool

/-- A buffer as its holder sees it. -/
structure Buffer where
  /-- The slot behind it; a buffer from elsewhere has none. -/
  slot : Option Nat
  length : Nat
  /-- How many elements the storage behind it has. -/
  capacity : Nat
  deriving DecidableEq, Repr

/-- Why a buffer was not taken back. -/
inductive ReleaseError where
  | empty
  | notHeld
  | foreign
  deriving DecidableEq, Repr

/-- The text of a release error. -/
def ReleaseError.message : ReleaseError → String
  | empty => "release of empty buffer"
  | notHeld => "release of unacquired buffer"
  | foreign => "release of buffer not in pool"

/-- Whether a slot can serve a request. -/
def Slot.serves (s : Slot) (length : Nat) : Bool := !s.held && length ≤ s.size

/-- Mark a slot as held or free. -/
def mark (p : Pool) (index : Nat) (held : Bool) : Pool :=
  ⟨p.slots.modify index ({ · with held })⟩

/-- Hand out a buffer of a length. -/
def acquire (p : Pool) (length : Nat) : Buffer × Pool :=
  match p.slots.findIdx? (·.serves length) with
  | some index =>
      (⟨some index, length, (p.slots[index]?.map (·.size)).getD 0⟩, p.mark index true)
  | none => (⟨some p.slots.length, length, length⟩, ⟨p.slots ++ [⟨length, true⟩]⟩)

/-- Why a request was not served. -/
inductive RequestError where
  /-- A free buffer was taken, but has no part of this length. -/
  | noPart (length : Int)
  /-- No buffer is free, and none of this length can be made. -/
  | noRoom
  deriving DecidableEq, Repr

/-- Hand out a buffer of a length that may be negative. Any free slot seems large enough for a
negative length, and stays held though the request fails. -/
def request (p : Pool) (length : Int) : Except RequestError Buffer × Pool :=
  match length with
  | .ofNat n =>
      let (buffer, p) := p.acquire n
      (.ok buffer, p)
  | .negSucc _ =>
      match p.slots.findIdx? (!·.held) with
      | some index => (.error (.noPart length), p.mark index true)
      | none => (.error .noRoom, p)

/-- Take a buffer back. -/
def release (p : Pool) (b : Buffer) : Except ReleaseError Pool :=
  if b.capacity = 0 then .error .empty
  else match b.slot with
    | none => .error .foreign
    | some index =>
        match p.slots[index]? with
        | none => .error .foreign
        | some slot => if slot.held then .ok (p.mark index false) else .error .notHeld

/-- Take a buffer back if possible. -/
def releaseOrKeep (p : Pool) (b : Buffer) : Pool :=
  match p.release b with
  | .ok p => p
  | .error _ => p

/-- A buffer that was not given back: its slot and the length it was made with. -/
structure Leak where
  slot : Nat
  size : Nat
  deriving DecidableEq, Repr

/-- The text of a leak. -/
def Leak.message (l : Leak) : String :=
  "buffer " ++ toString l.slot ++ " of length " ++ toString l.size ++ " not released"

/-- The first slot still held. -/
def leak? (p : Pool) : Option Leak :=
  match p.slots.findIdx? (·.held) with
  | some index => some ⟨index, (p.slots[index]?.map (·.size)).getD 0⟩
  | none => none

/-- Storage written from its first place on. What lies behind stays as it was. -/
def overwrite {α : Type} (cells values : List α) : List α := values ++ cells.drop values.length

/-- What the slots of a pool hold. -/
structure Contents (α : Type) where
  /-- The elements in a slot. -/
  cells : Nat → List α := fun _ => []

namespace Contents

variable {α : Type}

/-- The elements a buffer shows. -/
def read (c : Contents α) (b : Buffer) : List α :=
  match b.slot with
  | none => []
  | some index => (c.cells index).take b.length

/-- Write to a buffer from its first place on. -/
def write (c : Contents α) (b : Buffer) (values : List α) : Contents α :=
  match b.slot with
  | none => c
  | some index => ⟨fun i => if i = index then overwrite (c.cells i) values else c.cells i⟩

end Contents

end Pool

/-- Scratch buffers for distances and for points. -/
structure Scratch where
  floats : Pool := {}
  vectors : Pool := {}
  /-- What the slots for distances hold. -/
  distances : Pool.Contents Float32 := {}
  /-- What the slots for points hold. -/
  points : Pool.Contents Vec3 := {}

/-- The text of the first leak, distances before points. -/
def Scratch.leakMessage? (s : Scratch) : Option String :=
  match s.floats.leak?, s.vectors.leak? with
  | some leak, _ => some ("float pool: " ++ leak.message)
  | none, some leak => some ("vec3 pool: " ++ leak.message)
  | none, none => none

end FieldGraph
