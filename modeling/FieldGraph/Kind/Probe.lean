import FieldGraph.Geometry.Vec

/-!
# Probes

A node computes its value at a point by sampling its inputs, each at a point of its choice
that may depend on earlier samples. A probe is that computation as data: either it is done, or
it asks for the value of one input at one point and continues with the answer. Because the
questions are data, how often and where an input is sampled can be stated and proved.
-/

namespace FieldGraph

/-- The value of a node at a point. Distances and scalars are in `s`, points and vectors
in `v`. -/
structure Sample where
  s : Float32 := 0
  v : Vec3 := Vec3.zero

/-- A computation that may sample numbered inputs at points. -/
inductive Probe (α : Type) where
  /-- The computation is over. -/
  | done (result : α)
  /-- Sample one input at one point and go on with its value. -/
  | ask (input : Nat) (point : Vec3) (next : Sample → Probe α)

namespace Probe

/-- Sample one input. -/
@[inline] def sample (input : Nat) (point : Vec3) : Probe Sample := ask input point done

/-- Run one computation after another. -/
def bind {α β : Type} : Probe α → (α → Probe β) → Probe β
  | done a, f => f a
  | ask input point next, f => ask input point fun s => (next s).bind f

instance : Monad Probe where
  pure := done
  bind := bind

/-- Answer every question of a probe by a monadic rule. -/
@[specialize] def run {m : Type → Type} [Monad m] {α : Type} (answer : Nat → Vec3 → m Sample) :
    Probe α → m α
  | done a => pure a
  | ask input point next => do
      let s ← answer input point
      (next s).run answer

end Probe

end FieldGraph
