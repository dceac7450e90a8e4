import FieldGraph.Field.Build

/-!
# Sources of distances

Normals and images are computed from anything that evaluates batches of points and has bounds.
A source may keep state between batches and may fail.
-/

namespace FieldGraph

/-- Evaluates batches of points with a state of type `σ`. -/
structure Source (σ : Type) where
  /-- The box said to contain the solid. -/
  bounds : Box
  /-- Distances of points; `room` is the number of places for them. -/
  evaluate : (points : List Vec3) → (room : Nat) → ExceptT EvalError (StateM σ) (List Float32)

namespace Source

/-- The checks every evaluation makes. -/
def checkRoom (points : List Vec3) (room : Nat) : Except EvalError Unit :=
  if points.length ≠ room then .error .lengthMismatch
  else if points = [] then .error .emptyBuffers
  else .ok ()

/-- A source that fails from a numbered batch on and forwards earlier ones. -/
def failingFrom {σ : Type} (source : Source σ) (first : Nat) : Source (Nat × σ) where
  bounds := source.bounds
  evaluate := fun points room => ExceptT.mk fun (count, state) =>
    if first ≤ count then (.error .failed, (count + 1, state))
    else
      let (result, state) := (source.evaluate points room).run.run state
      (result, (count + 1, state))

end Source

/-- The distances of points one after the other. -/
def Field.distances (f : Field) : List Vec3 → StateM Field.Memory (List Float32)
  | [] => return []
  | p :: rest => do
      let sample ← f.root p
      return sample.s :: (← f.distances rest)

/-- A field as a source. -/
def Field.source (f : Field) : Source Field.Memory where
  bounds := f.bounds
  evaluate := fun points room => do
    Source.checkRoom points room
    f.distances points

end FieldGraph
