import FieldGraph.Field.Pool
import FieldGraph.Field.Source

/-!
# Normals by central differences

The gradient at a point is estimated along each axis from two samples, one step ahead and one
behind. Six batches are evaluated in the order of axes, the sample ahead first; a failing batch
leaves the components of later axes as they were. All batches go through the same scratch buffers,
one for moved points and two for distances, which are given back on every way out. The normals are
not brought to unit length.
-/

namespace FieldGraph.Normals

/-- Where scratch buffers are to come from. -/
inductive ScratchSource where
  /-- A pool. -/
  | pool
  /-- Something that provides a pool. -/
  | provider
  /-- Something that should provide a pool and has none. -/
  | emptyProvider
  /-- The absence of a pool where one was meant. -/
  | noPool
  /-- Something of another type, whose name messages show. -/
  | unrelated (type : String)
  deriving DecidableEq, Repr

/-- Why there is no pool, if there is none. -/
def ScratchSource.fault? : ScratchSource → Option String
  | pool | provider => none
  | emptyProvider => some "VecPool method returned nil"
  | noPool => some "nil VecPool"
  | unrelated type => some ("want *gleval.VecPool in userData, got " ++ type)

/-- Why normals were not computed. -/
inductive NormalsError where
  | invalidStep
  | lengthMismatch
  | noSource
  | emptyBuffers
  | noScratch (fault : String)
  | evaluation (error : EvalError)
  deriving DecidableEq, Repr

/-- The text of a normals error. -/
def NormalsError.message : NormalsError → String
  | invalidStep => "invalid step"
  | lengthMismatch => "length of position must match length of normals"
  | noSource => "nil SDF3"
  | emptyBuffers => EvalError.emptyBuffers.message
  | noScratch fault =>
      "VecPool required in both GPU and CPU situations for Normal calculation: " ++ fault
  | evaluation error => error.message

/-- A coordinate axis. -/
inductive Axis where
  | x
  | y
  | z
  deriving DecidableEq, Repr

/-- A step along an axis. -/
def Axis.step (h : Float32) : Axis → Vec3
  | x => ⟨h, 0, 0⟩
  | y => ⟨0, h, 0⟩
  | z => ⟨0, 0, h⟩

/-- Replace one component. -/
def Axis.put (v : Vec3) (value : Float32) : Axis → Vec3
  | x => { v with x := value }
  | y => { v with y := value }
  | z => { v with z := value }

/-- Replace one component of every normal by the difference of two distances. -/
def putDifferences (axis : Axis) :
    (normals : List Vec3) → (ahead behind : List Float32) → List Vec3
  | v :: normals, a :: ahead, b :: behind =>
      axis.put v (a - b) :: putDifferences axis normals ahead behind
  | normals, _, _ => normals

/-- The scratch buffers of one computation. -/
structure Loan where
  /-- For distances one step ahead. -/
  ahead : Pool.Buffer
  /-- For distances one step behind. -/
  behind : Pool.Buffer
  /-- For points moved by a step. -/
  moved : Pool.Buffer
  deriving DecidableEq, Repr

/-- Take scratch buffers of a length. -/
def borrow (scratch : Scratch) (length : Nat) : Loan × Scratch :=
  let (ahead, floats) := scratch.floats.acquire length
  let (behind, floats) := floats.acquire length
  let (moved, vectors) := scratch.vectors.acquire length
  (⟨ahead, behind, moved⟩, { scratch with floats, vectors })

/-- Give scratch buffers back. -/
def Loan.giveBack (loan : Loan) (scratch : Scratch) : Scratch :=
  { scratch with
    floats := (scratch.floats.releaseOrKeep loan.behind).releaseOrKeep loan.ahead
    vectors := scratch.vectors.releaseOrKeep loan.moved }

/-- Evaluate a batch of points, which go through the buffer for points, into a buffer for
distances. -/
def Loan.sample {σ : Type} (loan : Loan) (source : Source σ) (points : List Vec3)
    (target : Pool.Buffer) (scratch : Scratch) : StateM σ (Option EvalError × Scratch) := do
  let scratch := { scratch with points := scratch.points.write loan.moved points }
  match ← (source.evaluate (scratch.points.read loan.moved) target.length).run with
  | .error error => return (some error, scratch)
  | .ok distances =>
      return (none, { scratch with distances := scratch.distances.write target distances })

/-- Fill the components of the given axes, stopping at the first failing batch. -/
def fill {σ : Type} (loan : Loan) (source : Source σ) (points : List Vec3) (h : Float32) :
    List Axis → List Vec3 → Scratch → StateM σ (List Vec3 × Option EvalError × Scratch)
  | [], normals, scratch => return (normals, none, scratch)
  | axis :: rest, normals, scratch => do
      let step := axis.step h
      match ← loan.sample source (points.map (·.add step)) loan.ahead scratch with
      | (some error, scratch) => return (normals, some error, scratch)
      | (none, scratch) =>
          match ← loan.sample source (points.map (·.sub step)) loan.behind scratch with
          | (some error, scratch) => return (normals, some error, scratch)
          | (none, scratch) =>
              let ahead := scratch.distances.read loan.ahead
              let behind := scratch.distances.read loan.behind
              fill loan source points h rest (putDifferences axis normals ahead behind) scratch

/-- What is left after computing normals. -/
structure Outcome (σ : Type) where
  normals : List Vec3
  error : Option NormalsError
  scratch : Scratch
  state : σ

/-- Compute normals at points into a list of equal length. Faults are found in this order: step,
lengths, source, emptiness, scratch buffers. A step that is not a number is not refused. -/
def centralDifferences {σ : Type} (source : Option (Source σ)) (points normals : List Vec3)
    (step : Float32) (from? : ScratchSource) (scratch : Scratch) (state : σ) : Outcome σ :=
  let half := step * 0.5
  let refuse (error : NormalsError) : Outcome σ := ⟨normals, some error, scratch, state⟩
  if half ≤ 0 then refuse .invalidStep
  else if points.length ≠ normals.length then refuse .lengthMismatch
  else match source with
    | none => refuse .noSource
    | some source =>
        if points = [] then refuse .emptyBuffers
        else match from?.fault? with
          | some fault => refuse (.noScratch fault)
          | none =>
              let (loan, scratch) := borrow scratch points.length
              let ((normals, error, scratch), state) :=
                (fill loan source points half [.x, .y, .z] normals scratch).run state
              ⟨normals, error.map .evaluation, loan.giveBack scratch, state⟩

end FieldGraph.Normals
