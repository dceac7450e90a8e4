import FieldGraph.Field.Normals
import FieldGraph.Proofs.Field.Pool
import FieldGraph.Proofs.Field.Source

/-!
# Normals from reused buffers

All six batches of a computation go through the same three scratch buffers. The two for distances
are in different slots, because a pool hands out no slot twice, so that the distances ahead are
still there when those behind have been written; and what a buffer held before is written over by
every batch. Hence the components of an axis are differences of the function that the source
computes, for as many axes as had both of their batches. Giving the buffers back frees the slots
that were taken and no others, whatever the source did.
-/

namespace FieldGraph.Normals

/-! ## Loans -/

/-- Buffers for a number of points, those for distances in different slots. -/
structure Loan.Fits (loan : Loan) (length : Nat) : Prop where
  moved : ∃ i, loan.moved.slot = some i
  ahead : ∃ i, loan.ahead.slot = some i
  behind : ∃ i, loan.behind.slot = some i
  apart : loan.ahead.slot ≠ loan.behind.slot
  length_moved : loan.moved.length = length
  length_ahead : loan.ahead.length = length
  length_behind : loan.behind.length = length

/-- Borrowed buffers fit. -/
theorem fits_borrow (scratch : Scratch) (length : Nat) :
    (borrow scratch length).1.Fits length := by
  obtain ⟨i, hi, -, hheld⟩ := scratch.floats.exists_acquired length
  obtain ⟨j, hj, hfree, -⟩ := (scratch.floats.acquire length).2.exists_acquired length
  obtain ⟨k, hk, -⟩ := scratch.vectors.exists_acquired length
  refine ⟨⟨k, hk⟩, ⟨i, hi⟩, ⟨j, hj⟩, ?_, Pool.length_acquire .., Pool.length_acquire ..,
    Pool.length_acquire ..⟩
  intro heq
  obtain rfl : i = j := Option.some.inj (hi.symm.trans (heq.trans hj))
  exact hfree ((hheld i).mpr (.inr rfl))

/-- Giving back borrowed buffers leaves the same slots held as before. -/
theorem isHeld_giveBack {scratch later : Scratch} {length : Nat} (hlength : 1 ≤ length)
    (hfloats : later.floats = (borrow scratch length).2.floats)
    (hvectors : later.vectors = (borrow scratch length).2.vectors) :
    (∀ i, ((borrow scratch length).1.giveBack later).floats.IsHeld i ↔ scratch.floats.IsHeld i) ∧
    ∀ i, ((borrow scratch length).1.giveBack later).vectors.IsHeld i ↔
      scratch.vectors.IsHeld i := by
  rw [Loan.giveBack, hfloats, hvectors]
  refine ⟨scratch.floats.isHeld_returned hlength ?_ ?_,
    scratch.vectors.isHeld_returned hlength le_rfl fun i => Iff.rfl⟩
  · rw [Pool.length_releaseOrKeep]
    exact Pool.length_le_acquire ..
  · exact (scratch.floats.acquire length).2.isHeld_returned hlength le_rfl fun i => Iff.rfl

/-! ## Batches -/

section

variable {σ : Type} {loan : Loan} {source : Source σ} {points : List Vec3}

/-- A batch is evaluated at the points written for it, whatever the buffer held before. -/
theorem Loan.Fits.read_moved (hfits : loan.Fits points.length) (contents : Pool.Contents Vec3) :
    (contents.write loan.moved points).read loan.moved = points := by
  obtain ⟨i, hi⟩ := hfits.moved
  exact contents.read_write hi hfits.length_moved.symm

/-- A batch that succeeds writes its distances to the buffer for them. -/
theorem sample_of_ok (hfits : loan.Fits points.length) {target : Pool.Buffer}
    (htarget : target.length = points.length) {s : σ} {distances : List Float32}
    (h : ((source.evaluate points points.length).run.run s).1 = .ok distances) (scratch : Scratch) :
    ∃ later, (loan.sample source points target scratch).run s =
        ((none, later), ((source.evaluate points points.length).run.run s).2) ∧
      later.distances = scratch.distances.write target distances := by
  unfold Loan.sample
  dsimp only
  rw [hfits.read_moved, htarget, StateT.run_bind]
  cases hrun : (source.evaluate points points.length).run.run s with
  | mk answer s' =>
    rw [hrun] at h
    cases h
    exact ⟨_, rfl, rfl⟩

/-- A batch that fails says so. -/
theorem sample_of_error (hfits : loan.Fits points.length) {target : Pool.Buffer}
    (htarget : target.length = points.length) {s : σ} {error : EvalError}
    (h : ((source.evaluate points points.length).run.run s).1 = .error error) (scratch : Scratch) :
    ∃ later t, (loan.sample source points target scratch).run s = ((some error, later), t) := by
  unfold Loan.sample
  dsimp only
  rw [hfits.read_moved, htarget, StateT.run_bind]
  cases hrun : (source.evaluate points points.length).run.run s with
  | mk answer s' =>
    rw [hrun] at h
    cases h
    exact ⟨_, _, rfl⟩

/-- A batch takes no buffers and gives none back. -/
theorem pools_sample (loan : Loan) (source : Source σ) (points : List Vec3) (target : Pool.Buffer)
    (scratch : Scratch) (s : σ) :
    ((loan.sample source points target scratch).run s).1.2.floats = scratch.floats ∧
      ((loan.sample source points target scratch).run s).1.2.vectors = scratch.vectors := by
  unfold Loan.sample
  dsimp only
  rw [StateT.run_bind]
  cases (source.evaluate ((scratch.points.write loan.moved points).read loan.moved)
    target.length).run.run s with
  | mk answer s' => cases answer <;> exact ⟨rfl, rfl⟩

/-! ## Axes -/

variable {h : Float32} {axis : Axis} {rest : List Axis} {normals : List Vec3}
  {scratch between later : Scratch} {s t u : σ} {error : EvalError}

/-- If the batch ahead fails, the computation ends there. -/
theorem fill_of_ahead
    (hahead : (loan.sample source (points.map (·.add (axis.step h))) loan.ahead scratch).run s =
      ((some error, between), t)) :
    (fill loan source points h (axis :: rest) normals scratch).run s =
      ((normals, some error, between), t) := by
  rw [fill, StateT.run_bind, hahead]
  rfl

/-- So it does if the batch behind fails. -/
theorem fill_of_behind
    (hahead : (loan.sample source (points.map (·.add (axis.step h))) loan.ahead scratch).run s =
      ((none, between), t))
    (hbehind : (loan.sample source (points.map (·.sub (axis.step h))) loan.behind between).run t =
      ((some error, later), u)) :
    (fill loan source points h (axis :: rest) normals scratch).run s =
      ((normals, some error, later), u) := by
  rw [fill, StateT.run_bind, hahead]
  change StateT.run (_ >>= _) t = _
  rw [StateT.run_bind, hbehind]
  rfl

/-- If both succeed, the component is filled and the computation goes on. -/
theorem fill_of_both
    (hahead : (loan.sample source (points.map (·.add (axis.step h))) loan.ahead scratch).run s =
      ((none, between), t))
    (hbehind : (loan.sample source (points.map (·.sub (axis.step h))) loan.behind between).run t =
      ((none, later), u)) :
    (fill loan source points h (axis :: rest) normals scratch).run s =
      (fill loan source points h rest (putDifferences axis normals
        (later.distances.read loan.ahead) (later.distances.read loan.behind)) later).run u := by
  rw [fill, StateT.run_bind, hahead]
  change StateT.run (_ >>= _) t = _
  rw [StateT.run_bind, hbehind]
  rfl

/-- A computation along some axes takes no buffers and gives none back, however it ends. -/
theorem pools_fill (loan : Loan) (source : Source σ) (points : List Vec3) (h : Float32)
    (axes : List Axis) (normals : List Vec3) (scratch : Scratch) (s : σ) :
    ((fill loan source points h axes normals scratch).run s).1.2.2.floats = scratch.floats ∧
      ((fill loan source points h axes normals scratch).run s).1.2.2.vectors = scratch.vectors := by
  induction axes generalizing normals scratch s with
  | nil => exact ⟨rfl, rfl⟩
  | cons axis rest ih =>
    have hkept := pools_sample loan source (points.map (·.add (axis.step h))) loan.ahead scratch s
    rcases hahead : (loan.sample source (points.map (·.add (axis.step h))) loan.ahead scratch).run s
      with ⟨⟨_ | error, between⟩, t⟩
    · rw [hahead] at hkept
      have hkept' :=
        pools_sample loan source (points.map (·.sub (axis.step h))) loan.behind between t
      rcases hbehind : (loan.sample source (points.map (·.sub (axis.step h))) loan.behind
        between).run t with ⟨⟨_ | error, later⟩, u⟩
      · rw [hbehind] at hkept'
        rw [fill_of_both hahead hbehind]
        obtain ⟨hfloats, hvectors⟩ := ih (putDifferences axis normals
          (later.distances.read loan.ahead) (later.distances.read loan.behind)) later u
        exact ⟨hfloats.trans (hkept'.1.trans hkept.1), hvectors.trans (hkept'.2.trans hkept.2)⟩
      · rw [hbehind] at hkept'
        rw [fill_of_behind hahead hbehind]
        exact ⟨hkept'.1.trans hkept.1, hkept'.2.trans hkept.2⟩
    · rw [hahead] at hkept
      rw [fill_of_ahead hahead]
      exact hkept

/-- The difference of a function along an axis. -/
def difference (f : Vec3 → Float32) (h : Float32) (axis : Axis) (p : Vec3) : Float32 :=
  f (p.add (axis.step h)) - f (p.sub (axis.step h))

/-- A vector with the components of some axes replaced by differences. -/
def replaced (f : Vec3 → Float32) (h : Float32) (axes : List Axis) (p v : Vec3) : Vec3 :=
  axes.foldl (fun v axis => axis.put v (difference f h axis p)) v

/-- Differences of computed distances. -/
theorem putDifferences_map (axis : Axis) (f g : Vec3 → Float32) {points normals : List Vec3}
    (hlength : normals.length = points.length) :
    putDifferences axis normals (points.map f) (points.map g) =
      List.zipWith (fun p v => axis.put v (f p - g p)) points normals := by
  induction points generalizing normals with
  | nil =>
    obtain rfl := List.eq_nil_of_length_eq_zero hlength
    rfl
  | cons p rest ih =>
    obtain ⟨v, others, rfl⟩ := List.exists_cons_of_length_eq_add_one hlength
    have hrest : others.length = rest.length := by simpa using hlength
    rw [List.map_cons, List.map_cons, putDifferences, ih hrest, List.zipWith_cons_cons]

/-- Replacing components keeps the number of normals. -/
theorem length_zipWith_points (g : Vec3 → Vec3 → Vec3) {points normals : List Vec3}
    (hlength : normals.length = points.length) :
    (List.zipWith g points normals).length = points.length := by
  rw [List.length_zipWith, hlength, min_self]

/-- Replacing components twice, for the same points. -/
theorem zipWith_zipWith {α β γ δ : Type} (f : α → γ → δ) (g : α → β → γ) (xs : List α)
    (ys : List β) :
    List.zipWith f xs (List.zipWith g xs ys) = List.zipWith (fun x y => f x (g x y)) xs ys := by
  induction xs generalizing ys with
  | nil => rfl
  | cons x xs ih =>
    cases ys with
    | nil => rfl
    | cons y ys => simp [ih]

variable {f : Vec3 → Float32} {afterwards : σ → Prop} {n : Nat}

/-- An axis with both of its batches evaluated has its components replaced. The distances ahead
outlast those behind since they are in another slot. -/
theorem fill_of_served (h : Float32) (axis : Axis) (rest : List Axis) (scratch : Scratch)
    (hfits : loan.Fits points.length) (hpoints : points ≠ [])
    (hlength : normals.length = points.length) (hserves : source.Serves f afterwards (n + 2) s) :
    ∃ later u, source.Serves f afterwards n u ∧
      (fill loan source points h (axis :: rest) normals scratch).run s =
        (fill loan source points h rest
          (List.zipWith (fun p v => axis.put v (difference f h axis p)) points normals)
          later).run u := by
  have hmoved (g : Vec3 → Vec3) : (points.map g).length = points.length := List.length_map g
  have hne (g : Vec3 → Vec3) : points.map g ≠ [] := by simpa using hpoints
  obtain ⟨hahead, hnext⟩ := hserves (points.map (·.add (axis.step h))) (hne _)
  obtain ⟨hbehind, hlast⟩ := hnext (points.map (·.sub (axis.step h))) (hne _)
  obtain ⟨between, hfirst, hbetween⟩ := sample_of_ok (by rwa [hmoved])
    (hfits.length_ahead.trans (hmoved _).symm) hahead scratch
  obtain ⟨later, hsecond, hlater⟩ := sample_of_ok (by rwa [hmoved])
    (hfits.length_behind.trans (hmoved _).symm) hbehind between
  refine ⟨later, _, hlast, ?_⟩
  obtain ⟨i, hi⟩ := hfits.ahead
  obtain ⟨j, hj⟩ := hfits.behind
  have hkept : later.distances.read loan.ahead = points.map (fun p => f (p.add (axis.step h))) := by
    rw [hlater, hbetween, Pool.Contents.read_write_of_ne _ hfits.apart,
      Pool.Contents.read_write _ hi (by simp [hfits.length_ahead]), List.map_map]
    rfl
  have hnew : later.distances.read loan.behind = points.map (fun p => f (p.sub (axis.step h))) := by
    rw [hlater, Pool.Contents.read_write _ hj (by simp [hfits.length_behind]), List.map_map]
    rfl
  rw [fill_of_both hfirst hsecond, hkept, hnew, putDifferences_map axis _ _ hlength]
  rfl

/-- Components of no axes are replaced by nothing. -/
theorem zipWith_replaced_nil (f : Vec3 → Float32) (h : Float32) {points normals : List Vec3}
    (hlength : normals.length = points.length) :
    List.zipWith (replaced f h []) points normals = normals := by
  rw [← List.map_uncurry_zip_eq_zipWith]
  exact List.map_snd_zip hlength.le

/-- Along axes with all of their batches evaluated, all of their components are replaced. -/
theorem fill_of_all (h : Float32) (axes : List Axis) (scratch : Scratch)
    (hfits : loan.Fits points.length) (hpoints : points ≠ [])
    (hlength : normals.length = points.length)
    (hserves : source.Serves f afterwards (2 * axes.length) s) :
    ∃ later u, (fill loan source points h axes normals scratch).run s =
      ((List.zipWith (replaced f h axes) points normals, none, later), u) := by
  induction axes generalizing normals scratch s with
  | nil => exact ⟨scratch, s, by rw [zipWith_replaced_nil f h hlength]; rfl⟩
  | cons axis rest ih =>
    obtain ⟨between, t, hrest, hrun⟩ := fill_of_served h axis rest scratch hfits hpoints hlength
      hserves
    obtain ⟨later, u, heq⟩ := ih between (length_zipWith_points _ hlength) hrest
    refine ⟨later, u, ?_⟩
    rw [hrun, heq, zipWith_zipWith]
    rfl

/-- If a batch fails, the components of the axes with both of their batches before it are
replaced, and no others. -/
theorem fill_of_failed (h : Float32) (axes : List Axis) (scratch : Scratch)
    (hfits : loan.Fits points.length) (hpoints : points ≠ [])
    (hlength : normals.length = points.length) (hn : n < 2 * axes.length)
    (hfails : source.FailsAt f n error s) :
    ∃ later u, (fill loan source points h axes normals scratch).run s =
      ((List.zipWith (replaced f h (axes.take (n / 2))) points normals, some error, later), u) := by
  have hmoved (g : Vec3 → Vec3) : (points.map g).length = points.length := List.length_map g
  have hne (g : Vec3 → Vec3) : points.map g ≠ [] := by simpa using hpoints
  induction axes generalizing normals scratch s n with
  | nil => exact absurd hn (Nat.not_lt_zero n)
  | cons axis rest ih =>
    obtain _ | _ | n := n
    · -- The batch ahead fails.
      have hahead := hfails (points.map (·.add (axis.step h))) (hne _)
      obtain ⟨later, t, hfirst⟩ := sample_of_error (by rwa [hmoved])
        (hfits.length_ahead.trans (hmoved _).symm) hahead scratch
      refine ⟨later, t, ?_⟩
      rw [fill_of_ahead hfirst]
      change _ = ((List.zipWith (replaced f h []) points normals, _, _), _)
      rw [zipWith_replaced_nil f h hlength]
    · -- The batch behind fails.
      obtain ⟨hahead, hnext⟩ := hfails (points.map (·.add (axis.step h))) (hne _)
      have hbehind := hnext (points.map (·.sub (axis.step h))) (hne _)
      obtain ⟨between, hfirst, -⟩ := sample_of_ok (by rwa [hmoved])
        (hfits.length_ahead.trans (hmoved _).symm) hahead scratch
      obtain ⟨later, u, hsecond⟩ := sample_of_error (by rwa [hmoved])
        (hfits.length_behind.trans (hmoved _).symm) hbehind between
      refine ⟨later, u, ?_⟩
      rw [fill_of_behind hfirst hsecond]
      change _ = ((List.zipWith (replaced f h []) points normals, _, _), _)
      rw [zipWith_replaced_nil f h hlength]
    · -- Both succeed, and one of a later axis fails.
      obtain ⟨between, t, hrest, hrun⟩ := fill_of_served h axis rest scratch hfits hpoints hlength
        hfails
      obtain ⟨later, u, heq⟩ := ih between (length_zipWith_points _ hlength)
        (by rw [List.length_cons] at hn; omega) hrest
      refine ⟨later, u, ?_⟩
      have hhalf : (n + 1 + 1) / 2 = n / 2 + 1 := by omega
      rw [hrun, heq, zipWith_zipWith, hhalf]
      rfl

end

/-! ## Normals -/

/-- The differences of a function along the three axes. -/
def gradient (f : Vec3 → Float32) (h : Float32) (p : Vec3) : Vec3 where
  x := f (p.add ⟨h, 0, 0⟩) - f (p.sub ⟨h, 0, 0⟩)
  y := f (p.add ⟨0, h, 0⟩) - f (p.sub ⟨0, h, 0⟩)
  z := f (p.add ⟨0, 0, h⟩) - f (p.sub ⟨0, 0, h⟩)

/-- A vector whose first components are taken from another one. -/
def firstFrom (n : Nat) (new old : Vec3) : Vec3 where
  x := if 0 < n then new.x else old.x
  y := if 1 < n then new.y else old.y
  z := if 2 < n then new.z else old.z

/-- The components of the first axes are the first components. -/
theorem replaced_take (f : Vec3 → Float32) (h : Float32) (n : Nat) (p v : Vec3) :
    replaced f h ([.x, .y, .z].take n) p v = firstFrom n (gradient f h p) v := by
  obtain _ | _ | _ | n := n
  · rfl
  · rfl
  · rfl
  · have htake : [Axis.x, .y, .z].take (n + 1 + 1 + 1) = [.x, .y, .z] := by simp
    rw [htake, firstFrom, if_pos (by omega), if_pos (by omega), if_pos (by omega)]
    rfl

/-- With the components of all axes replaced, nothing is left of the old normals. -/
theorem zipWith_replaced_all (f : Vec3 → Float32) (h : Float32) {points normals : List Vec3}
    (hlength : normals.length = points.length) :
    List.zipWith (replaced f h [.x, .y, .z]) points normals = points.map (gradient f h) := by
  have hfirst : replaced f h [.x, .y, .z] = fun p _ => gradient f h p := rfl
  rw [hfirst, ← List.map_uncurry_zip_eq_zipWith]
  calc (points.zip normals).map (fun pair => gradient f h pair.1)
      = ((points.zip normals).map Prod.fst).map (gradient f h) := by
        rw [List.map_map]
        rfl
    _ = points.map (gradient f h) := by rw [List.map_fst_zip hlength.ge]

section

variable {σ : Type} (source : Source σ) {points normals : List Vec3} {step : Float32}
  {from? : ScratchSource} (scratch : Scratch) (state : σ)

/-- What is left of a computation that is not refused, in terms of its run along the axes. -/
theorem centralDifferences_eq (hpoints : points ≠ []) (hlength : normals.length = points.length)
    (hstep : ¬ step * 0.5 ≤ 0) (hfrom : from?.fault? = none) :
    centralDifferences (some source) points normals step from? scratch state =
      let loan := (borrow scratch points.length).1
      let run := (fill loan source points (step * 0.5) [.x, .y, .z] normals
        (borrow scratch points.length).2).run state
      ⟨run.1.1, run.1.2.1.map .evaluation, loan.giveBack run.1.2.2, run.2⟩ := by
  unfold centralDifferences
  simp only [if_neg hstep, if_neg (not_not.mpr hlength.symm), if_neg hpoints, hfrom]
  rfl

end

/-- A computation of normals that is not refused leaves the pools with the same slots held as
before, whatever the source does. If its six batches are evaluated by a function, the normals are
the differences of the function; if one of them fails, its error is given back and exactly the
components of the axes with both of their batches before it are replaced. -/
theorem normals_are_differences {σ : Type} (source : Source σ) (points normals : List Vec3)
    (step : Float32) (from? : ScratchSource) (scratch : Scratch) (state : σ)
    (hpoints : points ≠ []) (hlength : normals.length = points.length)
    (hstep : ¬ step * 0.5 ≤ 0) (hfrom : from?.fault? = none) :
    let outcome := centralDifferences (some source) points normals step from? scratch state
    (∀ i, outcome.scratch.floats.IsHeld i ↔ scratch.floats.IsHeld i) ∧
    (∀ i, outcome.scratch.vectors.IsHeld i ↔ scratch.vectors.IsHeld i) ∧
    ∀ f : Vec3 → Float32,
      ((source.Computes f state ∨ ∃ k ≥ 6, ∃ error, source.FailsAt f k error state) →
        outcome.error = none ∧ outcome.normals = points.map (gradient f (step * 0.5))) ∧
      ∀ k < 6, ∀ error, source.FailsAt f k error state →
        outcome.error = some (.evaluation error) ∧
        outcome.normals = List.zipWith
          (fun p v => firstFrom (k / 2) (gradient f (step * 0.5) p) v) points normals := by
  intro outcome
  have houtcome : outcome = _ :=
    centralDifferences_eq source scratch state hpoints hlength hstep hfrom
  have hpos : 1 ≤ points.length := List.length_pos_iff.mpr hpoints
  have hfits := fits_borrow scratch points.length
  obtain ⟨hfloats, hvectors⟩ := pools_fill (borrow scratch points.length).1 source points
    (step * 0.5) [.x, .y, .z] normals (borrow scratch points.length).2 state
  obtain ⟨hheldFloats, hheldVectors⟩ := isHeld_giveBack hpos hfloats hvectors
  rw [houtcome]
  refine ⟨hheldFloats, hheldVectors, fun f => ⟨fun hall => ?_, fun k hk error hfails => ?_⟩⟩
  · obtain ⟨later, u, hrun⟩ := fill_of_all (step * 0.5) [.x, .y, .z]
      (borrow scratch points.length).2 hfits hpoints hlength (Source.serves_of_late hall)
    dsimp only
    rw [hrun]
    exact ⟨rfl, zipWith_replaced_all f _ hlength⟩
  · obtain ⟨later, u, hrun⟩ := fill_of_failed (step * 0.5) [.x, .y, .z]
      (borrow scratch points.length).2 hfits hpoints hlength hk hfails
    dsimp only
    rw [hrun]
    have hreplaced : replaced f (step * 0.5) ([.x, .y, .z].take (k / 2)) =
        fun p v => firstFrom (k / 2) (gradient f (step * 0.5) p) v := by
      funext p v
      exact replaced_take ..
    exact ⟨rfl, by rw [hreplaced]⟩

/-- Scratch memory with one buffer in use, and with old distances in another one. -/
def usedScratch : Scratch where
  floats := ⟨[⟨2, true⟩, ⟨2, false⟩]⟩
  distances := ⟨fun _ => [7, 7]⟩

/-- The normals of a sphere and its image out of used memory, and the first of their components if
the fourth batch fails. -/
theorem normals_are_differences_mirroredSphere :
    ∃ field, Field.of ((Graph.empty .standard).run Field.mirroredSphere) [1, 2, 3, 4]
      (.centred 4) = .ok field ∧
    ∃ f, field.source.Computes f field.fresh ∧
    ∃ points normals : List Vec3, points = [⟨1, 0, 0⟩, ⟨0, 2, 0⟩] ∧
      normals = [⟨9, 9, 9⟩, ⟨7, 7, 7⟩] ∧
      (let outcome := centralDifferences (some field.source) points normals 0.5 .pool usedScratch
        field.fresh
      outcome.error = none ∧ outcome.normals = points.map (gradient f (0.5 * 0.5))) ∧
      (let outcome := centralDifferences (some (field.source.failingFrom 3)) points normals 0.5
        .pool usedScratch (0, field.fresh)
      outcome.error = some (.evaluation .failed) ∧ outcome.normals = List.zipWith
        (fun p v => firstFrom 1 (gradient f (0.5 * 0.5) p) v) points normals ∧
      ∀ i, outcome.scratch.floats.IsHeld i ↔ usedScratch.floats.IsHeld i) := by
  obtain ⟨field, hfield, f, hf⟩ := Field.exists_computes_mirroredSphere
  -- The lengths are compared by rewriting: to compare them by evaluation is to compare floats.
  have hlength : ([⟨9, 9, 9⟩, ⟨7, 7, 7⟩] : List Vec3).length =
      ([⟨1, 0, 0⟩, ⟨0, 2, 0⟩] : List Vec3).length := by
    simp only [List.length_cons, List.length_nil]
  refine ⟨field, hfield, f, hf, _, _, rfl, rfl, ?_, ?_⟩
  · obtain ⟨-, -, hdifferences⟩ := normals_are_differences field.source _ _ 0.5 .pool usedScratch
      field.fresh (List.cons_ne_nil _ _) hlength (by decide) rfl
    exact (hdifferences f).1 (.inl hf)
  · obtain ⟨hheld, -, hdifferences⟩ := normals_are_differences (field.source.failingFrom 3)
      _ _ 0.5 .pool usedScratch (0, field.fresh) (List.cons_ne_nil _ _) hlength (by decide) rfl
    obtain ⟨herror, hnormals⟩ := (hdifferences f).2 3 (by decide) .failed (hf.failsAt 3)
    exact ⟨herror, hnormals, hheld⟩

end FieldGraph.Normals
