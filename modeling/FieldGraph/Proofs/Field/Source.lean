import FieldGraph.Proofs.Field.Cache

/-!
# Sources that compute a function

Normals and pictures are made from batches of distances. What they need of a source is that it
evaluates one batch after the other by a function of points alone, whatever it remembers between
them, and that it may stop doing so at some call. Every field built from nodes that do not tell
equal points apart is such a source, and so is a field that is made to fail from some call on.
-/

namespace FieldGraph

namespace Source

variable {σ : Type}

/-- The next `n` batches are evaluated by a function, and after them the state meets a condition.
Batches are not empty and have a place for every point. -/
def Serves (source : Source σ) (f : Vec3 → Float32) (afterwards : σ → Prop) : Nat → σ → Prop
  | 0, s => afterwards s
  | n + 1, s => ∀ points, points ≠ [] →
      ((source.evaluate points points.length).run.run s).1 = .ok (points.map f) ∧
      source.Serves f afterwards n ((source.evaluate points points.length).run.run s).2

/-- All batches from a state on are evaluated by a function. -/
def Computes (source : Source σ) (f : Vec3 → Float32) (s : σ) : Prop :=
  ∀ n, source.Serves f (fun _ => True) n s

/-- The next batch fails. -/
def Fails (source : Source σ) (error : EvalError) (s : σ) : Prop :=
  ∀ points, points ≠ [] →
    ((source.evaluate points points.length).run.run s).1 = .error error

/-- Calls before number `k` are evaluated by a function, and call number `k` fails. -/
def FailsAt (source : Source σ) (f : Vec3 → Float32) (k : Nat) (error : EvalError) (s : σ) : Prop :=
  source.Serves f (source.Fails error) k s

/-- A source that evaluates some batches evaluates the first of them. -/
theorem Serves.of_le {source : Source σ} {f : Vec3 → Float32} {afterwards : σ → Prop} {n m : Nat}
    (hle : n ≤ m) {s : σ} (h : source.Serves f afterwards m s) :
    source.Serves f (fun _ => True) n s := by
  induction n generalizing m s with
  | zero => trivial
  | succ n ih =>
    obtain _ | m := m
    · exact absurd hle (Nat.not_succ_le_zero n)
    · intro points hpoints
      obtain ⟨hanswer, hrest⟩ := h points hpoints
      exact ⟨hanswer, ih (Nat.le_of_succ_le_succ hle) hrest⟩

/-- A source that does not fail before call number `k` evaluates the calls before. -/
theorem serves_of_late {source : Source σ} {f : Vec3 → Float32} {k : Nat} {s : σ}
    (h : source.Computes f s ∨ ∃ n ≥ k, ∃ error, source.FailsAt f n error s) :
    source.Serves f (fun _ => True) k s := by
  obtain hcomputes | ⟨n, hn, error, hfails⟩ := h
  · exact hcomputes k
  · exact hfails.of_le hn

/-- A source that computes a function goes on computing it. -/
theorem Computes.next {source : Source σ} {f : Vec3 → Float32} {s : σ} (h : source.Computes f s)
    {points : List Vec3} (hpoints : points ≠ []) :
    ((source.evaluate points points.length).run.run s).1 = .ok (points.map f) ∧
      source.Computes f ((source.evaluate points points.length).run.run s).2 :=
  ⟨(h 1 points hpoints).1, fun n => (h (n + 1) points hpoints).2⟩

/-- A source that is made to fail from a call on fails there and not before. -/
theorem Computes.failsAt {source : Source σ} {f : Vec3 → Float32} {s : σ}
    (h : source.Computes f s) (k : Nat) : (source.failingFrom k).FailsAt f k .failed (0, s) := by
  have hfrom : ∀ (n count : Nat) (s : σ), count + n = k → source.Computes f s →
      (source.failingFrom k).Serves f ((source.failingFrom k).Fails .failed) n (count, s) := by
    intro n
    induction n with
    | zero =>
      intro count s hcount _ points _
      change (if k ≤ count then _ else _ : Except EvalError (List Float32) × Nat × σ).1 = _
      rw [if_pos (by omega)]
    | succ n ih =>
      intro count s hcount hs points hpoints
      obtain ⟨hanswer, hnext⟩ := hs.next hpoints
      have hrun : ((source.failingFrom k).evaluate points points.length).run.run (count, s) =
          (((source.evaluate points points.length).run.run s).1, count + 1,
            ((source.evaluate points points.length).run.run s).2) := by
        change (if k ≤ count then _ else _ : Except EvalError (List Float32) × Nat × σ) = _
        exact if_neg (by omega)
      rw [hrun]
      exact ⟨hanswer, ih (count + 1) _ (by omega) hnext⟩
  exact hfrom k 0 s (Nat.zero_add k) h

end Source

namespace Field

/-- A field with transparent samples computes the distances of the plain function. -/
theorem computes_of_transparent {origins : Nat → Vec3 → Sample} {field : Field}
    {f : Vec3 → Sample} (h : Transparent origins field.root f) {memory : Memory}
    (hmemory : Faithful origins memory) :
    field.source.Computes (fun p => (f p).s) memory := by
  intro n
  induction n generalizing memory with
  | zero => trivial
  | succ n ih =>
    intro points hpoints
    obtain ⟨hanswer, hkept⟩ := yields_evaluate h points points.length memory hmemory
    refine ⟨hanswer.trans ?_, ih hkept⟩
    simp [Source.checkRoom, hpoints, Except.map]

/-- A field built from nodes that do not tell equal points apart computes the distances of the
plain meaning of its graph. -/
theorem exists_computes {g : Graph} {order : List NodeId} {bounds : Box} {field : Field}
    (h : Field.of g order bounds = .ok field)
    (hsteady : ∀ id ∈ order, ∀ n, g.node? id = some n → SteadyNode n) :
    ∃ f, plain g order = .ok f ∧ field.source.Computes (fun p => (f p).s) field.fresh := by
  obtain ⟨root, hroot, he⟩ := bind_eq_ok_iff.mp h
  cases he
  have hnothing : List.Forall₂ (Built 0 fun _ _ => {}) [] [] := .nil
  obtain ⟨f, origins, hplain, htransparent⟩ := exists_plain hsteady hnothing hroot
  exact ⟨f, hplain, computes_of_transparent htransparent (faithful_fresh _)⟩

/-- The field of the sphere and its image computes a function. -/
theorem exists_computes_mirroredSphere :
    ∃ field, Field.of ((Graph.empty .standard).run mirroredSphere) [1, 2, 3, 4] (.centred 4) =
      .ok field ∧ ∃ f, field.source.Computes f field.fresh := by
  have hok := isOk_mirroredSphere
  cases hfield : Field.of ((Graph.empty .standard).run mirroredSphere) [1, 2, 3, 4]
      (.centred 4) with
  | error e =>
    rw [hfield] at hok
    cases hok
  | ok field =>
    obtain ⟨f, -, hf⟩ := exists_computes hfield steady_mirroredSphere
    exact ⟨field, rfl, _, hf⟩

end Field

end FieldGraph
