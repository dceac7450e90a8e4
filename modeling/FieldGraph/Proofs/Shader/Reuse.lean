import FieldGraph.Proofs.Graph.Edit
import FieldGraph.Shader.Basic

/-!
# Compilers can be used again

A compiler keeps two things from one generation to the next: the table of the names that were
claimed, which a generation that stops leaves behind as it is, and the buffer that sources are
written to. The table is cleared before a node is looked at, and of the buffer only what was written
last is read. What is generated therefore depends on the dialect and the parameter mode of a
compiler and on nothing it did before, except for the number that the shader is given.
-/

namespace FieldGraph.Compiler

variable {c c' : Compiler} {g : Graph} {order : List NodeId}

/-! ## Outcomes -/

/-- A generated shader is finished code with the next number. -/
theorem generate_eq_ok_iff {shader : Shader} :
    c.generate g order = (.ok shader, c') ↔ ∃ done, c.finish g order = .ok done ∧
      shader = c.shaderOf done (c.generation + 1) ∧ c' = c.advance done := by
  unfold generate
  cases c.finish g order <;> simp [eq_comm]

/-- What the outcome of a generation is known to come to is that of a shader. -/
theorem exists_shader {α : Type} {f : Shader → α} {a : α}
    (h : (c.generate g order).1.toOption.map f = some a) :
    ∃ shader c', c.generate g order = (.ok shader, c') ∧ f shader = a := by
  obtain ⟨shader, hok, hvalue⟩ := exists_of_toOption_map h
  exact ⟨shader, _, Prod.ext hok rfl, hvalue⟩

/-- No shader is generated if the code is not finished. -/
theorem generate_eq_error_iff {e : GenerateError} :
    c.generate g order = (.error e, c') ↔ ∃ names, c.finish g order = .error ⟨e, names⟩ ∧
      c' = { c with names } := by
  unfold generate
  cases c.finish g order with
  | ok done => simp
  | error stop =>
    obtain ⟨error, names⟩ := stop
    constructor
    · rintro ⟨⟩
      exact ⟨names, rfl, rfl⟩
    · rintro ⟨_, ⟨⟩, rfl⟩
      rfl

/-- A generation goes on after a node that is taken up. -/
theorem generateFrom_cons_eq_ok_iff {length position : Nat} {consumed rest : List NodeId}
    {id : NodeId} {before after : Progress} :
    c.generateFrom g length consumed position (id :: rest) before = .ok after ↔
      ∃ next, c.generateNode g length consumed position id before = .ok next ∧
        c.generateFrom g length consumed (position + 1) rest next = .ok after := by
  rw [generateFrom]
  cases c.generateNode g length consumed position id before <;> simp

/-! ## What a compiler did before -/

/-- The code of nodes does not depend on what a compiler has counted, claimed or written. -/
theorem generateFrom_eq (c : Compiler) (workGroup generation : Nat)
    (names : List (UInt64 × UInt64)) (scratch : Shader.Scratch) (g : Graph) (length : Nat)
    (consumed : List NodeId) (position : Nat) (order : List NodeId) (done : Progress) :
    ({ c with workGroup, generation, names, scratch } : Compiler).generateFrom g length consumed
        position order done = c.generateFrom g length consumed position order done := by
  induction order generalizing position done with
  | nil => rfl
  | cons id rest ih =>
    simp only [generateFrom, ih]
    rfl

/-- Over an order with nodes, code is generated from a clear table. -/
theorem finish_of_ne_nil (c : Compiler) (g : Graph) (h : order ≠ []) :
    c.finish g order =
      c.generateFrom g order.length (g.consumed order) 0 order {} >>= checkLibrary := by
  have hclear : c.clear.generateFrom g order.length (g.consumed order) 0 order
      { names := c.clear.names } = c.generateFrom g order.length (g.consumed order) 0 order {} :=
    generateFrom_eq c c.workGroup c.generation [] c.scratch g _ _ 0 order {}
  rw [finish, if_neg h]
  exact congrArg (· >>= checkLibrary) hclear

/-- The check of the library changes nothing. -/
theorem checkLibrary_eq_ok_iff {done done' : Progress} :
    checkLibrary done = .ok done' ↔ done = done' ∧ Shader.conflict? done.library = none := by
  unfold checkLibrary
  cases Shader.conflict? done.library <;> simp

/-- Code is finished if there are nodes, all are generated and no library functions conflict. -/
theorem finish_eq_ok_iff {done : Progress} :
    c.finish g order = .ok done ↔ order ≠ [] ∧
      c.generateFrom g order.length (g.consumed order) 0 order {} = .ok done ∧
      Shader.conflict? done.library = none := by
  by_cases hempty : order = []
  · simp [hempty, finish]
  · simp only [finish_of_ne_nil c g hempty, bind_eq_ok_iff, checkLibrary_eq_ok_iff]
    constructor
    · rintro ⟨_, hdone, rfl, hconflict⟩
      exact ⟨hempty, hdone, hconflict⟩
    · rintro ⟨-, hdone, hconflict⟩
      exact ⟨done, hdone, rfl, hconflict⟩

/-- The source is what its pieces join to, whatever was written before. -/
theorem text_write (c : Compiler) (done : Progress) :
    (c.write done).text = String.join (c.pieces done) := by
  rw [write, Shader.Scratch.text_foldl_append, Shader.Scratch.text_reset, String.empty_append]

section

variable (hdialect : c.dialect = c'.dialect) (hmode : c.mode = c'.mode)

include hdialect hmode

/-- Compilers with one dialect and mode stop at one place or finish with the same code. -/
theorem finish_congr (g : Graph) (h : order ≠ []) : c.finish g order = c'.finish g order := by
  have hsame : c' = { c with workGroup := c'.workGroup, generation := c'.generation,
                             names := c'.names, scratch := c'.scratch } := by
    rw [hdialect, hmode]
  have hfrom := generateFrom_eq c c'.workGroup c'.generation c'.names c'.scratch g order.length
    (g.consumed order) 0 order {}
  rw [← hsame] at hfrom
  rw [finish_of_ne_nil c g h, finish_of_ne_nil c' g h, hfrom]

/-- Compilers with one dialect and mode finish the same code. -/
theorem finish_eq_ok_congr {done : Progress} :
    c.finish g order = .ok done ↔ c'.finish g order = .ok done := by
  by_cases hempty : order = []
  · simp [finish_eq_ok_iff, hempty]
  · rw [finish_congr hdialect hmode g hempty]

/-- Compilers with one dialect and mode make the same shader of finished code. -/
theorem shaderOf_congr (done : Progress) (generation : Nat) :
    c.shaderOf done generation = c'.shaderOf done generation := by
  simp only [shaderOf, text_write, pieces, uniformDeclaration, hdialect, hmode]

/-- Compilers with one dialect and mode generate the same, except for the number of the shader,
whatever they did before. -/
theorem generate_of_same_settings (g : Graph) (order : List NodeId) :
    (c.generate g order).1 = (c'.generate g order).1.map fun shader =>
      { shader with generation := c.generation + 1 } := by
  by_cases hempty : order = []
  · rw [hempty]
    rfl
  · rw [generate, generate, finish_congr hdialect hmode g hempty]
    cases c'.finish g order with
    | error stop => rfl
    | ok done => exact congrArg Except.ok (shaderOf_congr hdialect hmode done (c.generation + 1))

end

end FieldGraph.Compiler
