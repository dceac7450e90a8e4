import FieldGraph.Proofs.Text.Bytes
import FieldGraph.Shader.Program

/-!
# Writing programs

A program is written chunk by chunk, and a sink with limited room may run full within any of them
or between two. What one write does is said of a single chunk; that writing goes on only while
everything fits makes it true of all chunks together, so that the chunks cannot be told from the
whole program: as many bytes of it are kept as fit, and as many are counted.
-/

namespace FieldGraph.Shader

/-- What writing some bytes to a sink with room for so many more comes to: the first of them are
kept, as many as fit, those are counted, and there is an error exactly if some did not fit. -/
structure Written.Accounts (w : Written) (before : List UInt8) (room : Nat)
    (bytes : List UInt8) : Prop where
  kept : w.sink.bytes = before ++ bytes.take (min room bytes.length)
  count : w.count = min room bytes.length
  error : w.error = if room < bytes.length then some .full else none
  left : w.sink.room = some (room - bytes.length)

namespace Written.Accounts

variable {w : Written} {before chunk : List UInt8} {room : Nat}

/-- Where the first bytes do not fit, nothing of what follows them is missed. -/
theorem of_lt (h : w.Accounts before room chunk) (hfull : room < chunk.length)
    (rest : List UInt8) : w.Accounts before room (chunk ++ rest) := by
  obtain ⟨hkept, hcount, herror, hleft⟩ := h
  have hlength : (chunk ++ rest).length = chunk.length + rest.length := List.length_append
  refine ⟨?_, by omega, ?_, ?_⟩
  · rw [hkept, List.take_append_of_le_length (by omega)]
    congr 2
    omega
  · rw [herror, if_pos hfull, if_pos (by omega)]
  · rw [hleft, Option.some.injEq]
    omega

/-- What is written after a chunk that fits counts on top of it. -/
theorem of_le {rest : List UInt8} (hfits : chunk.length ≤ room)
    (h : w.Accounts (before ++ chunk) (room - chunk.length) rest) :
    { w with count := chunk.length + w.count }.Accounts before room (chunk ++ rest) := by
  obtain ⟨hkept, hcount, herror, hleft⟩ := h
  have hmin : min room (chunk.length + rest.length) =
      chunk.length + min (room - chunk.length) rest.length := by omega
  refine ⟨?_, ?_, ?_, ?_⟩ <;> rw [List.length_append]
  · rw [hmin, List.take_length_add_append, ← List.append_assoc]
    exact hkept
  · rw [hmin, ← hcount]
  · rw [herror]
    exact if_congr (by omega) rfl rfl
  · rw [hleft, Option.some.injEq]
    omega

end Written.Accounts

namespace Sink

/-! ## Limited room -/

/-- One write accounts for its chunk. -/
theorem accounts_write (room : Nat) (before chunk : List UInt8) :
    (write ⟨some room, before⟩ chunk).Accounts before room chunk where
  kept := by simp [write, List.take_eq_take_iff]
  count := by simp [write]
  error := by simp [write]
  left := by
    simp only [write, List.length_take, Option.some.injEq]
    omega

/-- Writing stops within a first chunk that does not fit. -/
theorem writeAll_of_lt {room : Nat} {before chunk : List UInt8} (h : room < chunk.length)
    (rest : List (List UInt8)) :
    writeAll ⟨some room, before⟩ (chunk :: rest) = write ⟨some room, before⟩ chunk := by
  simp [writeAll, write, h]

/-- Writing goes on after a first chunk that fits. -/
theorem writeAll_of_le {room : Nat} {before chunk : List UInt8} (h : chunk.length ≤ room)
    (rest : List (List UInt8)) :
    writeAll ⟨some room, before⟩ (chunk :: rest) =
      let later := writeAll ⟨some (room - chunk.length), before ++ chunk⟩ rest
      { later with count := chunk.length + later.count } := by
  simp [writeAll, write, List.take_of_length_le h]

/-- Writing chunks accounts for all of them together. -/
theorem accounts_writeAll (room : Nat) (before : List UInt8) (chunks : List (List UInt8)) :
    (writeAll ⟨some room, before⟩ chunks).Accounts before room chunks.flatten := by
  induction chunks generalizing room before with
  | nil => exact ⟨by simp [writeAll], by simp [writeAll], by simp [writeAll], by simp [writeAll]⟩
  | cons chunk rest ih =>
    rw [List.flatten_cons]
    rcases Nat.lt_or_ge room chunk.length with hfull | hfits
    · rw [writeAll_of_lt hfull]
      exact (accounts_write room before chunk).of_lt hfull _
    · rw [writeAll_of_le hfits]
      exact (ih _ _).of_le hfits

/-! ## Unlimited room -/

/-- A sink without a limit takes every chunk. -/
theorem writeAll_unlimited (before : List UInt8) (chunks : List (List UInt8)) :
    writeAll ⟨none, before⟩ chunks =
      ⟨chunks.flatten.length, none, ⟨none, before ++ chunks.flatten⟩⟩ := by
  induction chunks generalizing before with
  | nil => simp [writeAll]
  | cons chunk rest ih => simp [writeAll, write, ih]

end Sink

/-! ## Programs -/

theorem flatten_visualizerChunks (s : Shader) :
    s.visualizerChunks.flatten = utf8 s.visualizerText := by
  simp [visualizerChunks, visualizerText]

theorem flatten_computeChunks (s : Shader) (workGroup : Nat) :
    (s.computeChunks workGroup).flatten = utf8 (s.computeText workGroup) := by
  unfold computeChunks computeText
  split <;> simp

/-- For every shader and every size of work groups, the writers account for every byte: without a
limit the whole program is written and counted, and a sink that takes so many bytes in all and then
fails has the first bytes of the program, as many as it takes, which are counted, with an error
exactly if the program is longer. The fragment program is written for one language, the compute
program for all. -/
theorem writers_account_for_bytes (s : Shader) (workGroup room : Nat) :
    (s.dialect = .glsl →
      s.writeVisualizer {} =
        ⟨(utf8 s.visualizerText).length, none, { bytes := utf8 s.visualizerText }⟩ ∧
      (s.writeVisualizer { room := some room }).Accounts [] room (utf8 s.visualizerText)) ∧
    s.writeCompute workGroup {} =
      ⟨(utf8 (s.computeText workGroup)).length, none,
        { bytes := utf8 (s.computeText workGroup) }⟩ ∧
    (s.writeCompute workGroup { room := some room }).Accounts [] room
      (utf8 (s.computeText workGroup)) := by
  have hunlimited : ∀ chunks, Sink.writeAll {} chunks =
      ⟨chunks.flatten.length, none, { bytes := chunks.flatten }⟩ := Sink.writeAll_unlimited []
  rw [← flatten_visualizerChunks, ← flatten_computeChunks]
  refine ⟨fun hglsl => ?_, hunlimited _, Sink.accounts_writeAll room [] _⟩
  have hchunks : ∀ sink, s.writeVisualizer sink = sink.writeAll s.visualizerChunks := fun _ =>
    if_neg (not_not.mpr hglsl)
  rw [hchunks, hchunks]
  exact ⟨hunlimited _, Sink.accounts_writeAll room [] _⟩

/-- A shader of a ball. -/
def ball : Shader where
  generation := 1
  dialect := .glsl
  mode := .inline
  nodes := []
  source := "float sdf(vec3 p) \x7b\n\treturn length(p)-1.0;\n\x7d\n"
  expression := "length(p)-1.0"
  uniforms := []

/-- The version line of the ball's fragment program fits into twenty bytes and its source does
not. -/
theorem writers_account_for_ball :
    ball.dialect = .glsl ∧
    (ball.writeVisualizer { room := some 20 }).Accounts [] 20 (utf8 ball.visualizerText) ∧
    (ball.writeCompute 32 { room := some 20 }).Accounts [] 20 (utf8 (ball.computeText 32)) :=
  ⟨rfl, ((writers_account_for_bytes ball 32 20).1 rfl).2,
    (writers_account_for_bytes ball 32 20).2.2⟩

end FieldGraph.Shader
