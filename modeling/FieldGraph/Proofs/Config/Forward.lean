import FieldGraph.Config.Body.Reader
import Mathlib.Data.List.Infix

/-!
# Reading goes forward

Whatever is read, and whatever problems are found on the way, the tokens left are a later part of
the tokens that were there. So what is read later was written later. The functions that read
expressions call each other, but always with less fuel: each of them goes forward if all of them do
with less.
-/

namespace FieldGraph.Config

namespace Token

/-! ## Finding tokens -/

theorem next_suffix (newlines : Bool) (tokens : List Token) :
    (next newlines tokens).2 <:+ tokens := by
  fun_induction next newlines tokens with
  | case1 => exact List.suffix_rfl
  | case2 => exact List.suffix_rfl
  | case3 t rest => exact List.suffix_cons t rest
  | case4 t rest _ _ _ ih => exact ih.trans (List.suffix_cons t rest)
  | case5 t rest => exact List.suffix_cons t rest

theorem opening_suffix (symbol : String) (tokens : List Token) :
    (opening symbol tokens).2 <:+ tokens := by
  fun_induction opening symbol tokens with
  | case1 => exact List.suffix_rfl
  | case2 => exact List.suffix_rfl
  | case3 t rest => exact List.suffix_cons t rest
  | case4 t rest _ _ ih => exact ih.trans (List.suffix_cons t rest)

theorem closing_suffix (b : Bracket) (depth : Nat) (tokens : List Token) :
    (closing b depth tokens).2 <:+ tokens := by
  fun_induction closing b depth tokens with
  | case1 => exact List.suffix_rfl
  | case2 => exact List.suffix_rfl
  | case3 _ t rest _ _ ih => exact ih.trans (List.suffix_cons t rest)
  | case4 t rest => exact List.suffix_cons t rest
  | case5 t rest _ _ _ _ ih => exact ih.trans (List.suffix_cons t rest)
  | case6 _ t rest _ _ _ ih => exact ih.trans (List.suffix_cons t rest)

theorem lineEnding_suffix (opened : List Bracket) (tokens : List Token) :
    (lineEnding opened tokens).2 <:+ tokens := by
  fun_induction lineEnding opened tokens with
  | case1 => exact List.suffix_rfl
  | case2 => exact List.suffix_rfl
  | case3 _ t rest => exact List.suffix_cons t rest
  | case4 _ t rest _ _ _ _ ih => exact ih.trans (List.suffix_cons t rest)
  | case5 _ t rest _ _ _ _ _ ih => exact ih.trans (List.suffix_cons t rest)
  | case6 _ t rest _ _ _ _ ih => exact ih.trans (List.suffix_cons t rest)

end Token

namespace Reading

variable {α β : Type}

/-- A step of reading that never goes back. -/
structure Forward (m : Reading α) : Prop where
  suffix : ∀ c, (m.run c).2.rest <:+ c.rest

namespace Forward

/-! ## Steps that go forward -/

theorem pure (a : α) : Forward (Pure.pure a) := ⟨fun _ => List.suffix_rfl⟩

theorem bind {m : Reading α} {f : α → Reading β} (hm : Forward m) (hf : ∀ a, Forward (f a)) :
    Forward (m >>= f) :=
  ⟨fun c => ((hf (m.run c).1).suffix (m.run c).2).trans (hm.suffix c)⟩

theorem ite {p : Prop} [Decidable p] {m m' : Reading α} (h : Forward m) (h' : Forward m') :
    Forward (if p then m else m') := by
  split
  · exact h
  · exact h'

theorem forIn {items : List α} {f : α → β → Reading (ForInStep β)}
    (hf : ∀ a b, Forward (f a b)) (start : β) : Forward (ForIn.forIn items start f) := by
  induction items generalizing start with
  | nil => exact .pure start
  | cons a rest ih =>
    rw [List.forIn_cons]
    refine .bind (hf a start) fun step => ?_
    cases step with
    | done b => exact .pure b
    | yield b => exact ih b

theorem get : Forward (MonadState.get : Reading Cursor) := ⟨fun _ => List.suffix_rfl⟩

theorem peek (newlines : Bool) : Forward (Reading.peek newlines) := ⟨fun _ => List.suffix_rfl⟩

theorem mark : Forward Reading.mark := ⟨fun _ => List.suffix_rfl⟩

theorem failedSince (start : Nat) : Forward (Reading.failedSince start) :=
  ⟨fun _ => List.suffix_rfl⟩

theorem lostSince (start : Nat) : Forward (Reading.lostSince start) := ⟨fun _ => List.suffix_rfl⟩

theorem lastSpan : Forward Reading.lastSpan := ⟨fun _ => List.suffix_rfl⟩

theorem report (problem : Problem) (span : Span) : Forward (Reading.report problem span) :=
  ⟨fun _ => List.suffix_rfl⟩

theorem reportFirst (problem : Problem) (span : Span) :
    Forward (Reading.reportFirst problem span) := by
  exact .bind .get fun c => .ite (.pure _) (.report problem span)

theorem reports (problems : List Diagnostic) :
    Forward (do for d in problems do Reading.report d.problem d.span) :=
  .forIn (fun d _ => .bind (.report (Diagnostic.problem d) d.span) fun _ => .pure _) _

theorem beginRecovery : Forward Reading.beginRecovery := ⟨fun _ => List.suffix_rfl⟩

theorem read (newlines : Bool) : Forward (Reading.read newlines) :=
  ⟨fun c => Token.next_suffix newlines c.rest⟩

theorem recover (b : Bracket) : Forward (Reading.recover b) :=
  ⟨fun c => Token.closing_suffix b 0 c.rest⟩

theorem recoverLine : Forward Reading.recoverLine := ⟨fun c => Token.lineEnding_suffix [] c.rest⟩

theorem recoverCall : Forward Reading.recoverCall :=
  .bind ⟨fun c => Token.opening_suffix "(" c.rest⟩ fun _ => .bind (.recover .round) fun _ => .pure _

end Forward

end Reading

namespace Expr

open Reading

/-! ## Parts of expressions -/

theorem forward_numberOf (t : Token) : Forward (numberOf t) := by
  rw [numberOf]
  split
  · exact .pure _
  · exact .bind (.report _ _) fun _ => .pure _

theorem forward_pointedKey (inSplat : Bool) (t : Token) (place : Span) :
    Forward (pointedKey inSplat t place) :=
  .ite (.bind (.report _ _) fun _ => .pure _) (.bind (forward_numberOf t) fun _ => .pure _)

namespace Loop

theorem forward_requires (loop : Loop) (what : String) : Forward (loop.requires what) :=
  .bind (.peek false) fun _ => .reportFirst _ _

theorem forward_itemName (loop : Loop) (what : String) : Forward (loop.itemName what) :=
  .bind (.peek false) fun _ =>
    .ite (.bind (.read false) fun _ => .pure _)
      (.bind (forward_requires loop what) fun _ => .pure _)

theorem forward_itemNames (loop : Loop) : Forward loop.itemNames := by
  refine .bind (forward_itemName loop _) fun first => ?_
  cases first with
  | none => exact .pure _
  | some first =>
    refine .bind (.peek false) fun comma => ?_
    extract_lets close
    have hclose : ∀ names, Forward (close names) := by
      intro names
      cases names with
      | none => exact .pure _
      | some names =>
        exact .bind (.peek false) fun word => .ite (.bind (.read false) fun _ => .pure _)
          (.bind (forward_requires loop _) fun _ => .pure _)
    exact .ite (.bind (.read false) fun _ => .bind (forward_itemName loop _) fun _ =>
      .bind (.pure _) hclose) (.bind (.pure _) hclose)

end Loop

theorem forward_callHead (newlines : Bool) (fuel : Nat) (name : Span) (opening : Token) :
    Forward (callHead newlines fuel name opening) := by
  fun_induction callHead newlines fuel name opening with
  | case1 => exact .pure _
  | case2 fuel name opening _ ih =>
    refine .bind (.read newlines) fun next => .ite ?_ ?_
    · exact .bind (.read newlines) fun opening => ih next opening
    · exact .bind (.report _ _) fun _ => .bind .recoverCall fun _ => .pure _
  | case3 => exact .pure _
  | case4 => exact .bind (.report _ _) fun _ => .bind .recoverCall fun _ => .pure _

theorem forward_pointSteps (newlines : Bool) (star : Span) (fuel : Nat) (steps : List Step) :
    Forward (pointSteps newlines star fuel steps) := by
  induction fuel generalizing steps with
  | zero => exact .pure _
  | succ fuel ih =>
    rw [pointSteps]
    refine .bind (.peek newlines) fun point => .ite ?_ (.pure _)
    refine .bind (.read newlines) fun _ => .bind (.peek newlines) fun t => ?_
    split
    · exact .bind (.read newlines) fun _ => .bind (forward_pointedKey true t star) fun _ => ih _
    · exact .bind (.read newlines) fun _ => ih _
    · exact .ite (.bind (.reportFirst _ _) fun _ => .bind .beginRecovery fun _ => .pure _)
        (.bind (.reportFirst _ _) fun _ => .bind .beginRecovery fun _ => .pure _)

/-! ## Expressions -/

/-- All functions that read expressions go forward if they have so much fuel. -/
structure ForwardAt (fuel : Nat) : Prop where
  any : ∀ newlines, Forward (readAny fuel newlines)
  level : ∀ newlines levels, Forward (readLevel fuel newlines levels)
  operations : ∀ newlines ops tighter left,
    Forward (readOperations fuel newlines ops tighter left)
  steps : ∀ newlines term, Forward (readSteps fuel newlines term)
  term : ∀ newlines, Forward (readTerm fuel newlines)
  arguments : ∀ head, Forward (readArguments fuel head)
  items : ∀ opening items, Forward (readItems fuel opening items)
  entries : ∀ opening entries, Forward (readEntries fuel opening entries)
  comprehension : ∀ opening, Forward (readComprehension fuel opening)
  string : ∀ newlines bracket flush opening,
    Forward (readString fuel newlines bracket flush opening)
  parts : ∀ newlines bracket first trim parts,
    Forward (readParts fuel newlines bracket first trim parts)
  directive : ∀ opening, Forward (readDirective fuel opening)

namespace ForwardAt

variable {fuel : Nat}

theorem readAny_succ (h : ForwardAt fuel) (newlines : Bool) :
    Forward (readAny (fuel + 1) newlines) := by
  rw [readAny]
  refine .bind .mark fun start => .bind (.peek newlines) fun first => ?_
  refine .bind (h.level newlines _) fun condition => .bind (.lostSince start) fun _ =>
    .ite (.pure _) ?_
  refine .bind (.peek newlines) fun question => .ite ?_ (.pure _)
  refine .bind (.read newlines) fun _ => .bind (h.any newlines) fun whenTrue =>
    .bind (.lostSince start) fun _ => .ite (.pure _) ?_
  refine .bind (.peek newlines) fun colon => .ite ?_ (.bind (.report _ _) fun _ => .pure _)
  exact .bind (.read newlines) fun _ => .bind (h.any newlines) fun whenFalse => .pure _

theorem readLevel_succ (h : ForwardAt fuel) (newlines : Bool) (levels : List (List BinaryOp)) :
    Forward (readLevel (fuel + 1) newlines levels) := by
  cases levels with
  | nil =>
    rw [readLevel]
    exact .bind (h.term newlines) fun term => h.steps newlines term
  | cons ops tighter =>
    rw [readLevel]
    exact .bind .mark fun start => .bind (h.level newlines tighter) fun left =>
      .bind (.lostSince start) fun _ => .ite (.pure _) (h.operations newlines ops tighter left)

theorem readOperations_succ (h : ForwardAt fuel) (newlines : Bool) (ops : List BinaryOp)
    (tighter : List (List BinaryOp)) (left : Expr) :
    Forward (readOperations (fuel + 1) newlines ops tighter left) := by
  rw [readOperations]
  refine .bind (.peek newlines) fun t => ?_
  split
  · exact .pure _
  · exact .bind .mark fun start => .bind (.read newlines) fun _ =>
      .bind (h.level newlines tighter) fun right => .bind (.lostSince start) fun _ =>
        .ite (.pure _) (h.operations newlines ops tighter _)

theorem readSteps_succ (h : ForwardAt fuel) (newlines : Bool) (term : Expr) :
    Forward (readSteps (fuel + 1) newlines term) := by
  rw [readSteps]
  refine .bind (.peek newlines) fun t => .ite ?_ (.ite ?_ (.pure _))
  · refine .bind (.read newlines) fun _ => .bind (.peek newlines) fun name => ?_
    extract_lets place
    split
    · exact .bind (.read newlines) fun _ => h.steps newlines _
    · exact .bind (.read newlines) fun _ => .bind (forward_pointedKey false name _) fun _ =>
        h.steps newlines _
    · refine .bind (.read newlines) fun _ => .bind (forward_pointSteps newlines _ fuel []) ?_
      intro steps
      cases steps with
      | none => exact h.steps newlines _
      | some steps => exact h.steps newlines _
    · exact .bind (.report _ _) fun _ => .bind .beginRecovery fun _ => h.steps newlines _
  · refine .bind (.read newlines) fun _ => .bind (.peek newlines) fun star => .ite ?_ ?_
    · refine .bind (.read newlines) fun _ => .bind (.read newlines) fun close => ?_
      extract_lets after
      have hafter : ∀ close, Forward (after close) := fun close =>
        .bind (h.steps newlines _) fun each => h.steps newlines _
      exact .bind .get fun _ => .ite (.bind (.pure _) hafter)
        (.bind (.report _ _) fun _ => .bind (.recover .square) hafter)
    · refine .bind .mark fun start => .bind (h.any false) fun key => ?_
      extract_lets after
      have hafter : ∀ close, Forward (after close) := fun close => h.steps newlines _
      refine .bind (.lostSince start) fun _ => .ite (.bind (.recover .square) hafter) ?_
      exact .bind (.read false) fun close => .bind .get fun _ => .ite (.bind (.pure _) hafter)
        (.bind (.report _ _) fun _ => .bind (.recover .square) hafter)

theorem readTerm_succ (h : ForwardAt fuel) (newlines : Bool) :
    Forward (readTerm (fuel + 1) newlines) := by
  rw [readTerm]
  refine .bind (.peek newlines) fun t => ?_
  split
  · refine .bind (.read newlines) fun _ => .bind .mark fun start => .bind (h.any false) fun inner =>
      .bind (.failedSince start) fun _ => .ite (.bind (.recover .round) fun _ => .pure _) ?_
    refine .bind (.peek false) fun close => ?_
    extract_lets after
    have hafter : ∀ u, Forward (after u) := fun _ => .bind (.read false) fun _ => .pure _
    exact .ite (hafter ()) (.bind (.report _ _) fun _ => .bind .beginRecovery hafter)
  · exact .bind (.read newlines) fun _ => forward_numberOf t
  · refine .bind (.read newlines) fun _ => .bind (.peek newlines) fun after => .ite ?_ ?_
    · refine .bind (.read newlines) fun opening =>
        .bind (forward_callHead newlines fuel t.span opening) fun head => ?_
      cases head with
      | none => exact .pure _
      | some head => exact .bind (h.arguments head) fun _ => .pure _
    · split <;> exact .pure _
  · exact .bind (.read newlines) fun _ => h.string newlines _ _ _
  · exact .bind (.read newlines) fun _ => h.string newlines _ _ _
  · exact .bind (.read newlines) fun _ => .bind (h.level newlines []) fun _ => .pure _
  · exact .bind (.read newlines) fun _ => .bind (h.level newlines []) fun _ => .pure _
  · exact .bind (.read newlines) fun _ => .bind (.peek false) fun word =>
      .ite (h.comprehension t) (.bind (h.items t []) fun _ => .pure _)
  · exact .bind (.read newlines) fun _ => .bind (.peek false) fun word =>
      .ite (h.comprehension t) (.bind (h.entries t []) fun _ => .pure _)
  · exact .bind (.reportFirst _ _) fun _ => .bind .beginRecovery fun _ => .pure _

theorem readArguments_succ (h : ForwardAt fuel) (head : Span) :
    Forward (readArguments (fuel + 1) head) := by
  rw [readArguments]
  refine .bind (.peek false) fun t => .ite (.read false) ?_
  refine .bind .mark fun start => .bind (h.any false) fun _ => .bind (.lostSince start) fun _ =>
    .ite (.recover .round) (.bind (.read false) fun separator => ?_)
  split
  · exact .pure _
  · exact h.arguments head
  · exact .bind (.peek false) fun close => .ite (.read false)
      (.bind (.reportFirst _ _) fun _ => .recover .round)
  · exact .bind (.report _ _) fun _ => .recover .round
  · exact .bind (.report _ _) fun _ => .recover .round

theorem readItems_succ (h : ForwardAt fuel) (opening : Token) (items : List Expr) :
    Forward (readItems (fuel + 1) opening items) := by
  rw [readItems]
  refine .bind (.peek false) fun t => .ite (.bind (.read false) fun _ => .pure _) ?_
  refine .bind .mark fun start => .bind (h.any false) fun item => ?_
  refine .bind (.lostSince start) fun _ => .ite (.bind (.recover .square) fun _ => .pure _) ?_
  refine .bind (.peek false) fun t => ?_
  split
  · exact .bind (.read false) fun _ => .pure _
  · exact .bind (.read false) fun _ => h.items opening _
  · exact .bind (.reportFirst _ _) fun _ => .bind (.recover .square) fun _ => .pure _
  · exact .bind (.reportFirst _ _) fun _ => .bind (.recover .square) fun _ => .pure _

theorem readEntries_succ (h : ForwardAt fuel) (opening : Token) (entries : List (Expr × Expr)) :
    Forward (readEntries (fuel + 1) opening entries) := by
  have hstop : ∀ entries : List (Expr × Expr),
      Forward (do return (entries, ← Reading.recover .brace)) := fun _ =>
    .bind (.recover .brace) fun _ => .pure _
  rw [readEntries]
  refine .bind (.peek true) fun t => .ite (.bind (.read true) fun _ => h.entries opening entries) ?_
  refine .ite (.bind (.read true) fun _ => .pure _) ?_
  refine .bind .mark fun start => .bind (h.any true) fun key => .bind (.lostSince start) fun _ =>
    .ite (hstop _) ?_
  refine .bind (.peek true) fun sign => .ite ?_ ?_
  · refine .bind (.read true) fun _ => .bind (h.any true) fun value =>
      .bind (.lostSince start) fun _ => .ite (hstop _) ?_
    refine .bind (.peek true) fun separator => ?_
    split
    · exact .bind (.read true) fun _ => .pure _
    · exact .bind (.read true) fun _ => h.entries opening _
    · exact .bind (.read true) fun _ => h.entries opening _
    · exact .bind (.reportFirst _ _) fun _ => hstop _
    · exact .bind (.reportFirst _ _) fun _ => hstop _
  · split <;> exact .bind (.reportFirst _ _) fun _ => hstop _

theorem readComprehension_succ (h : ForwardAt fuel) (opening : Token) :
    Forward (readComprehension (fuel + 1) opening) := by
  have hstop : ∀ b, Forward (do
      let close ← Reading.recover b
      return missing (opening.span.cover close.span)) := fun b =>
    .bind (.recover b) fun _ => .pure _
  rw [readComprehension]
  refine .bind .mark fun start => .bind (.read false) fun _ =>
    .bind (Loop.forward_itemNames _) fun names => ?_
  cases names with
  | none => exact hstop _
  | some names =>
    refine .bind (h.any false) fun collection => .bind (.lostSince start) fun _ =>
      .ite (hstop _) ?_
    refine .bind (.peek false) fun _ =>
      .ite ?_ (.bind (Loop.forward_requires _ _) fun _ => hstop _)
    refine .bind (.read false) fun _ => .bind (h.any false) fun first => ?_
    -- What follows an optional part is one continuation for both cases.
    extract_lets second
    have hsecond : ∀ value, Forward (second value) := by
      intro value
      refine .bind (.lostSince start) fun _ => .ite (hstop _) (.bind (.peek false) fun dots => ?_)
      extract_lets grouped closed filtered
      have hclosed : ∀ filter, Forward (closed filter) := by
        intro filter
        refine .bind (.lostSince start) fun _ => .ite (hstop _) (.bind (.peek false) fun _ => ?_)
        extract_lets built
        have hbuilt : ∀ close, Forward (built close) := by
          intro close
          dsimp only [built]
          split
          · exact .ite
              (.bind (.report _ _) fun _ => .ite (.bind (.report _ _) fun _ => .pure _) (.pure _))
              (.ite (.bind (.report _ _) fun _ => .pure _) (.pure _))
          · exact .bind (.report _ _) fun _ => .pure _
          · exact .pure _
        exact .ite (.bind (.read false) hbuilt) (.bind (.peek false) fun _ =>
          .bind (.reportFirst _ _) fun _ => .bind (.recover _) hbuilt)
      have hfiltered : Forward (filtered ()) := .bind (.peek false) fun _ => .ite
        (.bind (.read false) fun _ => .bind (h.any false) hclosed) (.bind (.pure _) hclosed)
      exact .ite (.bind (.read false) fun _ => hfiltered) hfiltered
    exact .bind (.peek false) fun _ => .ite
      (.bind (.read false) fun _ => .bind (h.any false) fun _ => .bind (.pure _) hsecond)
      (.bind (.pure _) hsecond)

theorem readString_succ (h : ForwardAt fuel) (newlines : Bool) (bracket : Bracket) (flush : Bool)
    (opening : Span) : Forward (readString (fuel + 1) newlines bracket flush opening) := by
  rw [readString]
  exact .bind (.peek newlines) fun _ => .bind (h.parts newlines bracket _ false []) fun _ =>
    .bind .lastSpan fun _ => .bind (.reports _) fun _ => .pure _

theorem readParts_succ (h : ForwardAt fuel) (newlines : Bool) (bracket : Bracket) (first : Span)
    (trim : Bool) (parts : List Part) :
    Forward (readParts (fuel + 1) newlines bracket first trim parts) := by
  have hskip : ∀ parts, Forward (do
      let _ ← Reading.recover .hole
      readParts fuel newlines bracket first false parts) := fun parts =>
    .bind (.recover .hole) fun _ => h.parts newlines bracket first false parts
  rw [readParts]
  refine .bind (.read newlines) fun t => .ite (.pure _) ?_
  split
  · exact .bind (.reports _) fun _ => h.parts newlines bracket first false _
  · exact .bind (.reports _) fun _ => h.parts newlines bracket first false _
  · extract_lets kept
    refine .bind (h.any false) fun inner => .bind (.peek false) fun close => ?_
    extract_lets part resume
    have hresume : ∀ u, Forward (resume u) := fun _ => hskip _
    split
    · exact .bind (.read false) fun _ => h.parts newlines bracket first _ _
    · split
      · exact .bind (.reportFirst _ _) hresume
      · exact .bind (.reportFirst _ _) hresume
      · exact .ite (.bind (.reportFirst _ _) hresume) (.bind (.reportFirst _ _) hresume)
      · exact .ite (.bind (.reportFirst _ _) hresume) (.bind (.reportFirst _ _) hresume)
      · exact .bind (.reportFirst _ _) hresume
  · refine .bind (.peek false) fun word => .bind (h.directive t.span) fun part => ?_
    cases part with
    | none => exact hskip _
    | some part =>
      refine .bind (.peek false) fun close => ?_
      split
      · exact .bind (.read false) fun _ => h.parts newlines bracket first _ _
      · exact .bind (.reportFirst _ _) fun _ => hskip _
  · exact .bind (.reportFirst _ _) fun _ => .bind (.recover bracket) fun _ => .pure _

theorem readDirective_succ (h : ForwardAt fuel) (opening : Span) :
    Forward (readDirective (fuel + 1) opening) := by
  rw [readDirective]
  refine .bind (.peek false) fun word => .ite (.bind (.reportFirst _ _) fun _ => .pure _) ?_
  refine .bind (.read false) fun _ => ?_
  extract_lets toNext
  have htoNext : Forward toNext := .bind (.peek false) fun _ => .pure _
  split
  · exact .bind htoNext fun _ => .pure _
  · exact .bind (h.any false) fun _ => .bind htoNext fun _ => .pure _
  · refine .bind (Loop.forward_itemNames _) fun names => ?_
    cases names with
    | none => exact .pure _
    | some names => exact .bind (h.any false) fun _ => .bind htoNext fun _ => .pure _
  · exact .bind (.reportFirst _ _) fun _ => .pure _

end ForwardAt

theorem forwardAt (fuel : Nat) : ForwardAt fuel := by
  induction fuel with
  | zero =>
    constructor
    case level =>
      intro newlines levels
      cases levels <;> exact .pure _
    all_goals intros; exact .pure _
  | succ fuel ih =>
    exact {
      any := ih.readAny_succ
      level := ih.readLevel_succ
      operations := ih.readOperations_succ
      steps := ih.readSteps_succ
      term := ih.readTerm_succ
      arguments := ih.readArguments_succ
      items := ih.readItems_succ
      entries := ih.readEntries_succ
      comprehension := ih.readComprehension_succ
      string := ih.readString_succ
      parts := ih.readParts_succ
      directive := ih.readDirective_succ }

theorem forward_read : Forward Expr.read :=
  .bind .get fun _ => (forwardAt _).any true

end Expr

end FieldGraph.Config
