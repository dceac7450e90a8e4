import FieldGraph.Proofs.Config.Forward
import Mathlib.Data.List.Nodup

/-!
# Bodies in the order of their text

The tokens of a text follow one another, and reading goes forward. So the arguments and blocks of
a body, at any depth, are listed in the order in which they are written, and no two arguments of
a body have the same name.
-/

namespace FieldGraph.Config

/-! ## Places of tokens -/

theorem byteCount_pos {text : List Char} (h : text ≠ []) : 0 < byteCount text := by
  have hge : ∀ (text : List Char) (n : Nat), n ≤ text.foldl (fun n c => n + c.utf8Size) n := by
    intro text
    induction text with
    | nil => exact fun n => Nat.le_refl n
    | cons c rest ih => exact fun n => (Nat.le_add_right n _).trans (ih _)
  cases text with
  | nil => exact absurd rfl h
  | cons c rest =>
    have hc : 0 < 0 + c.utf8Size := by
      rw [Nat.zero_add]
      exact c.utf8Size_pos
    exact hc.trans_le (hge rest _)

namespace Token

/-- Tokens as they stand in a text: one after the other, words not empty, with the end at the
end. -/
structure Laid (tokens : List Token) : Prop where
  apart : tokens.Pairwise fun t u => t.span.stop.byte ≤ u.span.start.byte
  wide : ∀ t ∈ tokens, t.kind = .word → t.span.start.byte < t.span.stop.byte
  ended : ∀ t, tokens.getLast? = some t → t.kind = .finish

/-- A later part of a text is laid out like the text. -/
theorem Laid.suffix {tokens rest : List Token} (h : Laid tokens) (hrest : rest <:+ tokens) :
    Laid rest := by
  refine ⟨h.apart.sublist hrest.sublist, fun t ht => h.wide t (hrest.subset ht), fun t ht => ?_⟩
  obtain ⟨earlier, rfl⟩ := hrest
  exact h.ended t (by rw [List.getLast?_append, ht, Option.some_or])

/-- A piece is not an empty word. -/
def Piece.Wide (p : Piece) : Prop := p.kind = some .word → 0 < p.length

/-- In ordinary text a word has its first character. -/
theorem wide_plainPiece (braces : Nat) (outer : List Mode) (text : List Char) :
    (plainPiece braces outer text).Wide := by
  rw [plainPiece.eq_def]
  dsimp only
  split
  case h_6 => split <;> nofun
  case h_8 =>
    split
    · nofun
    split
    · nofun
    split
    · nofun
    split
    · exact fun _ => Nat.add_pos_left Nat.one_pos _
    split
    · nofun
    split
    · nofun
    split
    · nofun
    · split <;> nofun
  all_goals nofun

theorem wide_hole {text : List Char} {kind : TokenKind} {length : Nat}
    (h : hole? text = some (kind, length)) (modes : List Mode) :
    Piece.Wide ⟨some kind, length, modes⟩ := by
  rw [hole?.eq_def] at h
  split at h <;> cases h <;> nofun

theorem wide_quotedPiece (outer : List Mode) (text : List Char) :
    (quotedPiece outer text).Wide := by
  rw [quotedPiece.eq_def]
  dsimp only
  split
  · nofun
  split
  · nofun
  split
  case h_1 kind length h => exact wide_hole h _
  case h_2 => split <;> nofun

theorem wide_blockPiece (marker : List Char) (lineStart : Bool) (outer : List Mode)
    (text : List Char) : (blockPiece marker lineStart outer text).Wide := by
  rw [blockPiece]
  dsimp only
  split
  case h_1 kind length h => exact wide_hole h _
  case h_2 =>
    split
    · nofun
    · split <;> nofun

theorem wide_piece (modes : List Mode) (text : List Char) : (piece modes text).Wide := by
  rw [piece.eq_def]
  split
  · exact wide_plainPiece 0 [] text
  · exact wide_plainPiece _ _ text
  · exact wide_quotedPiece _ text
  · exact wide_blockPiece _ _ _ text

/-- Tokens cut from a position on stand behind it. -/
theorem le_of_mem_listFrom {modes : List Mode} {place : Position} {skip : Nat} {text : List Char} :
    ∀ t ∈ listFrom modes place skip text, place.byte ≤ t.span.start.byte := by
  fun_induction listFrom modes place skip text with
  | case1 => simp
  | case2 _ _ _ _ _ ih => exact ih
  | case3 modes place c rest next text later kind hkind ih =>
    have hlater : place.byte ≤ later.byte := Nat.le_add_right _ _
    exact List.forall_mem_cons.mpr ⟨Nat.le_refl _, fun t ht => hlater.trans (ih t ht)⟩
  | case4 modes place c rest next text later hkind ih =>
    have hlater : place.byte ≤ later.byte := Nat.le_add_right _ _
    exact fun t ht => hlater.trans (ih t ht)

theorem listFrom_ne_nil (modes : List Mode) (place : Position) (skip : Nat) (text : List Char) :
    listFrom modes place skip text ≠ [] := by
  fun_induction listFrom modes place skip text with
  | case1 => exact List.cons_ne_nil _ _
  | case2 _ _ _ _ _ ih => exact ih
  | case3 => exact List.cons_ne_nil _ _
  | case4 _ _ _ _ _ _ _ _ ih => exact ih

/-- Each token that is cut starts where the one before ended, or later. -/
theorem laid_listFrom (modes : List Mode) (place : Position) (skip : Nat) (text : List Char) :
    Laid (listFrom modes place skip text) := by
  fun_induction listFrom modes place skip text with
  | case1 => exact ⟨List.pairwise_singleton .., by simp, by simp⟩
  | case2 _ _ _ _ _ ih => exact ih
  | case3 modes place c rest next text later kind hkind ih =>
    refine ⟨List.pairwise_cons.mpr ⟨le_of_mem_listFrom, ih.apart⟩,
      List.forall_mem_cons.mpr ⟨fun hword => ?_, ih.wide⟩, fun t ht => ih.ended t ?_⟩
    · have hlength : 0 < next.length := wide_piece modes (c :: rest) (hkind.trans (hword ▸ rfl))
      have htext : text ≠ [] := List.take_eq_nil_iff.not.mpr (by simp [hlength.ne'])
      exact Nat.lt_add_of_pos_right (byteCount_pos htext)
    · rwa [List.getLast?_cons_of_ne_nil (listFrom_ne_nil _ _ _ _)] at ht
  | case4 _ _ _ _ _ _ _ _ ih => exact ih

theorem laid_list (source : String) : Laid (list source) := by
  rw [list]
  split <;> exact laid_listFrom _ _ _ _

/-- A word that is found is passed, up to what stands behind it. -/
theorem next_suffix_of_word {newlines : Bool} {tokens : List Token} (h : Laid tokens)
    (hword : (next newlines tokens).1.kind = .word) :
    (next newlines tokens).1 :: (next newlines tokens).2 <:+ tokens := by
  fun_induction next newlines tokens with
  | case1 => cases hword
  | case2 t => cases (h.ended t rfl).symm.trans hword
  | case3 => cases hword
  | case4 t rest _ _ _ ih =>
    have hrest := List.suffix_cons t rest
    exact (ih (h.suffix hrest) hword).trans hrest
  | case5 => exact List.suffix_rfl

end Token

/-! ## What is read from tokens -/

namespace Reading

variable {α β : Type}

/-- From tokens, a step of reading leads to a value that fits and to a later part of them. -/
structure Reads (m : Reading α) (tokens : List Token) (fit : α → Prop) : Prop where
  suffix : ∀ c, c.rest = tokens → (m.run c).2.rest <:+ tokens
  fits : ∀ c, c.rest = tokens → fit (m.run c).1

namespace Reads

variable {tokens : List Token} {fit : β → Prop}

theorem pure {b : β} (h : fit b) : Reads (Pure.pure b) tokens fit :=
  ⟨fun _ hc => hc ▸ List.suffix_rfl, fun _ _ => h⟩

/-- What follows a step starts at a later token and knows what the step read. -/
theorem bind {m : Reading α} {f : α → Reading β} {mid : α → Prop} (hm : Reads m tokens mid)
    (hf : ∀ a rest, rest <:+ tokens → mid a → Reads (f a) rest fit) :
    Reads (m >>= f) tokens fit := by
  have hnext : ∀ c, c.rest = tokens → Reads (f (m.run c).1) (m.run c).2.rest fit :=
    fun c hc => hf _ _ (hm.suffix c hc) (hm.fits c hc)
  exact ⟨fun c hc => ((hnext c hc).suffix _ rfl).trans (hm.suffix c hc),
    fun c hc => (hnext c hc).fits _ rfl⟩

/-- A step whose value does not matter. -/
theorem skip {m : Reading α} {f : α → Reading β} (hm : Forward m)
    (hf : ∀ a rest, rest <:+ tokens → Reads (f a) rest fit) : Reads (m >>= f) tokens fit := by
  have htrue : Reads m tokens fun _ => True := ⟨fun c hc => hc ▸ hm.suffix c, fun _ _ => trivial⟩
  exact htrue.bind fun a rest hrest _ => hf a rest hrest

theorem peek {newlines : Bool} {f : Token → Reading β}
    (hf : Reads (f (Token.next newlines tokens).1) tokens fit) :
    Reads (Reading.peek newlines >>= f) tokens fit := by
  refine ⟨fun c hc => ?_, fun c hc => ?_⟩
  · subst hc
    exact hf.suffix c rfl
  · subst hc
    exact hf.fits c rfl

theorem read {newlines : Bool} {f : Token → Reading β}
    (hf : Reads (f (Token.next newlines tokens).1) (Token.next newlines tokens).2 fit) :
    Reads (Reading.read newlines >>= f) tokens fit := by
  refine ⟨fun c hc => ?_, fun c hc => ?_⟩
  · subst hc
    exact (hf.suffix _ rfl).trans (Token.next_suffix newlines c.rest)
  · subst hc
    exact hf.fits _ rfl

theorem ite {p : Prop} [Decidable p] {m m' : Reading β} (h : p → Reads m tokens fit)
    (h' : ¬p → Reads m' tokens fit) : Reads (if p then m else m') tokens fit := by
  split
  case isTrue hp => exact h hp
  case isFalse hp => exact h' hp

end Reads

end Reading

/-! ## Order -/

/-- Items in the order of their places, all of them before the tokens. -/
structure Listed {α : Type} (place : α → Nat) (items : List α) (tokens : List Token) : Prop where
  ascending : items.Pairwise fun a b => place a < place b
  before : ∀ a ∈ items, ∀ t ∈ tokens, place a < t.span.start.byte

namespace Listed

variable {α : Type} {place : α → Nat} {items : List α} {tokens rest : List Token}

theorem nil : Listed place [] tokens := ⟨.nil, nofun⟩

theorem mono (h : Listed place items tokens) (hrest : rest <:+ tokens) :
    Listed place items rest :=
  ⟨h.ascending, fun a ha t ht => h.before a ha t (hrest.subset ht)⟩

/-- An item that starts with a word comes after the items before the word. -/
theorem concat (h : Listed place items tokens) (hlaid : Token.Laid tokens) {word : Token}
    (hword : word.kind = .word) (hrest : word :: rest <:+ tokens) {a : α}
    (ha : place a = word.span.start.byte) : Listed place (items ++ [a]) rest := by
  have hlaid' := hlaid.suffix hrest
  have hpassed : ∀ t ∈ rest, word.span.start.byte < t.span.start.byte := by
    intro t ht
    have hwide := hlaid'.wide word List.mem_cons_self hword
    exact hwide.trans_le (List.rel_of_pairwise_cons hlaid'.apart ht)
  constructor
  · refine List.pairwise_append.mpr ⟨h.ascending, List.pairwise_singleton _ _, ?_⟩
    intro b hb c hc
    rw [List.mem_singleton.mp hc, ha]
    exact h.before b hb word (hrest.subset List.mem_cons_self)
  · intro b hb t ht
    rcases List.mem_append.mp hb with hb | hb
    · exact h.before b hb t (hrest.subset (List.mem_cons_of_mem _ ht))
    · rw [List.mem_singleton.mp hb, ha]
      exact hpassed t ht

end Listed

/-- Arguments with different names and blocks, both in the order of the text, and the same inside
of the blocks. -/
inductive InOrder : List Argument → List Block → Prop
  | intro {arguments : List Argument} {blocks : List Block}
      (arguments_ascend : arguments.Pairwise fun a b => a.span.start.byte < b.span.start.byte)
      (names : (arguments.map (·.name)).Nodup)
      (blocks_ascend : blocks.Pairwise fun a b => a.typeSpan.start.byte < b.typeSpan.start.byte)
      (inner : ∀ b ∈ blocks, InOrder b.arguments b.blocks) : InOrder arguments blocks

namespace Body

open Reading

/-- What was read of a body before the tokens that are left. -/
structure Before (body : Body) (tokens : List Token) : Prop where
  laid : Token.Laid tokens
  arguments : Listed (·.span.start.byte) body.arguments tokens
  names : (body.arguments.map (·.name)).Nodup
  blocks : Listed (·.typeSpan.start.byte) body.blocks tokens
  inner : ∀ b ∈ body.blocks, InOrder b.arguments b.blocks

namespace Before

variable {body : Body} {tokens rest : List Token}

theorem empty (h : Token.Laid tokens) : Before {} tokens := ⟨h, .nil, .nil, .nil, nofun⟩

theorem inOrder (h : body.Before tokens) : InOrder body.arguments body.blocks :=
  .intro h.arguments.ascending h.names h.blocks.ascending h.inner

theorem mono (h : body.Before tokens) (hrest : rest <:+ tokens) : body.Before rest :=
  ⟨h.laid.suffix hrest, h.arguments.mono hrest, h.names, h.blocks.mono hrest, h.inner⟩

/-- An argument with a new name can be added after its name was passed. -/
theorem addArgument (h : body.Before tokens) {word : Token} (hword : word.kind = .word)
    (hrest : word :: rest <:+ tokens) {a : Argument} (ha : a.span.start = word.span.start)
    (hnew : body.arguments.find? (·.name == a.name) = none) :
    Before { body with arguments := body.arguments ++ [a] } rest := by
  have hfresh : a.name ∉ body.arguments.map (·.name) := by
    intro hmem
    obtain ⟨b, hb, hname⟩ := List.mem_map.mp hmem
    exact List.find?_eq_none.mp hnew b hb (beq_iff_eq.mpr hname)
  have hafter : rest <:+ tokens := (List.suffix_cons _ _).trans hrest
  refine ⟨h.laid.suffix hafter, h.arguments.concat h.laid hword hrest (congrArg _ ha), ?_,
    h.blocks.mono hafter, h.inner⟩
  rw [List.map_append, List.map_singleton]
  exact List.nodup_append'.mpr
    ⟨h.names, List.nodup_singleton _, List.disjoint_singleton.mpr hfresh⟩

/-- A block can be added after its type was passed. -/
theorem addBlock (h : body.Before tokens) {word : Token} (hword : word.kind = .word)
    (hrest : word :: rest <:+ tokens) {b : Block} (hb : b.typeSpan = word.span)
    (hinner : InOrder b.arguments b.blocks) :
    Before { body with blocks := body.blocks ++ [b] } rest := by
  have hafter : rest <:+ tokens := (List.suffix_cons _ _).trans hrest
  refine ⟨h.laid.suffix hafter, h.arguments.mono hafter, h.names,
    h.blocks.concat h.laid hword hrest (by rw [hb]), ?_⟩
  intro b' hb'
  rcases List.mem_append.mp hb' with hb' | hb'
  · exact h.inner b' hb'
  · rw [List.mem_singleton.mp hb']
    exact hinner

end Before

/-! ## Reading bodies -/

theorem forward_readLabelText (fuel : Nat) (text : String) : Forward (readLabelText fuel text) := by
  induction fuel generalizing text with
  | zero => exact .pure _
  | succ fuel ih =>
    rw [readLabelText]
    refine .bind (.read true) fun t => ?_
    split
    · exact .pure _
    · exact .bind (.reports _) fun _ => ih _
    · exact .bind (.report _ _) fun _ => .bind (.recover .hole) fun _ => ih text
    · exact .bind (.report _ _) fun _ => .bind (.recover .hole) fun _ => ih text
    · exact .bind (.report _ _) fun _ => .pure _
    · exact .bind (.report _ _) fun _ => .bind (.recover .quote) fun _ => .pure _

theorem forward_readLabels (fuel : Nat) (labels : List Label) :
    Forward (readLabels fuel labels) := by
  induction fuel generalizing labels with
  | zero => exact .pure _
  | succ fuel ih =>
    rw [readLabels]
    refine .bind (.peek true) fun t => ?_
    split
    · exact .bind (.read true) fun _ => .pure _
    · exact .bind (.read true) fun _ => .bind (forward_readLabelText fuel "") fun _ =>
        .bind .lastSpan fun _ => ih _
    · exact .bind (.read true) fun _ => ih _
    · extract_lets stop
      have hstop : ∀ u, Forward (stop u) := fun _ => .bind .recoverLine fun _ => .pure _
      split
      · exact .bind (.report _ _) hstop
      · exact .bind (.report _ _) hstop
      · exact .bind (.reportFirst _ _) hstop

/-- An argument starts with its name. -/
theorem reads_readArgument (inLine : Bool) (name : Token) (tokens : List Token) :
    Reads (readArgument inLine name) tokens fun a => a.span.start = name.span.start := by
  rw [readArgument]
  refine .skip (.read true) fun _ _ _ => .skip .mark fun start _ _ =>
    .skip Expr.forward_read fun expr _ _ => .skip .lastSpan fun last _ _ => ?_
  extract_lets span done
  have hdone : ∀ u rest, Reads (done u) rest fun a => a.span.start = name.span.start :=
    fun _ _ => .pure rfl
  refine .skip (.lostSince start) fun _ _ _ => .ite ?_ fun _ => .ite (fun _ => hdone () _) ?_
  · exact fun _ => .skip .recoverLine fun u rest _ => hdone u rest
  · intro _
    refine .skip (.peek true) fun t _ _ => .ite ?_ ?_
    · exact fun _ => .skip (.read true) fun _ rest _ => hdone () rest
    · exact fun _ => .skip (.reportFirst _ _) fun _ _ _ => .skip .recoverLine fun u rest _ =>
        hdone u rest

theorem forward_readArgument (inLine : Bool) (name : Token) : Forward (readArgument inLine name) :=
  ⟨fun c => (reads_readArgument inLine name c.rest).suffix c rfl⟩

theorem forward_readOnlyArgument : Forward readOnlyArgument := by
  refine .bind (.read true) fun name => .ite ?_ ?_
  · exact .bind .recoverLine fun _ => .bind (.report _ _) fun _ => .pure _
  · refine .bind (.peek true) fun t => ?_
    split
    · exact .bind (forward_readArgument true name) fun _ => .pure _
    all_goals exact .bind .recoverLine fun _ => .bind (.report _ _) fun _ => .pure _

/-- A block on one line has at most one argument. -/
theorem reads_readLine (opening : Token) (tokens : List Token) :
    Reads (readLine opening) tokens fun r => InOrder r.1.arguments r.1.blocks := by
  rw [readLine]
  refine .skip .mark fun before _ _ => .skip forward_readOnlyArgument fun argument _ _ =>
    .skip (.peek true) fun t rest _ => ?_
  extract_lets resume complain done
  have hcomplain : ∀ always problem span, Forward (complain always problem span) := by
    intro always problem span
    -- The cursor is put back where it was, with one more problem.
    have hresume : Forward (resume ()) := .bind (.recover .brace) fun _ => .pure _
    refine ⟨fun c => ?_⟩
    change (StateT.run (if (always || !c.recovering) = true then _ >>= resume else resume ())
      c).2.rest <:+ c.rest
    split
    · exact hresume.suffix { c with problems := _ }
    · exact hresume.suffix c
  have hdone : ∀ u rest, Reads (done u) rest fun r => InOrder r.1.arguments r.1.blocks := by
    intro _ rest
    cases argument with
    | some a =>
      exact .pure (.intro (List.pairwise_singleton _ _) (List.nodup_singleton _) .nil nofun)
    | none => exact .pure (.intro .nil .nil .nil nofun)
  split
  · exact .skip (.read true) fun _ _ _ => hdone () _
  all_goals exact .skip (hcomplain _ _ _) fun u rest _ => hdone u rest

/-- The two functions that read bodies keep to the order of the text if they have so much fuel. -/
structure ReadsAt (fuel : Nat) : Prop where
  items : ∀ bracket opening {body tokens}, body.Before tokens →
    Reads (readItems fuel bracket opening body) tokens fun r => InOrder r.arguments r.blocks
  block : ∀ type {tokens}, Token.Laid tokens → Reads (readBlock fuel type) tokens fun b =>
    b.typeSpan = type.span ∧ InOrder b.arguments b.blocks

namespace ReadsAt

variable {fuel : Nat}

theorem readItems_succ (h : ReadsAt fuel) (bracket : Bracket) (opening : Span) {body : Body}
    {tokens : List Token} (hbody : body.Before tokens) :
    Reads (readItems (fuel + 1) bracket opening body) tokens fun r =>
      InOrder r.arguments r.blocks := by
  rw [readItems]
  refine .peek (.ite ?_ ?_)
  · exact fun _ => .skip (.read true) fun _ _ _ => .pure hbody.inOrder
  · intro _
    split
    · exact .skip (.read true) fun _ rest hrest => h.items bracket opening (hbody.mono hrest)
    · rename_i hword
      -- The word is passed before what it starts is read, so all that is listed came before it.
      have hpassed := Token.next_suffix_of_word hbody.laid hword
      have hlater := Token.next_suffix true tokens
      refine .read (.peek ?_)
      split
      · refine .bind (reads_readArgument false _ _) fun a rest hrest ha => ?_
        split
        · exact .skip (.report _ _) fun _ rest' hrest' =>
            h.items bracket opening (hbody.mono (hrest'.trans (hrest.trans hlater)))
        · rename_i hnew
          exact h.items bracket opening ((hbody.addArgument hword hpassed ha hnew).mono hrest)
      case h_5 =>
        exact .skip .recoverLine fun _ _ hrest => .skip (.report _ _) fun _ rest' hrest' =>
          h.items bracket opening (hbody.mono (hrest'.trans (hrest.trans hlater)))
      all_goals
        refine .bind (h.block _ (hbody.laid.suffix hlater)) fun b rest hrest hb => ?_
        exact h.items bracket opening ((hbody.addBlock hword hpassed hb.1 hb.2).mono hrest)
    · extract_lets stop
      have hstop : ∀ u rest, Reads (stop u) rest fun r => InOrder r.arguments r.blocks :=
        fun _ _ => .skip (.recover bracket) fun _ _ _ => .pure hbody.inOrder
      refine .skip (.read true) fun _ _ _ => ?_
      split <;> exact .skip (.reportFirst _ _) fun u rest _ => hstop u rest

theorem readBlock_succ (h : ReadsAt fuel) (type : Token) {tokens : List Token}
    (hlaid : Token.Laid tokens) :
    Reads (readBlock (fuel + 1) type) tokens fun b =>
      b.typeSpan = type.span ∧ InOrder b.arguments b.blocks := by
  rw [readBlock]
  refine .skip (forward_readLabels fuel []) fun (labels, opening?) rest hrest => ?_
  cases opening? with
  | none => exact .pure ⟨rfl, .intro .nil .nil .nil nofun⟩
  | some opening =>
    have hlaid' := hlaid.suffix hrest
    refine .peek ?_
    extract_lets done
    have hdone : ∀ r rest, InOrder r.1.arguments r.1.blocks → Reads (done r) rest fun b =>
        b.typeSpan = type.span ∧ InOrder b.arguments b.blocks := by
      intro r rest hr
      refine .skip (.peek true) fun after _ _ => .ite ?_ ?_
      · exact fun _ => .skip (.read true) fun _ _ _ => .pure ⟨rfl, hr⟩
      · exact fun _ => .skip (.reportFirst _ _) fun _ _ _ => .skip .recoverLine fun _ _ _ =>
          .pure ⟨rfl, hr⟩
    have hitems := h.items .brace opening.span (Before.empty hlaid')
    split
    case h_4 => exact .bind (reads_readLine opening _) fun r rest _ hr => hdone r rest hr
    all_goals
      exact .bind hitems fun body rest _ hbody => hdone (body, opening.span.start) rest hbody

end ReadsAt

theorem readsAt (fuel : Nat) : ReadsAt fuel := by
  induction fuel with
  | zero =>
    exact ⟨fun _ _ _ _ hbody => .pure hbody.inOrder,
      fun _ _ _ => .pure ⟨rfl, .intro .nil .nil .nil nofun⟩⟩
  | succ fuel ih => exact ⟨ih.readItems_succ, ih.readBlock_succ⟩

/-- A text has its arguments and blocks in the order in which they are written, at any depth. -/
theorem inOrder_ofText (source : String) :
    InOrder (ofText source).1.arguments (ofText source).1.blocks := by
  have hstart := Before.empty (Token.laid_list source)
  have hitems := fun first =>
    (readsAt (2 * (Token.list source).length + 4)).items .file first hstart
  exact (hitems _).fits { rest := Token.list source, last := _ } rfl

end Body

end FieldGraph.Config
