import FieldGraph.Proofs.Config.Layout
import FieldGraph.Proofs.Kind.Standard
import FieldGraph.Proofs.Scene.Declared

/-!
# Scenes read from texts

Reading a scene goes on after a finding, so that all of them can be returned: a block whose name
is taken is passed over, a link to an unknown node is kept. Here the accepted texts are described
without the findings. Their blocks have different names, decode, and name declared nodes, and the
scene has a declaration for every block that declares a node and a link for every block that links
two ports, in the order of the text.
-/

namespace FieldGraph.Scene

open Config (Argument Block Body)
open Session

/-! ## Endpoints -/

namespace Endpoint

/-- A text is how an endpoint is written: two names around its only point. -/
structure Written (e : Endpoint) (s : String) : Prop where
  text : e.text = s
  node : e.node ≠ ""
  port : e.port ≠ ""
  point : s.toList.count '.' = 1

theorem toList_text (e : Endpoint) : e.text.toList = e.node.toList ++ '.' :: e.port.toList := by
  simp [text]

/-- What stands before the first point. -/
theorem takeWhile_ne_point {node port : List Char} (hnode : '.' ∉ node) :
    (node ++ '.' :: port).takeWhile (· ≠ '.') = node := by
  have hall : ∀ c ∈ node, decide (c ≠ '.') = true := fun c hc =>
    decide_eq_true fun he => hnode (he ▸ hc)
  rw [List.takeWhile_append_of_pos hall]
  simp

theorem written_of_ofText? {s : String} {e : Endpoint} (h : ofText? s = some e) :
    e.Written s := by
  have hsplit := List.prefix_iff_eq_append.mp (List.takeWhile_prefix (l := s.toList) (· ≠ '.'))
  have hnode : '.' ∉ s.toList.takeWhile (· ≠ '.') := fun hmem => by
    simpa using List.mem_takeWhile_imp hmem
  rw [ofText?] at h
  generalize s.toList.takeWhile (· ≠ '.') = node at h hsplit hnode
  split at h
  case h_2 => cases h
  case h_1 port hdrop =>
    rw [hdrop] at hsplit
    split at h
    case isTrue => cases h
    case isFalse hnone =>
      obtain rfl := Option.some.inj h
      simp only [Bool.or_eq_true, List.isEmpty_iff, List.contains_iff_mem, not_or] at hnone
      obtain ⟨⟨hne, hport⟩, hpoint⟩ := hnone
      refine ⟨?_, by simpa using hne, by simpa using hport, ?_⟩
      · rw [← String.toList_inj, toList_text, ← hsplit]
        simp
      · rw [← hsplit, List.count_append, List.count_cons_self, List.count_eq_zero.mpr hnode,
          List.count_eq_zero.mpr hpoint]

theorem ofText?_of_written {s : String} {e : Endpoint} (h : e.Written s) :
    ofText? s = some e := by
  obtain ⟨rfl, hnode, hport, hpoint⟩ := h
  rw [toList_text, List.count_append, List.count_cons_self] at hpoint
  have hnone : '.' ∉ e.node.toList ∧ '.' ∉ e.port.toList := by
    rw [← List.count_eq_zero, ← List.count_eq_zero]
    omega
  rw [ofText?, toList_text, takeWhile_ne_point hnone.1, List.drop_left]
  simp [hnode, hport, hnone.2]

/-- Exactly the texts that an endpoint is written as are read as it. -/
theorem ofText?_eq_some_iff {s : String} {e : Endpoint} : ofText? s = some e ↔ e.Written s :=
  ⟨written_of_ofText?, ofText?_of_written⟩

end Endpoint

/-! ## Attempts -/

variable {α β : Type}

/-- The results of attempts that may leave findings are complete exactly if nothing was found. -/
theorem collected_iff {f : β → Option α × List Finding}
    (hf : ∀ b, (f b).2 = [] → (f b).1 ≠ none) (bs : List β) (results : List α) :
    (bs.map f).flatMap (·.2) = [] ∧ (bs.map f).filterMap (·.1) = results ↔
      List.Forall₂ (fun b a => f b = (some a, [])) bs results := by
  induction bs generalizing results with
  | nil => simp [eq_comm]
  | cons b rest ih =>
    rw [List.map_cons, List.flatMap_cons, List.append_eq_nil_iff, List.forall₂_cons_left_iff]
    constructor
    · rintro ⟨⟨hfirst, hrest⟩, hresults⟩
      obtain ⟨a, ha⟩ := Option.ne_none_iff_exists'.mp (hf b hfirst)
      rw [List.filterMap_cons_some ha] at hresults
      exact ⟨a, _, Prod.ext ha hfirst, (ih _).mp ⟨hrest, rfl⟩, hresults.symm⟩
    · rintro ⟨a, others, hb, hothers, rfl⟩
      obtain ⟨hrest, hresults⟩ := (ih _).mpr hothers
      refine ⟨⟨congrArg Prod.snd hb, hrest⟩, ?_⟩
      rw [List.filterMap_cons_some (congrArg Prod.fst hb), hresults]

/-- An attempt that fails has found something. -/
def Explained (x : Except (List Finding) α) : Prop := x ≠ .error []

theorem Explained.bind {x : Except (List Finding) α} {f : α → Except (List Finding) β}
    (hx : Explained x) (hf : ∀ a, Explained (f a)) : Explained (x >>= f) := by
  cases x with
  | error findings => exact fun h => hx (congrArg _ (Except.error.inj h))
  | ok a => exact hf a

/-- An attempt without findings has a result. -/
theorem Explained.exists_ok {x : Except (List Finding) α} (hx : Explained x)
    (h : findingsOf x = []) : ∃ a, x = .ok a := by
  cases x with
  | error findings => exact absurd (congrArg _ h) hx
  | ok a => exact ⟨a, rfl⟩

theorem explained_evaluate (a : Argument) (read : Config.Value → Except ValueFault α) :
    Explained (evaluate a read) := by
  rw [Explained, evaluate]
  split
  · split <;> simp
  case h_2 v problems hne heval =>
    exact fun h => hne (List.map_eq_nil_iff.mp (Except.error.inj h))

theorem length_of_mapM {ε : Type} {f : β → Except ε α} {bs : List β} {results : List α}
    (h : bs.mapM f = .ok results) : results.length = bs.length := by
  induction bs generalizing results with
  | nil =>
    cases h
    rfl
  | cons b rest ih =>
    rw [List.mapM_cons] at h
    obtain ⟨a, -, h⟩ := bind_eq_ok_iff.mp h
    obtain ⟨others, hothers, h⟩ := bind_eq_ok_iff.mp h
    cases h
    rw [List.length_cons, List.length_cons, ih hothers]

theorem length_of_itemsOf {length : Nat} {v : Config.Value} {items : List Config.Value}
    (h : itemsOf length v = .ok items) : items.length = length := by
  have hchecked : ∀ {found : List Config.Value},
      (if found.length = length then .ok found else .error (.notList length)) =
        (.ok items : Except ValueFault _) → items.length = length := by
    intro found hfound
    split at hfound
    case isTrue hlength => rwa [← Except.ok.inj hfound]
    case isFalse => cases hfound
  rw [itemsOf.eq_def] at h
  split at h
  · exact hchecked h
  · exact hchecked h
  · cases h

/-- A list of numbers has the length that is asked for. -/
theorem length_of_numbersOf {length : Nat} {v : Config.Value} {values : List Float32}
    (h : numbersOf length v = .ok values) : values.length = length := by
  rw [numbersOf.eq_def] at h
  split at h
  · cases h
  · cases h
  · obtain ⟨items, hitems, hvalues⟩ := bind_eq_ok_iff.mp h
    rw [length_of_mapM hvalues, length_of_itemsOf hitems]

theorem length_of_evaluate {length : Nat} {a : Argument} {values : List Float32}
    (h : evaluate a (numbersOf length) = .ok values) : values.length = length := by
  rw [evaluate] at h
  split at h
  · split at h
    case h_1 hread =>
      cases h
      exact length_of_numbersOf hread
    case h_2 => cases h
  · cases h

/-! ## Blocks that declare nodes -/

namespace NodeBlock

/-- Where an argument places a node. -/
inductive Places : Option Argument → Vec2 → Prop
  | default : Places none {}
  | given {a : Argument} {x y : Float32} (h : evaluate a (numbersOf 2) = .ok [x, y]) :
      Places (some a) ⟨x, y⟩

/-- What an argument sets the three axes to. -/
inductive SetsAxes : Option Argument → List Param → Prop
  | absent : SetsAxes none []
  | given {a : Argument} {x y z : Float32} (h : evaluate a (numbersOf 3) = .ok [x, y, z]) :
      SetsAxes (some a) [⟨"x", x, a.span⟩, ⟨"y", y, a.span⟩, ⟨"z", z, a.span⟩]

/-- An argument sets the parameter of its name. -/
structure Sets (a : Argument) (p : Param) : Prop where
  name : p.name = a.name
  value : evaluate a numberOf = .ok p.value
  span : p.span = a.span

/-- A block gives a declaration: its arguments are numbers, and it holds no other block. -/
structure Gives (b : NodeBlock) (d : Declaration) : Prop where
  name : d.name = b.name
  kind : d.kind = b.kind
  span : d.span = b.span
  position : Places b.position d.position
  /-- The axes come first. -/
  params : ∃ axes own, SetsAxes b.xyz axes ∧ List.Forall₂ Sets b.params own ∧
    d.params = axes ++ own
  nested : b.nested = none

variable {b : NodeBlock}

theorem explained_place (b : NodeBlock) : Explained b.place := by
  rw [place]
  split
  · nofun
  · refine (explained_evaluate _ _).bind fun values => ?_
    split <;> nofun

theorem explained_axes (b : NodeBlock) : Explained b.axes := by
  rw [axes]
  split
  · nofun
  · exact (explained_evaluate _ _).bind fun _ => nofun

theorem explained_param (a : Argument) : Explained (param a) :=
  (explained_evaluate _ _).bind fun _ => nofun

theorem place_eq_ok_iff {v : Vec2} : b.place = .ok v ↔ Places b.position v := by
  rw [place]
  cases hb : b.position with
  | none =>
    constructor
    · rintro ⟨⟩
      exact .default
    · rintro ⟨⟩
      rfl
  | some a =>
    constructor
    · intro h
      obtain ⟨values, hvalues, hv⟩ := bind_eq_ok_iff.mp h
      obtain ⟨x, y, rfl⟩ := List.length_eq_two.mp (length_of_evaluate hvalues)
      cases hv
      exact .given hvalues
    · rintro ⟨⟩
      rename_i x y h
      exact bind_eq_ok_iff.mpr ⟨[x, y], h, rfl⟩

theorem axes_eq_ok_iff {params : List Param} : b.axes = .ok params ↔ SetsAxes b.xyz params := by
  rw [axes]
  cases hb : b.xyz with
  | none =>
    constructor
    · rintro ⟨⟩
      exact .absent
    · rintro ⟨⟩
      rfl
  | some a =>
    constructor
    · intro h
      obtain ⟨values, hvalues, hv⟩ := bind_eq_ok_iff.mp h
      obtain ⟨x, y, z, rfl⟩ := List.length_eq_three.mp (length_of_evaluate hvalues)
      cases hv
      exact .given hvalues
    · rintro ⟨⟩
      rename_i x y z h
      exact bind_eq_ok_iff.mpr ⟨[x, y, z], h, rfl⟩

theorem param_eq_ok_iff {a : Argument} {p : Param} : param a = .ok p ↔ Sets a p := by
  constructor
  · intro h
    obtain ⟨value, hvalue, hp⟩ := bind_eq_ok_iff.mp h
    cases hp
    exact ⟨rfl, hvalue, rfl⟩
  · rintro ⟨hname, hvalue, hspan⟩
    exact bind_eq_ok_iff.mpr ⟨p.value, hvalue, by rw [← hname, ← hspan]; rfl⟩

/-- All parameters are set exactly if nothing was found. -/
theorem params_iff {own : List Param} :
    (b.params.map param).flatMap findingsOf = [] ∧
        (b.params.map param).filterMap (·.toOption) = own ↔
      List.Forall₂ Sets b.params own := by
  have hsome : ∀ a, findingsOf (param a) = [] → (param a).toOption ≠ none := by
    intro a ha
    obtain ⟨p, hp⟩ := (explained_param a).exists_ok ha
    rw [hp]
    exact Option.some_ne_none p
  have hsets : ∀ a p, ((param a).toOption, findingsOf (param a)) = (some p, []) ↔ Sets a p := by
    intro a p
    rw [← param_eq_ok_iff]
    cases param a <;> simp [Except.toOption, findingsOf]
  have hcollected := collected_iff (f := fun a => ((param a).toOption, findingsOf (param a))) hsome
    b.params own
  simp only [hsets, List.flatMap_map, List.filterMap_map, Function.comp_def] at hcollected ⊢
  exact hcollected

/-- A block gives a declaration exactly if nothing was found. -/
theorem declare_eq_iff {d : Declaration} : b.declare = (d, []) ↔ b.Gives d := by
  constructor
  · intro h
    obtain ⟨rfl, hfindings⟩ := Prod.mk.inj h
    simp only [List.append_eq_nil_iff] at hfindings
    obtain ⟨⟨⟨hplace, haxes⟩, hnested⟩, hparams⟩ := hfindings
    obtain ⟨v, hv⟩ := b.explained_place.exists_ok hplace
    obtain ⟨axes, hset⟩ := b.explained_axes.exists_ok haxes
    have hown := params_iff.mp ⟨hparams, rfl⟩
    refine ⟨rfl, rfl, rfl, ?_, ⟨axes, _, axes_eq_ok_iff.mp hset, hown, ?_⟩, ?_⟩
    · rw [← place_eq_ok_iff, hv]
      rfl
    · rw [hset]
      rfl
    · simpa using hnested
  · rintro ⟨hname, hkind, hspan, hposition, ⟨axes, own, haxes, hown, hparams⟩, hnested⟩
    obtain ⟨hfound, rfl⟩ := params_iff.mpr hown
    rw [← place_eq_ok_iff] at hposition
    rw [← axes_eq_ok_iff] at haxes
    obtain ⟨name, kind, position, params, span⟩ := d
    dsimp only at *
    subst hname hkind hspan hparams
    simp [declare, hposition, haxes, hnested, hfound, findingsOf, Except.toOption]

end NodeBlock

/-- Blocks are declared exactly if nothing was found: their names are new and different, and each of
them gives its declaration. -/
theorem declareAll_eq_iff {taken : List String} {blocks : List NodeBlock}
    {nodes : List Declaration} :
    declareAll taken blocks = (nodes, []) ↔ (∀ b ∈ blocks, b.name ∉ taken) ∧
      (blocks.map (·.name)).Nodup ∧ List.Forall₂ NodeBlock.Gives blocks nodes := by
  induction blocks generalizing taken nodes with
  | nil => simp [declareAll, eq_comm]
  | cons b rest ih =>
    rw [declareAll]
    by_cases htaken : b.name ∈ taken
    · simp [htaken]
    · rw [if_neg htaken]
      constructor
      · intro h
        obtain ⟨rfl, hfindings⟩ := Prod.mk.inj h
        obtain ⟨hfirst, hothers⟩ := List.append_eq_nil_iff.mp hfindings
        have hb : b.Gives b.declare.1 := NodeBlock.declare_eq_iff.mp (Prod.ext rfl hfirst)
        obtain ⟨hnew, hnodup, hrest⟩ := ih.mp (Prod.ext rfl hothers)
        have hother : ∀ c ∈ rest, c.name ≠ b.name ∧ c.name ∉ taken := by
          simpa using hnew
        refine ⟨List.forall_mem_cons.mpr ⟨htaken, fun c hc => (hother c hc).2⟩,
          List.nodup_cons.mpr ⟨fun hmem => ?_, hnodup⟩, .cons hb hrest⟩
        obtain ⟨c, hc, hname⟩ := List.mem_map.mp hmem
        exact (hother c hc).1 hname
      · rintro ⟨hnew, hnodup, hall⟩
        rw [List.map_cons, List.nodup_cons] at hnodup
        obtain ⟨d, nodes, hb, hrest, rfl⟩ := List.forall₂_cons_left_iff.mp hall
        have hother : ∀ c ∈ rest, c.name ∉ b.name :: taken := by
          intro c hc hmem
          rcases List.mem_cons.mp hmem with hname | hmem
          · exact hnodup.1 (hname ▸ List.mem_map_of_mem hc)
          · exact hnew c (List.mem_cons_of_mem _ hc) hmem
        rw [NodeBlock.declare_eq_iff.mpr hb, ih.mpr ⟨hother, hnodup.2, hrest⟩]
        rfl

/-! ## Blocks that link ports -/

namespace ConnectBlock

/-- A block gives a link between the endpoints that it writes. -/
structure Gives (b : ConnectBlock) (link : Link) : Prop where
  source : link.source.Written b.source
  target : link.target.Written b.target
  span : link.span = b.span

variable {names : List String} {b : ConnectBlock}

/-- A block without findings has a link. -/
theorem link_ne_none (h : (b.link names).2 = []) : (b.link names).1 ≠ none := by
  rw [ConnectBlock.link] at h ⊢
  split at h
  · exact Option.some_ne_none _
  · cases h

/-- A block gives a link between declared nodes exactly if nothing was found. -/
theorem link_eq_iff {link : Link} :
    b.link names = (some link, []) ↔
      b.Gives link ∧ link.source.node ∈ names ∧ link.target.node ∈ names := by
  constructor
  · intro h
    rw [ConnectBlock.link] at h
    split at h
    case h_1 source target hsource htarget =>
      obtain ⟨hlink, hfindings⟩ := Prod.mk.inj h
      obtain rfl := Option.some.inj hlink
      have hknown := List.filter_eq_nil_iff.mp (List.map_eq_nil_iff.mp hfindings)
      refine ⟨⟨Endpoint.ofText?_eq_some_iff.mp hsource, Endpoint.ofText?_eq_some_iff.mp htarget,
        rfl⟩, ?_⟩
      simpa using hknown
    case h_2 => cases h
  · rintro ⟨⟨hsource, htarget, hspan⟩, hknown⟩
    obtain ⟨source, target, span⟩ := link
    dsimp only at *
    rw [ConnectBlock.link, Endpoint.ofText?_eq_some_iff.mpr hsource,
      Endpoint.ofText?_eq_some_iff.mpr htarget]
    simp [hknown, hspan]

end ConnectBlock

/-! ## Blocks of a scene -/

/-- Blocks give a scene. -/
structure Blocks.Give (blocks : Blocks) (scene : Scene) : Prop where
  nodes : List.Forall₂ NodeBlock.Gives blocks.nodes scene.nodes
  links : List.Forall₂ ConnectBlock.Gives blocks.connects scene.links
  /-- Names are declared once. -/
  names : scene.names.Nodup
  /-- Endpoints name declared nodes. -/
  closed : scene.Closed

theorem map_eq_of_forall₂ {γ : Type} {R : α → β → Prop} {f : α → γ} {g : β → γ} {as : List α}
    {bs : List β} (h : List.Forall₂ R as bs) (hR : ∀ a b, R a b → f a = g b) :
    as.map f = bs.map g := by
  rw [← List.forall₂_eq_eq_eq, List.forall₂_map_left_iff, List.forall₂_map_right_iff]
  exact h.imp hR

theorem names_of_gives {blocks : List NodeBlock} {nodes : List Declaration}
    (h : List.Forall₂ NodeBlock.Gives blocks nodes) :
    blocks.map (·.name) = nodes.map (·.name) :=
  map_eq_of_forall₂ h fun _ _ hb => hb.name.symm

/-- A relation between lists with a condition on the right. -/
theorem forall₂_and_right {R : α → β → Prop} {p : β → Prop} {as : List α} {bs : List β} :
    List.Forall₂ (fun a b => R a b ∧ p b) as bs ↔ List.Forall₂ R as bs ∧ ∀ b ∈ bs, p b := by
  constructor
  · intro h
    induction h with
    | nil => simp
    | cons hab _ ih =>
      exact ⟨.cons hab.1 ih.1, List.forall_mem_cons.mpr ⟨hab.2, ih.2⟩⟩
  · rintro ⟨h, hp⟩
    induction h with
    | nil => exact .nil
    | cons hab _ ih =>
      obtain ⟨hfirst, hrest⟩ := List.forall_mem_cons.mp hp
      exact .cons ⟨hab, hfirst⟩ (ih hrest)

/-- A scene is read from blocks exactly if they give it. -/
theorem ofBlocks_eq_ok_iff {blocks : Blocks} {scene : Scene} :
    ofBlocks blocks = .ok scene ↔ blocks.Give scene := by
  have hlinks := collected_iff (f := ConnectBlock.link (blocks.nodes.map (·.name)))
    (fun _ => ConnectBlock.link_ne_none) blocks.connects scene.links
  simp only [ConnectBlock.link_eq_iff] at hlinks
  rw [forall₂_and_right] at hlinks
  have hparts : ofBlocks blocks = .ok scene ↔ declareAll [] blocks.nodes = (scene.nodes, []) ∧
      List.Forall₂ ConnectBlock.Gives blocks.connects scene.links ∧
      ∀ link ∈ scene.links, link.source.node ∈ blocks.nodes.map (·.name) ∧
        link.target.node ∈ blocks.nodes.map (·.name) := by
    rw [← hlinks, ofBlocks]
    generalize blocks.connects.map _ = links
    obtain ⟨nodes, findings⟩ := declareAll [] blocks.nodes
    dsimp only
    split
    case h_1 hnil =>
      obtain ⟨rfl, hnone⟩ := List.append_eq_nil_iff.mp hnil
      obtain ⟨sceneNodes, sceneLinks⟩ := scene
      simp [hnone]
    case h_2 hsome =>
      refine ⟨nofun, ?_⟩
      rintro ⟨hdeclared, hnone, -⟩
      obtain ⟨-, rfl⟩ := Prod.mk.inj hdeclared
      exact absurd hnone hsome
  rw [hparts, declareAll_eq_iff]
  constructor
  · rintro ⟨⟨-, hnames, hnodes⟩, hgives, hknown⟩
    rw [names_of_gives hnodes] at hnames hknown
    exact ⟨hnodes, hgives, hnames, hknown⟩
  · rintro ⟨hnodes, hgives, hnames, hknown⟩
    rw [names_of_gives hnodes]
    exact ⟨⟨fun _ _ => List.not_mem_nil, hnames, hnodes⟩, hgives, hknown⟩

/-! ## Texts -/

/-- Without problems with labels, the blocks of a type are all that have it. -/
theorem blocksOf_eq_filter {s : Config.Schema} {type : String} {label : Option String}
    {blocks : List Block} (htype : s.blocks.lookup type = some label)
    (h : s.labelProblems blocks = []) : s.blocksOf type blocks = blocks.filter (·.type = type) := by
  refine List.filter_congr fun b hb => ?_
  have hlabel : (s.blocks.lookup b.type).bind (Config.Schema.labelProblem? b) = none :=
    List.filterMap_eq_nil_iff.mp h b hb
  by_cases hsame : b.type = type
  · rw [hsame, htype] at hlabel
    obtain ⟨before, after, hblocks, -⟩ := List.lookup_eq_some_iff.mp htype
    have hmem : (type, label) ∈ s.blocks := hblocks ▸ List.mem_append_right _ List.mem_cons_self
    rw [decide_eq_true hsame, Bool.and_eq_true_iff]
    refine ⟨beq_iff_eq.mpr hsame, List.any_eq_true.mpr ⟨(type, label), hmem, ?_⟩⟩
    simpa using hlabel
  · simp [hsame]

/-- The blocks are those of a body, each decoded from one of its type, and there is nothing else. -/
structure Blocks.Held (blocks : Blocks) (body : Body) : Prop where
  arguments : body.arguments = []
  types : ∀ b ∈ body.blocks, b.type = "node" ∨ b.type = "connect"
  nodes : blocks.nodes = (body.blocks.filter (·.type = "node")).map (fun b => (decodeNode b).1)
  connects : blocks.connects =
    (body.blocks.filter (·.type = "connect")).map (fun b => (decodeConnect b).1)

theorem Blocks.held_of_ofBody {body : Body} {blocks : Blocks}
    (h : Blocks.ofBody body = .ok blocks) : blocks.Held body := by
  rw [Blocks.ofBody] at h
  split at h
  case h_2 => cases h
  case h_1 hnone =>
    obtain rfl := Except.ok.inj h
    simp only [List.append_eq_nil_iff, Config.Schema.problems] at hnone
    obtain ⟨⟨⟨⟨⟨-, hlabels⟩, harguments⟩, hforeign⟩, -⟩, -⟩ := hnone
    have hnodes : schema.blocksOf "node" body.blocks = body.blocks.filter (·.type = "node") :=
      blocksOf_eq_filter rfl hlabels
    have hconnects :
        schema.blocksOf "connect" body.blocks = body.blocks.filter (·.type = "connect") :=
      blocksOf_eq_filter rfl hlabels
    refine ⟨?_, fun b hb => ?_, ?_, ?_⟩
    · simpa [Config.Schema.foreignArguments, schema] using harguments
    · have hknown := List.filter_eq_nil_iff.mp (List.map_eq_nil_iff.mp hforeign) b hb
      have hone : "connect" = b.type ∨ "node" = b.type := by
        simpa [schema, or_iff_not_imp_left] using hknown
      exact hone.symm.imp Eq.symm Eq.symm
    · simp [hnodes]
    · simp [hconnects]

/-- A scene is read from a body exactly if the blocks of the body give it. -/
theorem ofBody_eq_ok_iff {body : Body} {scene : Scene} :
    ofBody body = .ok scene ↔ ∃ blocks, Blocks.ofBody body = .ok blocks ∧ blocks.Give scene := by
  rw [ofBody]
  cases Blocks.ofBody body with
  | error problems => simp
  | ok blocks => simp [ofBlocks_eq_ok_iff]

/-- A scene is read from a text exactly if the text has no problems and the scene is read from its
body. -/
theorem ofText_eq_ok_iff {source : String} {scene : Scene} :
    ofText source = .ok scene ↔
      (Body.ofText source).2 = [] ∧ ofBody (Body.ofText source).1 = .ok scene := by
  rw [ofText]
  obtain ⟨body, problems⟩ := Body.ofText source
  cases problems with
  | nil => simp
  | cons first rest => simp

/-- The numeric arguments of a block decode, and it holds nothing but arguments. -/
structure NodeBlock.Decodes (b : NodeBlock) : Prop where
  position : ∀ a ∈ b.position, ∃ values, evaluate a (numbersOf 2) = .ok values
  xyz : ∀ a ∈ b.xyz, ∃ values, evaluate a (numbersOf 3) = .ok values
  params : ∀ a ∈ b.params, ∃ value, evaluate a numberOf = .ok value
  nested : b.nested = none

/-- Names are declared once, arguments decode, and endpoints are written in full and name declared
nodes. -/
structure Blocks.Sound (blocks : Blocks) : Prop where
  names : (blocks.nodes.map (·.name)).Nodup
  decode : ∀ b ∈ blocks.nodes, b.Decodes
  sources : ∀ b ∈ blocks.connects, ∃ e : Endpoint, e.Written b.source ∧
    e.node ∈ blocks.nodes.map (·.name)
  targets : ∀ b ∈ blocks.connects, ∃ e : Endpoint, e.Written b.target ∧
    e.node ∈ blocks.nodes.map (·.name)

theorem exists_forall₂_iff {R : α → β → Prop} {as : List α} :
    (∃ bs, List.Forall₂ R as bs) ↔ ∀ a ∈ as, ∃ b, R a b := by
  induction as with
  | nil => exact ⟨fun _ => nofun, fun _ => ⟨[], .nil⟩⟩
  | cons a rest ih =>
    rw [List.forall_mem_cons, ← ih]
    constructor
    · rintro ⟨bs, hbs⟩
      obtain ⟨b, others, hb, hothers, rfl⟩ := List.forall₂_cons_left_iff.mp hbs
      exact ⟨⟨b, hb⟩, others, hothers⟩
    · rintro ⟨⟨b, hb⟩, others, hothers⟩
      exact ⟨b :: others, .cons hb hothers⟩

/-- An argument places a node exactly if it is two numbers. -/
theorem NodeBlock.exists_places_iff {argument : Option Argument} :
    (∃ v, Places argument v) ↔ ∀ a ∈ argument, ∃ values, evaluate a (numbersOf 2) = .ok values := by
  constructor
  · rintro ⟨v, hv⟩ a rfl
    cases hv with
    | given h => exact ⟨_, h⟩
  · intro h
    cases argument with
    | none => exact ⟨_, .default⟩
    | some a =>
      obtain ⟨values, hvalues⟩ := h a rfl
      obtain ⟨x, y, rfl⟩ := List.length_eq_two.mp (length_of_evaluate hvalues)
      exact ⟨_, .given hvalues⟩

/-- An argument sets the axes exactly if it is three numbers. -/
theorem NodeBlock.exists_setsAxes_iff {argument : Option Argument} :
    (∃ params, SetsAxes argument params) ↔
      ∀ a ∈ argument, ∃ values, evaluate a (numbersOf 3) = .ok values := by
  constructor
  · rintro ⟨params, hparams⟩ a rfl
    cases hparams with
    | given h => exact ⟨_, h⟩
  · intro h
    cases argument with
    | none => exact ⟨_, .absent⟩
    | some a =>
      obtain ⟨values, hvalues⟩ := h a rfl
      obtain ⟨x, y, z, rfl⟩ := List.length_eq_three.mp (length_of_evaluate hvalues)
      exact ⟨_, .given hvalues⟩

theorem NodeBlock.exists_sets_iff {a : Argument} :
    (∃ p, Sets a p) ↔ ∃ value, evaluate a numberOf = .ok value :=
  ⟨fun ⟨_, hp⟩ => ⟨_, hp.value⟩, fun ⟨value, h⟩ => ⟨⟨a.name, value, a.span⟩, rfl, h, rfl⟩⟩

/-- A block gives some declaration exactly if it decodes. -/
theorem NodeBlock.exists_gives_iff {b : NodeBlock} : (∃ d, b.Gives d) ↔ b.Decodes := by
  constructor
  · rintro ⟨d, hd⟩
    obtain ⟨axes, own, haxes, hown, -⟩ := hd.params
    have hsets := exists_forall₂_iff.mp ⟨own, hown⟩
    exact ⟨exists_places_iff.mp ⟨_, hd.position⟩, exists_setsAxes_iff.mp ⟨_, haxes⟩,
      fun a ha => exists_sets_iff.mp (hsets a ha), hd.nested⟩
  · intro h
    obtain ⟨v, hv⟩ := exists_places_iff.mpr h.position
    obtain ⟨axes, haxes⟩ := exists_setsAxes_iff.mpr h.xyz
    obtain ⟨own, hown⟩ := exists_forall₂_iff.mpr fun a ha => exists_sets_iff.mpr (h.params a ha)
    exact ⟨⟨b.name, b.kind, v, axes ++ own, b.span⟩, rfl, rfl, rfl, hv,
      ⟨axes, own, haxes, hown, rfl⟩, h.nested⟩

/-- Blocks give some scene exactly if they are sound. -/
theorem Blocks.exists_give_iff {blocks : Blocks} : (∃ scene, blocks.Give scene) ↔ blocks.Sound := by
  constructor
  · rintro ⟨scene, h⟩
    have hnames := names_of_gives h.nodes
    have hends : ∀ b ∈ blocks.connects, ∃ link : Link, b.Gives link ∧
        link.source.node ∈ scene.names ∧ link.target.node ∈ scene.names :=
      exists_forall₂_iff.mp ⟨scene.links, forall₂_and_right.mpr ⟨h.links, h.closed⟩⟩
    refine ⟨hnames ▸ h.names, fun b hb => NodeBlock.exists_gives_iff.mp
      (exists_forall₂_iff.mp ⟨_, h.nodes⟩ b hb), fun b hb => ?_, fun b hb => ?_⟩
    · obtain ⟨link, hlink, hsource, -⟩ := hends b hb
      exact ⟨link.source, hlink.source, hnames ▸ hsource⟩
    · obtain ⟨link, hlink, -, htarget⟩ := hends b hb
      exact ⟨link.target, hlink.target, hnames ▸ htarget⟩
  · intro h
    obtain ⟨nodes, hnodes⟩ := exists_forall₂_iff.mpr fun b hb =>
      NodeBlock.exists_gives_iff.mpr (h.decode b hb)
    have hnames := names_of_gives hnodes
    have hlinks : ∀ b ∈ blocks.connects, ∃ link : Link, b.Gives link ∧
        link.source.node ∈ blocks.nodes.map (·.name) ∧
        link.target.node ∈ blocks.nodes.map (·.name) := by
      intro b hb
      obtain ⟨source, hsource, hsourceNode⟩ := h.sources b hb
      obtain ⟨target, htarget, htargetNode⟩ := h.targets b hb
      exact ⟨⟨source, target, b.span⟩, ⟨hsource, htarget, rfl⟩, hsourceNode, htargetNode⟩
    obtain ⟨links, hlinks⟩ := exists_forall₂_iff.mpr hlinks
    obtain ⟨hgives, hclosed⟩ := forall₂_and_right.mp hlinks
    have hdistinct := h.names
    rw [hnames] at hdistinct hclosed
    exact ⟨⟨nodes, links⟩, hnodes, hgives, hdistinct, hclosed⟩

/-! ## Order -/

theorem start_span (b : Block) : b.span.start = b.typeSpan.start := by
  rw [Block.span]
  split <;> rfl

/-- What is given by the blocks of a type, each at its place, is in the order of the text. -/
theorem ascending_of_gives {γ : Type} {R : α → γ → Prop} {decode : Block → α} {place : γ → Nat}
    {body : Body} (horder : Config.InOrder body.arguments body.blocks) {type : String}
    {items : List γ}
    (h : List.Forall₂ R ((body.blocks.filter (·.type = type)).map decode) items)
    (hplace : ∀ b c, R (decode b) c → place c = b.span.start.byte) :
    (items.map place).Pairwise (· < ·) := by
  obtain ⟨-, -, hblocks, -⟩ := horder
  rw [List.forall₂_map_left_iff] at h
  rw [← map_eq_of_forall₂ h fun b c hbc => (hplace b c hbc).symm, List.pairwise_map]
  refine (hblocks.sublist List.filter_sublist).imp fun {b c} hlt => ?_
  rwa [start_span, start_span]

/-- A body is accepted exactly if its blocks are sound. -/
theorem exists_ofBody_iff {body : Body} :
    (∃ scene, ofBody body = .ok scene) ↔
      ∃ blocks, Blocks.ofBody body = .ok blocks ∧ blocks.Sound := by
  constructor
  · rintro ⟨scene, h⟩
    obtain ⟨blocks, hblocks, hgive⟩ := ofBody_eq_ok_iff.mp h
    exact ⟨blocks, hblocks, Blocks.exists_give_iff.mp ⟨scene, hgive⟩⟩
  · rintro ⟨blocks, hblocks, hsound⟩
    obtain ⟨scene, hgive⟩ := Blocks.exists_give_iff.mpr hsound
    exact ⟨scene, ofBody_eq_ok_iff.mpr ⟨blocks, hblocks, hgive⟩⟩

/-- A body in the order of a text is accepted exactly if its blocks are sound. The scene that is
read has a declaration for every block that declares a node and a link for every block that links
two ports, both in the order of the text; its names are distinct, its endpoints are written as in
the blocks, with a single point, and name declared nodes. So over every registered catalog, applying
it to a session that calls lead to never fails because a node is missing. The body of every text is
in its order, and a scene is read from a text exactly if the text has no problems and the scene is
read from its body. -/
theorem texts_read_as_closed_scenes :
    (∀ body : Body, Config.InOrder body.arguments body.blocks →
      ((∃ scene, ofBody body = .ok scene) ↔
        ∃ blocks, Blocks.ofBody body = .ok blocks ∧ blocks.Sound) ∧
      ∀ scene, ofBody body = .ok scene → ∃ blocks, Blocks.ofBody body = .ok blocks ∧
        blocks.Held body ∧ blocks.Give scene ∧
        (scene.nodes.map (·.span.start.byte)).Pairwise (· < ·) ∧
        (scene.links.map (·.span.start.byte)).Pairwise (· < ·) ∧
        ∀ (drafts : List Draft) (compiler : Compiler) (tolerant : Bool) (calls : List Call) e,
          (scene.apply ((Session.new (drafts.foldl Catalog.extend .empty) compiler tolerant).after
            calls)).error = some e → e.cause ≠ .nodeNotFound) ∧
    ∀ source, Config.InOrder (Body.ofText source).1.arguments (Body.ofText source).1.blocks ∧
      ∀ scene, ofText source = .ok scene ↔
        (Body.ofText source).2 = [] ∧ ofBody (Body.ofText source).1 = .ok scene := by
  refine ⟨fun body horder => ⟨exists_ofBody_iff, fun scene h => ?_⟩,
    fun source => ⟨Config.Body.inOrder_ofText source, fun scene => ofText_eq_ok_iff⟩⟩
  obtain ⟨blocks, hblocks, hgive⟩ := ofBody_eq_ok_iff.mp h
  have hheld := Blocks.held_of_ofBody hblocks
  have hgiveNodes := hgive.nodes
  have hgiveLinks := hgive.links
  rw [hheld.nodes] at hgiveNodes
  rw [hheld.connects] at hgiveLinks
  refine ⟨blocks, hblocks, hheld, hgive,
    ascending_of_gives horder hgiveNodes fun b d hd => by rw [hd.span]; rfl,
    ascending_of_gives horder hgiveLinks fun b link hlink => by rw [hlink.span]; rfl, ?_⟩
  intro drafts compiler tolerant calls e herror
  have hcat : (drafts.foldl Catalog.extend .empty).Registered := ⟨drafts, rfl⟩
  have hs := (Session.coherent_new _ compiler tolerant).after hcat calls
  exact hgive.closed.cause_ne hcat hgive.names hs herror

/-- The text that feeds its output twice is accepted, and what it is then refused for is not a
missing node. -/
theorem planeTwice_reads_as_closed_scene :
    ∃ scene, ofText planeTwice = .ok scene ∧ scene.names = ["a", "o"] ∧ scene.names.Nodup ∧
      scene.Closed ∧ (scene.links.map (·.span.start.byte)).Pairwise (· < ·) ∧
      ∃ e, (scene.apply (Session.new .standard)).error = some e ∧ e.cause ≠ .nodeNotFound := by
  have hrun : ((ofText planeTwice).toOption.map fun scene =>
      (scene.names, (scene.apply (Session.new .standard)).error.isSome)) =
        some (["a", "o"], true) := by
    rw [Catalog.standard_eq]
    decide +kernel
  obtain ⟨scene, hscene, hfacts⟩ := exists_of_toOption_map hrun
  obtain ⟨hnames, hsome⟩ := Prod.mk.inj hfacts
  obtain ⟨e, he⟩ := Option.isSome_iff_exists.mp hsome
  obtain ⟨hbodies, htexts⟩ := texts_read_as_closed_scenes
  obtain ⟨horder, hiff⟩ := htexts planeTwice
  obtain ⟨-, hread⟩ := hbodies _ horder
  obtain ⟨blocks, -, -, hgive, -, hlinks, hcause⟩ := hread scene ((hiff scene).mp hscene).2
  obtain ⟨drafts, hdrafts⟩ := Catalog.standard_registered
  refine ⟨scene, hscene, hnames, hgive.names, hgive.closed, hlinks, e, he, ?_⟩
  rw [hdrafts] at he
  exact hcause drafts {} false [] e he

end FieldGraph.Scene
