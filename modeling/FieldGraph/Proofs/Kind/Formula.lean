import FieldGraph.Kind.Standard
import FieldGraph.Proofs.Shader.Meaning

/-!
# The formulas of the standard kinds

A template writes text. Behind each template of a standard kind stands a formula: a tree over the
point, the parameters and the inputs sampled at places of their own. Which formula it is depends
only on which inputs are fed. Writing a formula out uses one convention for operands, so that what
the text means is proved once, by induction over formulas; for each kind it remains to see that
the template writes its formula.
-/

namespace FieldGraph

open Shader

universe u

/-- An expression over the point, the parameters and the inputs of a node. -/
inductive Formula where
  | point
  | param (index : Nat)
  /-- An input sampled at a place. -/
  | input (index : Nat) (place : Formula)
  | call (function : String) (arguments : List Formula)
  | member (whole : Formula) (components : String)
  | neg (a : Formula)
  | mul (a b : Formula)
  | div (a b : Formula)
  | sub (a b : Formula)

namespace Formula

/-! ## Text and meaning -/

mutual

/-- Write a formula out. Operands are parenthesised where needed, save the left one of a
difference. -/
def render (p : String) (inputs : List Input) (params : List String) : Formula → String
  | point => p
  | param index => Kind.paramText params index
  | input index place => Input.exprAt inputs index (place.render p inputs params)
  | call f row => Snippet.call f (renderRow p inputs params row)
  | member a components => Snippet.swizzle (a.render p inputs params) components
  | neg a => "-" ++ Snippet.paren (a.render p inputs params)
  | mul a b =>
      Snippet.paren (a.render p inputs params) ++ "*" ++ Snippet.paren (b.render p inputs params)
  | div a b =>
      Snippet.paren (a.render p inputs params) ++ "/" ++ Snippet.paren (b.render p inputs params)
  | sub a b => a.render p inputs params ++ "-" ++ Snippet.paren (b.render p inputs params)

/-- Write arguments out. -/
def renderRow (p : String) (inputs : List Input) (params : List String) :
    List Formula → List String
  | [] => []
  | a :: row => a.render p inputs params :: renderRow p inputs params row

end

variable {V : Type u}

mutual

/-- The value of a formula at a point. An input that nothing feeds is the place it is sampled
at. -/
def mean (I : Interpretation V) (v : V) (inputs : List (Option (V → V))) (params : List V) :
    Formula → V
  | point => v
  | param index => params.getD index v
  | input index place =>
      match inputs[index]? with
      | some (some h) => h (place.mean I v inputs params)
      | _ => place.mean I v inputs params
  | call f row => I.apply f (meanRow I v inputs params row)
  | member a components => I.member (a.mean I v inputs params) components
  | neg a => I.neg (a.mean I v inputs params)
  | mul a b => I.mul (a.mean I v inputs params) (b.mean I v inputs params)
  | div a b => I.div (a.mean I v inputs params) (b.mean I v inputs params)
  | sub a b => I.sub (a.mean I v inputs params) (b.mean I v inputs params)

/-- The values of arguments. -/
def meanRow (I : Interpretation V) (v : V) (inputs : List (Option (V → V))) (params : List V) :
    List Formula → List V
  | [] => []
  | a :: row => a.mean I v inputs params :: meanRow I v inputs params row

end

mutual

/-- Whether a formula uses only what there is: parameters up to a count, inputs that are fed or
points, and functions of the language with arguments. Each input is known by its type and whether
it is fed. -/
def fits (ports : List (PortType × Bool)) (count : Nat) : Formula → Bool
  | point => true
  | param index => index < count
  | input index place =>
      (ports[index]?.map fun (type, fed) => fed || type == .point).getD false &&
        place.fits ports count
  | call f row =>
      isName f.toList && !isNodeName f && !row.isEmpty && fitsRow ports count row
  | member a components => a.fits ports count && isName components.toList
  | neg a => a.fits ports count
  | mul a b | div a b | sub a b => a.fits ports count && b.fits ports count

/-- Whether arguments use only what there is. -/
def fitsRow (ports : List (PortType × Bool)) (count : Nat) : List Formula → Bool
  | [] => true
  | a :: row => a.fits ports count && fitsRow ports count row

end

/-- How an input of a template and its meaning go together. -/
def Fed (I : Interpretation V) (F : Functions V) (i : Input) (h : Option (V → V)) : Prop :=
  match i.feed, h with
  | some text, some h => Means I F text h
  | none, none => True
  | _, _ => False

/-- What an input stands for it stands for after later declarations. -/
theorem Fed.later {I : Interpretation V} {F F' : Functions V} (hF : Later F F') {i : Input}
    {h : Option (V → V)} (hfed : Fed I F i h) : Fed I F' i h := by
  obtain ⟨type, feed⟩ := i
  cases feed with
  | none => cases h <;> exact hfed
  | some text =>
    cases h with
    | none => exact hfed
    | some h => exact Means.later hfed hF

/-- The type of an input and whether it is fed. -/
def port (i : Input) : PortType × Bool := (i.type, i.connected)

/-- Related lists are related place by place. -/
theorem forall₂_getElem? {α β : Type*} {r : α → β → Prop} {as : List α} {bs : List β}
    (h : List.Forall₂ r as bs) {i : Nat} {a : α} (ha : as[i]? = some a) :
    ∃ b, bs[i]? = some b ∧ r a b := by
  induction h generalizing i with
  | nil => simp at ha
  | cons hab _ ih =>
    cases i with
    | zero =>
      obtain rfl : _ = a := by simpa using ha
      exact ⟨_, rfl, hab⟩
    | succ i => simpa using ih (by simpa using ha)

section

variable {I : Interpretation V} {F : Functions V} {q : String} {f : V → V} {inputs : List Input}
  {hs : List (Option (V → V))} {params : List String} {xs : List V}

/-- An input that is fed or a point has an expression at every place that has one. -/
theorem denotes_exprAt (hF : Later F F) (hin : List.Forall₂ (Fed I F) inputs hs) {index : Nat}
    (hport : (((inputs.map port)[index]?).map fun (type, fed) => fed || type == .point).getD false
      = true)
    {place : String} {g : V → V} (hplace : Denotes I F place g) :
    Denotes I F (Input.exprAt inputs index place) fun v =>
      match hs[index]? with
      | some (some h) => h (g v)
      | _ => g v := by
  cases hi : inputs[index]? with
  | none => simp [hi] at hport
  | some i =>
    obtain ⟨h, hh, hfed⟩ := forall₂_getElem? hin hi
    simp only [List.getElem?_map, hi, Option.map_some, Option.getD_some, port] at hport
    rw [hh, Input.exprAt, hi, Option.map_some, Option.getD_some, Input.expr]
    unfold Fed at hfed
    split at hfed
    next text h hfeed =>
      rw [hfeed]
      exact hfed F hF place g hplace
    next hfeed =>
      have htype : i.type = .point := by simpa [Input.connected, hfeed] using hport
      rw [hfeed]
      simpa only [htype, if_true] using hplace
    next => exact hfed.elim

mutual

/-- The text of a formula denotes its value. -/
theorem denotes_render (hF : Later F F) (hq : Denotes I F q f)
    (hin : List.Forall₂ (Fed I F) inputs hs)
    (hpar : List.Forall₂ (fun text x => Denotes I F text fun _ => x) params xs) :
    (φ : Formula) → φ.fits (inputs.map port) params.length = true →
      Denotes I F (φ.render q inputs params) fun v => φ.mean I (f v) hs xs
  | point, _ => hq
  | param index, h => by
    have hi : index < params.length := by simpa [fits] using h
    obtain ⟨x, hx, hden⟩ := forall₂_getElem? hpar (List.getElem?_eq_getElem hi)
    simpa [render, mean, Kind.paramText, hi, hx] using hden
  | input index place, h => by
    rw [fits, Bool.and_eq_true] at h
    have hplace := denotes_render hF hq hin hpar place h.2
    simpa only [render, mean] using denotes_exprAt hF hin h.1 hplace
  | call name row, h => by
    simp only [fits, Bool.and_eq_true, Bool.not_eq_true'] at h
    obtain ⟨⟨⟨hname, hbase⟩, hne⟩, hrow⟩ := h
    obtain ⟨fs, hfs, hmean⟩ := denotes_renderRow hF hq hin hpar row hrow
    have hargs : renderRow q inputs params row ≠ [] := by
      cases row with
      | nil => cases hne
      | cons a row => simp [renderRow]
    simpa only [render, mean, hmean] using denotes_apply hname hbase hargs hfs
  | member a components, h => by
    rw [fits, Bool.and_eq_true] at h
    simpa only [render, mean] using (denotes_render hF hq hin hpar a h.1).member h.2
  | neg a, h => by
    simpa only [render, mean] using (denotes_render hF hq hin hpar a h).neg
  | mul a b, h => by
    rw [fits, Bool.and_eq_true] at h
    simpa only [render, mean] using
      (denotes_render hF hq hin hpar a h.1).mul (denotes_render hF hq hin hpar b h.2)
  | div a b, h => by
    rw [fits, Bool.and_eq_true] at h
    simpa only [render, mean] using
      (denotes_render hF hq hin hpar a h.1).div (denotes_render hF hq hin hpar b h.2)
  | sub a b, h => by
    rw [fits, Bool.and_eq_true] at h
    simpa only [render, mean] using
      (denotes_render hF hq hin hpar a h.1).sub (denotes_render hF hq hin hpar b h.2)

/-- The texts of arguments denote their values. -/
theorem denotes_renderRow (hF : Later F F) (hq : Denotes I F q f)
    (hin : List.Forall₂ (Fed I F) inputs hs)
    (hpar : List.Forall₂ (fun text x => Denotes I F text fun _ => x) params xs) :
    (row : List Formula) → fitsRow (inputs.map port) params.length row = true →
      ∃ fs : List (V → V), List.Forall₂ (Denotes I F) (renderRow q inputs params row) fs ∧
        ∀ v, meanRow I (f v) hs xs row = fs.map (· v)
  | [], _ => ⟨[], .nil, fun _ => rfl⟩
  | a :: row, h => by
    rw [fitsRow, Bool.and_eq_true] at h
    obtain ⟨fs, hfs, hmean⟩ := denotes_renderRow hF hq hin hpar row h.2
    refine ⟨(fun v => a.mean I (f v) hs xs) :: fs, ?_, fun v => by simp [meanRow, hmean]⟩
    rw [renderRow]
    exact .cons (denotes_render hF hq hin hpar a h.1) hfs

end

end

end Formula

/-! ## The standard kinds -/

namespace Kind

open Formula

/-- The first three parameters as a vector. -/
def vectorFormula : Formula := .call "vec3" [.param 0, .param 1, .param 2]

/-- The second input if it is fed, else a formula in its place. -/
def overrideFormula (wired : List Bool) (default : Formula) : Formula :=
  if wired.getD 1 false then .input 1 .point else default

/-- The fed inputs from one on joined to a formula. -/
def joinFormula (join : Formula → Formula → Formula) (acc : Formula) (index : Nat) :
    List Bool → Formula
  | [] => acc
  | true :: rest => joinFormula join (join acc (.input index .point)) (index + 1) rest
  | false :: rest => joinFormula join acc (index + 1) rest

/-- All fed inputs joined from left to right. -/
def combinatorFormula (wired : List Bool) (join : Formula → Formula → Formula) : Formula :=
  joinFormula join (.input 0 .point) 1 (wired.drop 1)

/-- The formula of a standard kind, from which inputs are fed. -/
def formula (k : Kind) (wired : List Bool) : Formula :=
  match k.id with
  | "sphere" => .sub (.call "length" [.input 0 .point]) (.param 0)
  | "cube" => .call "sdBox" [.input 0 .point, vectorFormula, .param 3]
  | "plane" => .sub (.member (.input 0 .point) "y") (.param 0)
  | "torus" => .call "sdTorus" [.input 0 .point, .call "vec2" [.param 0, .param 1]]
  | "translate" => .input 0 (.sub .point (overrideFormula wired vectorFormula))
  | "scale" =>
      .mul (.input 0 (.div .point (overrideFormula wired (.param 0))))
        (overrideFormula wired (.param 0))
  | "bend" => .input 0 (.call "opBend" [.point, overrideFormula wired (.param 0)])
  | "twist" => .input 0 (.call "opTwist" [.point, overrideFormula wired (.param 0)])
  | "mirror" => .input 0 (.call "opMirror" [.point, vectorFormula])
  | "round" => .sub (.input 0 .point) (overrideFormula wired (.param 0))
  | "shell" => .sub (.call "abs" [.input 0 .point]) (overrideFormula wired (.param 0))
  | "union" => combinatorFormula wired fun a b => .call "min" [a, b]
  | "intersection" => combinatorFormula wired fun a b => .call "max" [a, b]
  | "difference" => combinatorFormula wired fun a b => .call "max" [a, .neg b]
  | "smooth-min" => combinatorFormula wired fun a b => .call "opSmoothUnion" [a, b, .param 0]
  | "smooth-intersection" =>
      combinatorFormula wired fun a b => .call "opSmoothIntersect" [a, b, .param 0]
  | "smooth-difference" =>
      combinatorFormula wired fun a b => .call "opSmoothDiff" [a, b, .param 0]
  | "scalar" => .param 0
  | "vector3" => vectorFormula
  | "output" => .input 0 .point
  | _ => .point

/-- What an input of some type brings goes with its port: only an optional port may stay open. -/
def Serves {α : Type u} (spec : PortSpec) (i : PortType × Option α) : Prop :=
  i.1 = spec.type ∧ (i.2 = none → spec.optional = true)

section

variable {α : Type u} {is : List (PortType × Option α)}

/-- A required input is fed. -/
theorem Serves.required {spec : PortSpec} {i : PortType × Option α} (h : Serves spec i)
    (hspec : spec.optional = false) : ∃ a, i = (spec.type, some a) := by
  obtain ⟨type, a⟩ := i
  obtain ⟨rfl, hopen⟩ := h
  cases a with
  | none => simp [hopen rfl] at hspec
  | some a => exact ⟨a, rfl⟩

/-- Every input has the type of its port. -/
theorem Serves.typed {spec : PortSpec} {i : PortType × Option α} (h : Serves spec i) :
    ∃ a, i = (spec.type, a) :=
  ⟨i.2, by rw [← h.1]⟩

/-- A primitive has one input, which may be open. -/
theorem serves_point (h : List.Forall₂ Serves pointInput is) : ∃ a, is = [(.point, a)] := by
  rcases h with _ | ⟨h, ⟨⟩⟩
  obtain ⟨a, rfl⟩ := h.typed
  exact ⟨a, rfl⟩

/-- A single distance is fed. -/
theorem serves_distance (h : List.Forall₂ Serves (domainInputs []) is) :
    ∃ a, is = [(.distance, some a)] := by
  rcases h with _ | ⟨h, ⟨⟩⟩
  obtain ⟨a, rfl⟩ := h.required rfl
  exact ⟨a, rfl⟩

/-- A domain operator is fed a distance, and its override may be open. -/
theorem serves_override {name : String} {type : PortType}
    (h : List.Forall₂ Serves (domainInputs [⟨name, type, true⟩]) is) :
    ∃ a b, is = [(.distance, some a), (type, b)] := by
  rcases h with _ | ⟨h, _ | ⟨h', ⟨⟩⟩⟩
  obtain ⟨a, rfl⟩ := h.required rfl
  obtain ⟨b, rfl⟩ := h'.typed
  exact ⟨a, b, rfl⟩

/-- A combinator is fed two distances, and two more may be open. -/
theorem serves_combinator (h : List.Forall₂ Serves combinatorInputs is) :
    ∃ a b c d, is = [(.distance, some a), (.distance, some b), (.distance, c), (.distance, d)] := by
  rcases h with _ | ⟨h₁, _ | ⟨h₂, _ | ⟨h₃, _ | ⟨h₄, ⟨⟩⟩⟩⟩⟩
  obtain ⟨a, rfl⟩ := h₁.required rfl
  obtain ⟨b, rfl⟩ := h₂.required rfl
  obtain ⟨c, rfl⟩ := h₃.typed
  obtain ⟨d, rfl⟩ := h₄.typed
  exact ⟨a, b, c, d, rfl⟩

end

/-- An input of a template from its type and text. -/
def toInput (i : PortType × Option (String → String)) : Input := ⟨i.1, i.2⟩

/-- The template of a combinator writes its formula, if it joins texts as the formula joins. -/
theorem combinator_template {id : String} {library : List Function} {specs : List ParamSpec}
    {joinText : List String → String → String → String}
    {join : List Float32 → Float32 → Float32 → Float32} {joined : Formula → Formula → Formula}
    {is : List (PortType × Option (String → String))}
    (h : List.Forall₂ Serves combinatorInputs is) (p : String) (params : List String)
    (hjoin : ∀ inputs a b, (joined a b).render p inputs params =
      joinText params (a.render p inputs params) (b.render p inputs params)) :
    (combinator id library specs joinText join).template p (is.map toInput) params =
      (combinatorFormula (is.map (·.2.isSome)) joined).render p (is.map toInput) params := by
  obtain ⟨a, b, c, d, rfl⟩ := serves_combinator h
  cases c <;> cases d <;>
    simp [combinator, combinatorFormula, joinFormula, hjoin, render, toInput, Input.connected,
      Input.exprAt, Input.expr]

/-- The override of a domain operator is written like its formula. -/
theorem render_override {default : Formula} {text : String}
    {is : List (PortType × Option (String → String))} {p : String} {params : List String}
    (hdefault : default.render p (is.map toInput) params = text) :
    (overrideFormula (is.map (·.2.isSome)) default).render p (is.map toInput) params =
      if Input.connectedAt (is.map toInput) 1 then Input.exprAt (is.map toInput) 1 p
      else text := by
  have hwired : (is.map (·.2.isSome)).getD 1 false = Input.connectedAt (is.map toInput) 1 := by
    simp only [Input.connectedAt, List.getD_eq_getElem?_getD, List.getElem?_map, Option.map_map]
    rfl
  rw [overrideFormula, hwired]
  split
  · rfl
  · exact hdefault

/-- The template of a standard kind writes its formula. -/
theorem template_eq_render {k : Kind} (hk : k ∈ standard)
    {is : List (PortType × Option (String → String))} (h : List.Forall₂ Serves k.inputs is)
    (p : String) (params : List String) :
    k.template p (is.map toInput) params =
      (k.formula (is.map (·.2.isSome))).render p (is.map toInput) params := by
  have hparam : (overrideFormula (is.map (·.2.isSome)) (.param 0)).render p (is.map toInput) params
      = overrideText p (is.map toInput) params := render_override rfl
  have hvector : (overrideFormula (is.map (·.2.isSome)) vectorFormula).render p (is.map toInput)
      params = if Input.connectedAt (is.map toInput) 1 then Input.exprAt (is.map toInput) 1 p
        else vectorText params := render_override rfl
  simp only [standard, List.mem_cons, List.not_mem_nil, or_false] at hk
  rcases hk with rfl | rfl | rfl | rfl | rfl | rfl | rfl | rfl | rfl | rfl | rfl | rfl | rfl |
    rfl | rfl | rfl | rfl | rfl | rfl | rfl | rfl
  · simp [sphere, formula, render, renderRow, Snippet.call, String.append_assoc]
  · rfl
  · rfl
  · rfl
  · simp only [translate, formula, render, hvector]
  · simp only [scale, formula, render, hparam]
  · simp only [bend, formula, render, renderRow, hparam]
  · simp only [twist, formula, render, renderRow, hparam]
  · rfl
  · simp only [round, formula, render, hparam]
  · simp only [shell, formula, render, renderRow, hparam]
  · exact combinator_template h p params fun _ _ _ => rfl
  · exact combinator_template h p params fun _ _ _ => rfl
  · exact combinator_template h p params fun _ _ _ => rfl
  · exact combinator_template h p params fun _ _ _ => rfl
  · exact combinator_template h p params fun _ _ _ => rfl
  · exact combinator_template h p params fun _ _ _ => rfl
  · rfl
  · rfl
  · rfl
  · rfl

/-- The formula of a standard kind uses only what a node of the kind has. -/
theorem fits_formula {k : Kind} (hk : k ∈ standard) {α : Type u} {is : List (PortType × Option α)}
    (h : List.Forall₂ Serves k.inputs is) :
    (k.formula (is.map (·.2.isSome))).fits (is.map fun i => (i.1, i.2.isSome)) k.params.length
      = true := by
  simp only [standard, List.mem_cons, List.not_mem_nil, or_false] at hk
  rcases hk with rfl | rfl | rfl | rfl | rfl | rfl | rfl | rfl | rfl | rfl | rfl | rfl | rfl |
    rfl | rfl | rfl | rfl | rfl | rfl | rfl | rfl
  iterate 4
    obtain ⟨_ | _, rfl⟩ := serves_point h <;> rfl
  iterate 4
    obtain ⟨_, _ | _, rfl⟩ := serves_override h <;> rfl
  obtain ⟨_, rfl⟩ := serves_distance h; rfl
  iterate 2
    obtain ⟨_, _ | _, rfl⟩ := serves_override h <;> rfl
  iterate 6
    obtain ⟨_, _, _ | _, _ | _, rfl⟩ := serves_combinator h <;> rfl
  iterate 3
    cases h; rfl
  obtain ⟨_, rfl⟩ := serves_distance h; rfl

end Kind

end FieldGraph
