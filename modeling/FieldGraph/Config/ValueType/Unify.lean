import FieldGraph.Config.ValueType.Basic

/-!
# A type for values of several types

Values of one type convert to another when their parts do. Text takes all values without parts,
and may read back as them; tuples are turned into lists and objects into maps when their parts have
a type in common. That common type is found for tuples and objects part by part, and otherwise it is
the most general of the types to which all others convert.

A conversion is sure if it works for all values of a type. Reading text, taking the attributes of
an object from a map and settling a dynamic type are not.

The functions call each other on the parts of types and on types made of them, so they carry a
bound on the depth. The size of the types is more than enough.
-/

namespace FieldGraph.Config.ValueType

/-! ## Generality -/

/-- Whether the first type of a pair is preferred, the second, or neither. -/
inductive Preference where
  | first
  | second
  | neither
  deriving DecidableEq, Repr

/-- The preference that several parts agree on. -/
def Preference.among (first second : Bool) : Preference :=
  match first, second with
  | true, false => .first
  | false, true => .second
  | _, _ => .neither

mutual

/-- Which of two types is more general: text is among the types without parts, lists among
sequences and maps among named parts. A dynamic type comes last, since it may turn out to be the
other one. -/
def preference : ValueType → ValueType → Preference
  | dynamic, dynamic => .neither
  | _, dynamic => .first
  | dynamic, _ => .second
  | primitive .text, primitive .text => .neither
  | primitive .text, primitive _ => .first
  | primitive _, primitive .text => .second
  | list a, list b | map a, map b => preference a b
  | list _, tuple _ | map _, object _ => .first
  | tuple _, list _ | object _, map _ => .second
  | tuple as, tuple bs =>
      if as.length = bs.length then
        let (first, second) := itemPreferences as bs
        .among first second
      else .neither
  | object as, object bs =>
      if as.map (·.1) = bs.map (·.1) then
        let (first, second) := fieldPreferences as bs
        .among first second
      else .neither
  | _, _ => .neither

/-- Whether some item of the first row is more general, and whether some item of the second
is. -/
def itemPreferences : List ValueType → List ValueType → Bool × Bool
  | a :: as, b :: bs =>
      let (first, second) := itemPreferences as bs
      let here := preference a b
      (first || here == .first, second || here == .second)
  | _, _ => (false, false)

/-- Whether some part of the first row is more general, and whether some part of the second
is. -/
def fieldPreferences : List (String × ValueType) → List (String × ValueType) → Bool × Bool
  | (_, a) :: as, (_, b) :: bs =>
      let (first, second) := fieldPreferences as bs
      let here := preference a b
      (first || here == .first, second || here == .second)
  | _, _ => (false, false)

end

/-- The types, numbered, in an order in which none comes before a more general one. The types of the
queue come first; one of the others is put at its end as soon as all that are more general have
come. -/
def orderFrom (types : List (Nat × ValueType)) :
    (fuel : Nat) → (done : List Nat) → (queue others : List (Nat × ValueType)) → List ValueType
  | 0, _, _, _ | _, _, [], _ => []
  | fuel + 1, done, (i, t) :: queue, others =>
      let done := i :: done
      let (free, others) := others.partition fun (_, other) =>
        preference t other = .first && types.all fun (j, general) =>
          preference general other != .first || done.contains j
      t :: orderFrom types fuel done (queue ++ free) others

/-- The types in an order in which none comes before a more general one. -/
def byGenerality (types : List ValueType) : List ValueType :=
  let numbered := types.mapIdx fun i t => (i, t)
  let (free, others) := numbered.partition fun (_, t) =>
    types.all fun general => preference general t != .first
  orderFrom numbered types.length [] free others

/-! ## Conversion and common types -/

/-- The names of the parts of an object. -/
def fieldNames : ValueType → List String
  | object fields => fields.map (·.1)
  | _ => []

mutual

/-- Whether values of a type may convert to another type, or surely do. -/
def converts : (depth : Nat) → (sure : Bool) → (source target : ValueType) → Bool
  | 0, _, _, _ => false
  | depth + 1, sure, source, target =>
      source.same target || match source, target with
        | _, dynamic => true
        | dynamic, _ => !sure
        | primitive a, primitive b => b == .text || a == .text && !sure
        | object as, object bs =>
            bs.all fun (name, b) =>
              match as.lookup name with
              | some a => converts depth sure a b
              | none => false
        | tuple as, tuple bs =>
            as.length == bs.length && (as.zip bs).all fun (a, b) => converts depth sure a b
        | list a, list b | map a, map b => converts depth sure a b
        | tuple as, list b => (gathered? depth sure true as b).isSome
        | object as, map b => (gathered? depth sure false (as.map (·.2)) b).isSome
        | map a, object bs => !sure && bs.all fun (_, b) => converts depth sure a b
        | _, _ => false

/-- The type of elements for parts that are gathered in a list or map. If it is left open, it is
the type that the parts have in common, which for a list must not be left open again. -/
def gathered? : (depth : Nat) → (sure isList : Bool) → (parts : List ValueType) → ValueType →
    Option ValueType
  | 0, _, _, _, _ => none
  | depth + 1, sure, isList, parts, element =>
      if parts.isEmpty then some element
      else do
        let element ← if element.isDynamic then unified? depth sure parts else some element
        if isList && element.isDynamic && !parts.all (·.isDynamic) then none
        else if parts.all fun t => converts depth sure t element then some element
        else none

/-- The type that values of several types have in common. -/
def unified? : (depth : Nat) → (sure : Bool) → (types : List ValueType) → Option ValueType
  | 0, _, _ => none
  | depth + 1, sure, types =>
      let anyOf (p : ValueType → Bool) : Bool := types.any p
      let only (p : ValueType → Bool) : Bool := types.all fun t => p t || t.isDynamic
      let settled (found : Option ValueType) : Option ValueType :=
        found.filter fun t => types.all fun s => converts depth sure s t
      let collected (collection : ValueType → ValueType) : Option ValueType :=
        settled ((unified? depth sure (types.flatMap parts)).map collection)
      if anyOf isMap && only isMap then
        if anyOf isDynamic then some dynamic else collected map
      else if anyOf isMap && only fun t => t.isMap || t.isObject then
        match (settledAs depth sure isObject map types).filter isMap with
        | some t => some t
        | none => mostGeneral? depth sure types
      else if anyOf isList && only isList then
        if anyOf isDynamic then some dynamic else collected list
      else if anyOf isList && only fun t => t.isList || t.isTuple then
        match (settledAs depth sure isTuple list types).filter isList with
        | some t => some t
        | none => mostGeneral? depth sure types
      else if anyOf isObject && only isObject then
        let names := fieldNames (types.headD dynamic)
        if anyOf isDynamic then some dynamic
        else if types.all fun t => fieldNames t = names then
          (partwise? depth sure types names.length).bind fun row =>
            match settled (some (object (names.zip row))) with
            | some t => some t
            | none => collected map
        else collected map
      else if anyOf isTuple && only isTuple then
        let length := (types.headD dynamic).parts.length
        if anyOf isDynamic then some dynamic
        else if types.all fun t => t.parts.length = length then
          (partwise? depth sure types length).bind fun row =>
            match settled (some (tuple row)) with
            | some t => some t
            | none => collected list
        else collected list
      else if anyOf isObject && anyOf isTuple then none
      else mostGeneral? depth sure types

/-- The most general of several types to which all others convert. -/
def mostGeneral? : (depth : Nat) → (sure : Bool) → List ValueType → Option ValueType
  | 0, _, _ => none
  | depth + 1, sure, types =>
      (byGenerality types).find? fun t => types.all fun s => converts depth sure s t

/-- The common type when the tuples or objects among several types are lists or maps. -/
def settledAs : (depth : Nat) → (sure : Bool) → (ValueType → Bool) → (ValueType → ValueType) →
    List ValueType → Option ValueType
  | 0, _, _, _, _ => none
  | depth + 1, sure, chosen, collection, types =>
      (unified? depth sure ((types.filter chosen).flatMap parts)).bind fun element =>
        let gathered := collection element
        if (types.filter chosen).all fun t => converts depth sure t gathered then
          unified? depth sure (types.map fun t => if chosen t then gathered else t)
        else none

/-- The common types of the parts at each of the first places. -/
def partwise? : (depth : Nat) → (sure : Bool) → List ValueType → (count : Nat) →
    Option (List ValueType)
  | 0, _, _, _ => none
  | depth + 1, sure, types, count =>
      (List.range count).mapM fun i => unified? depth sure (types.filterMap fun t => t.parts[i]?)

end

/-- A bound on the depth of questions about some types. -/
def depthFor (types : List ValueType) : Nat := 6 * sizeItems types + 6

/-- Whether values of a type may convert to another type. -/
def convertsTo (source target : ValueType) : Bool :=
  converts (depthFor [source, target]) false source target

/-- The type to which values of several types may convert, or surely do. -/
def common? (sure : Bool) (types : List ValueType) : Option ValueType :=
  unified? (depthFor types) sure types

/-- The type of elements for the items of a tuple as a list of an element type. -/
def listElement? (items : List ValueType) (element : ValueType) : Option ValueType :=
  gathered? (depthFor (element :: items)) false true items element

/-- The type of elements for the parts of an object as a map of an element type. -/
def mapElement? (parts : List ValueType) (element : ValueType) : Option ValueType :=
  gathered? (depthFor (element :: parts)) false false parts element

/-! ## Open parts -/

mutual

/-- A type in which parts that are left open are those of another type, which converts to it. -/
def fillFrom : (source : ValueType) → ValueType → ValueType
  | source, dynamic => source
  | dynamic, t => t
  | _, primitive p => primitive p
  | list s, list t => list (fillFrom s t)
  | tuple ss, list t => list (fillFrom ((common? false ss).getD dynamic) t)
  | map s, map t => map (fillFrom s t)
  | object ss, map t => map (fillFrom ((common? false (ss.map (·.2))).getD dynamic) t)
  | tuple ss, tuple ts => tuple (fillItems ss ts)
  | source, object ts => object (fillFields source ts)
  | _, t => t

/-- A row of types in which parts that are left open are those of another row. -/
def fillItems : List ValueType → List ValueType → List ValueType
  | s :: ss, t :: ts => fillFrom s t :: fillItems ss ts
  | _, ts => ts

/-- A row of named types in which parts that are left open are those of a map or object. -/
def fillFields (source : ValueType) : List (String × ValueType) → List (String × ValueType)
  | [] => []
  | (name, t) :: rest =>
      let part :=
        match source with
        | map s => s
        | object ss => (ss.lookup name).getD dynamic
        | _ => dynamic
      (name, fillFrom part t) :: fillFields source rest

end

end FieldGraph.Config.ValueType
