import FieldGraph.Text.Quoted

/-!
# Types of values

Text, numbers and truth values have no parts. Lists and maps hold values of one type, tuples and
objects hold values of any types, which are then part of their own type. The type of a value that
is not known may itself be unknown: such a value is dynamic.
-/

namespace FieldGraph.Config

/-- The types without parts. -/
inductive Primitive where
  | bool
  | number
  | text
  deriving DecidableEq, Repr

/-- How messages name a primitive type. -/
def Primitive.name : Primitive → String
  | bool => "bool"
  | number => "number"
  | text => "string"

/-- The type of a value. -/
inductive ValueType where
  /-- Any type, not known yet. -/
  | dynamic
  | primitive (type : Primitive)
  | list (element : ValueType)
  | map (element : ValueType)
  | tuple (items : List ValueType)
  /-- The types of named parts in the order of their names. -/
  | object (fields : List (String × ValueType))
  deriving Repr

namespace ValueType

instance : Inhabited ValueType := ⟨dynamic⟩

/-- The type of text. -/
abbrev text : ValueType := primitive .text

/-- The type of numbers. -/
abbrev number : ValueType := primitive .number

/-- The type of truth values. -/
abbrev bool : ValueType := primitive .bool

/-- How messages name a type. -/
def name : ValueType → String
  | dynamic => "dynamic"
  | primitive type => type.name
  | list element => "list of " ++ element.name
  | map element => "map of " ++ element.name
  | tuple _ => "tuple"
  | object _ => "object"

mutual

/-- Whether two types are the same. -/
def same : ValueType → ValueType → Bool
  | dynamic, dynamic => true
  | primitive a, primitive b => a == b
  | list a, list b | map a, map b => same a b
  | tuple as, tuple bs => sameItems as bs
  | object as, object bs => sameFields as bs
  | _, _ => false

/-- Whether two rows of types are the same. -/
def sameItems : List ValueType → List ValueType → Bool
  | [], [] => true
  | a :: as, b :: bs => same a b && sameItems as bs
  | _, _ => false

/-- Whether two rows of named types are the same. -/
def sameFields : List (String × ValueType) → List (String × ValueType) → Bool
  | [], [] => true
  | (m, a) :: as, (n, b) :: bs => m == n && same a b && sameFields as bs
  | _, _ => false

end

mutual

/-- How many types a type is made of. -/
def size : ValueType → Nat
  | dynamic | primitive _ => 1
  | list element | map element => 1 + size element
  | tuple items => 1 + sizeItems items
  | object fields => 1 + sizeFields fields

/-- How many types a row is made of. -/
def sizeItems : List ValueType → Nat
  | [] => 0
  | t :: rest => size t + sizeItems rest

/-- How many types a row of named types is made of. -/
def sizeFields : List (String × ValueType) → Nat
  | [] => 0
  | (_, t) :: rest => size t + sizeFields rest

end

/-- Whether a type is dynamic. -/
def isDynamic : ValueType → Bool
  | dynamic => true
  | _ => false

/-- Whether values are lists. -/
def isList : ValueType → Bool
  | list _ => true
  | _ => false

/-- Whether values are maps. -/
def isMap : ValueType → Bool
  | map _ => true
  | _ => false

/-- Whether values are tuples. -/
def isTuple : ValueType → Bool
  | tuple _ => true
  | _ => false

/-- Whether values are objects. -/
def isObject : ValueType → Bool
  | object _ => true
  | _ => false

/-- Whether values are sequences: lists or tuples. -/
def isSequence (t : ValueType) : Bool := t.isList || t.isTuple

/-- Whether values have entries to go over. -/
def isIterable (t : ValueType) : Bool := t.isSequence || t.isMap || t.isObject

/-- The types of the parts of a type. -/
def parts : ValueType → List ValueType
  | dynamic | primitive _ => []
  | list element | map element => [element]
  | tuple items => items
  | object fields => fields.map (·.2)

mutual

/-- Whether a type or a part of it is dynamic. -/
def hasDynamic : ValueType → Bool
  | dynamic => true
  | primitive _ => false
  | list element | map element => hasDynamic element
  | tuple items => anyDynamic items
  | object fields => anyFieldDynamic fields

/-- Whether a type of a row, or a part of one, is dynamic. -/
def anyDynamic : List ValueType → Bool
  | [] => false
  | t :: rest => hasDynamic t || anyDynamic rest

/-- Whether a type of a row of named types, or a part of one, is dynamic. -/
def anyFieldDynamic : List (String × ValueType) → Bool
  | [] => false
  | (_, t) :: rest => hasDynamic t || anyFieldDynamic rest

end

mutual

/-- Whether a type is another one up to parts which that leaves open. -/
def conforms : (type pattern : ValueType) → Bool
  | _, dynamic => true
  | primitive a, primitive b => a == b
  | list a, list b | map a, map b => conforms a b
  | tuple as, tuple bs => conformItems as bs
  | object as, object bs => conformFields as bs
  | _, _ => false

/-- Whether a row of types is another one up to parts which that leaves open. -/
def conformItems : List ValueType → List ValueType → Bool
  | [], [] => true
  | a :: as, b :: bs => conforms a b && conformItems as bs
  | _, _ => false

/-- Whether a row of named types is another one up to parts which that leaves open. -/
def conformFields : List (String × ValueType) → List (String × ValueType) → Bool
  | [], [] => true
  | (m, a) :: as, (n, b) :: bs => m == n && conforms a b && conformFields as bs
  | _, _ => false

end

/-! ## How two types differ -/

/-- The names of both types, if they tell them apart. -/
def plainDifference (a b : ValueType) : String :=
  if a.name = b.name then
    "At least one deeply-nested attribute or element is not compatible across both the 'true' " ++
      "and the 'false' value"
  else "The 'true' value is " ++ a.name ++ ", but the 'false' value is " ++ b.name

mutual

/-- How the types of the branches of a conditional differ. -/
def difference : (whenTrue whenFalse : ValueType) → String
  | object as, object bs =>
      match fieldDifference bs as with
      | some text => text
      | none =>
          match bs.find? fun (name, _) => (as.lookup name).isNone with
          | some (name, _) =>
              "The 'false' value includes object attribute " ++ Text.quote name ++
                ", which is absent in the 'true' value"
          | none => plainDifference (object as) (object bs)
  | tuple as, tuple bs =>
      if as.length ≠ bs.length then
        "The 'true' tuple has length " ++ toString as.length ++
          ", but the 'false' tuple has length " ++ toString bs.length
      else (itemDifference 0 as bs).getD (plainDifference (tuple as) (tuple bs))
  | list a, list b =>
      if a.isObject && b.isObject || a.isTuple && b.isTuple then
        "Mismatched list element types: " ++ difference a b
      else plainDifference (list a) (list b)
  | map a, map b =>
      if a.isObject && b.isObject || a.isTuple && b.isTuple then
        "Mismatched map element types: " ++ difference a b
      else plainDifference (map a) (map b)
  | a, b => plainDifference a b

/-- The first of some named parts that is absent or different among others. -/
def fieldDifference (others : List (String × ValueType)) :
    List (String × ValueType) → Option String
  | [] => none
  | (name, a) :: rest =>
      match others.lookup name with
      | none =>
          some ("The 'true' value includes object attribute " ++ Text.quote name ++
            ", which is absent in the 'false' value")
      | some b =>
          if a.same b then fieldDifference others rest
          else some ("Type mismatch for object attribute " ++ Text.quote name ++ ": " ++
            difference a b)

/-- The first place at which two rows differ. -/
def itemDifference (index : Nat) : List ValueType → List ValueType → Option String
  | a :: as, b :: bs =>
      if a.same b then itemDifference (index + 1) as bs
      else some ("Type mismatch for tuple element " ++ toString index ++ ": " ++ difference a b)
  | _, _ => none

end

end ValueType

end FieldGraph.Config
