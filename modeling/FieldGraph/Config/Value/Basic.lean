import FieldGraph.Config.Value.Limits
import FieldGraph.Config.ValueType.Basic
import FieldGraph.Text.Normal.Basic

/-!
# Values of the scene language

Expressions denote values. Each has a type: lists and maps keep the type of their elements, since
they may have none, and so do values that are null or not known. What is not known may still have
limits. Text is kept in its composed spelling, names of parts too, so that equal texts are the same.
-/

namespace FieldGraph.Config

/-- What an expression denotes. -/
inductive Value where
  | null (type : ValueType)
  /-- A value that is not known, for instance after an error, and what is known of it. -/
  | unknown (type : ValueType) (limits : Limits)
  | bool (value : Bool)
  | number (value : Number)
  | text (value : String)
  | list (element : ValueType) (items : List Value)
  /-- Values of one type by their keys, in the order of the keys. -/
  | map (element : ValueType) (fields : List (String × Value))
  | tuple (items : List Value)
  /-- Named values in the order of their names. -/
  | object (fields : List (String × Value))
  deriving Repr

namespace Value

/-- A value of which only the type is known. -/
abbrev ofType (type : ValueType) : Value := unknown type {}

/-- The value of which nothing is known. -/
abbrev anything : Value := ofType .dynamic

/-- Nothing, of any type. -/
abbrev nothing : Value := null .dynamic

instance : Inhabited Value := ⟨nothing⟩

/-- Text in its composed spelling. -/
def ofText (s : String) : Value := text (Text.compose s)

mutual

/-- The type of a value. -/
def type : Value → ValueType
  | null t | unknown t _ => t
  | bool _ => .bool
  | number _ => .number
  | text _ => .text
  | list element _ => .list element
  | map element _ => .map element
  | tuple items => .tuple (typeItems items)
  | object fields => .object (typeFields fields)

/-- The types of a row of values. -/
def typeItems : List Value → List ValueType
  | [] => []
  | v :: rest => type v :: typeItems rest

/-- The types of a row of named values. -/
def typeFields : List (String × Value) → List (String × ValueType)
  | [] => []
  | (name, v) :: rest => (name, type v) :: typeFields rest

end

/-- Whether a value is known; its parts may still be unknown. -/
def isKnown : Value → Bool
  | unknown _ _ => false
  | _ => true

/-- Whether a value is null. -/
def isNull : Value → Bool
  | null _ => true
  | _ => false

/-- What is known of a value besides its type. -/
def limits : Value → Limits
  | unknown _ limits => limits
  | null _ => {}
  | number n => .ofNumber n
  | text s => { notNull := true, start := s }
  | list _ items => .ofLength items.length
  | map _ fields => .ofLength fields.length
  | bool _ | tuple _ | object _ => .present

/-- A value of a type within some limits. It is known if they leave only one, or for a list only one
length; of a dynamic type nothing is known. -/
def within (type : ValueType) (limits : Limits) : Value :=
  match type, limits.notNull, limits.onlyNumber?, limits.onlyLength? with
  | .dynamic, _, _, _ => anything
  | .primitive .number, true, some n, _ => number n
  | .list element, true, _, some length => list element (List.replicate length (ofType element))
  | .map element, true, _, some 0 => map element []
  | type, _, _, _ => unknown type limits

/-- A value of a type that is not null. -/
def present (type : ValueType) : Value := within type .present

/-- Put a named value into a row in the order of names, in place of one of the same name. -/
def putField (name : String) (v : Value) : List (String × Value) → List (String × Value)
  | [] => [(name, v)]
  | (n, w) :: rest =>
      if name < n then (name, v) :: (n, w) :: rest
      else if name = n then (name, v) :: rest
      else (n, w) :: putField name v rest

/-- The items of a value with their keys, if it has any. -/
def entries? : Value → Option (List (Value × Value))
  | list _ items | tuple items =>
      some (items.mapIdx fun i item => (number (Number.ofNat i), item))
  | map _ fields | object fields => some (fields.map fun (name, v) => (text name, v))
  | _ => none

end Value

end FieldGraph.Config
