import FieldGraph.Config.Problem
import FieldGraph.Config.Value.Convert

/-!
# Parts of values

Parts are taken by name from objects and maps and by key from those and from sequences. What is
not known has parts that are not known; the types are checked all the same.
-/

namespace FieldGraph.Config.Value

/-- The named part of a value. Names are compared in their composed spelling. -/
def member (v : Value) (name : String) : Except Problem Value :=
  let key := Text.compose name
  match v, v.type with
  | null _, _ => .error .attributeOfNull
  | v, .object types =>
      match v, types.lookup key with
      | _, none => .error (.attributeMissing name)
      | object fields, some _ => .ok ((fields.lookup key).getD anything)
      | _, some t => .ok (ofType t)
  | map _ fields, _ =>
      match fields.lookup key with
      | some part => .ok part
      | none => .error (.elementMissing name)
  | _, .map element => .ok (ofType element)
  | _, .dynamic => .ok anything
  | _, .list (.object types) =>
      .error (.attributeOfList (if (types.lookup key).isSome then some name else none))
  | _, .primitive p => .error (.attributeOfPrimitive p.name)
  | _, _ => .error .attributeOfOther

/-- Start of what is said about an index that selects nothing. -/
def noElement : String := "The given key does not identify an element in this collection value"

/-- Why a number does not select an item of a sequence. -/
def indexFault (length : Nat) (n : Number) : String :=
  if !n.isWhole then
    noElement ++ ": indexing a sequence requires a whole number, but the given index has a " ++
      "fractional part."
  else if n.less (Number.ofNat 0) then
    noElement ++ ": a negative number is not a valid index for a sequence."
  else if !(Number.ofNat length).less n then
    if length = 0 then noElement ++ ": the collection has no elements."
    else noElement ++ ": the given index is greater than or equal to the length of the collection."
  else noElement ++ "."

/-- A key as one of a type. -/
def keyOf (target : Primitive) (key : Value) : Except Problem Value :=
  match key.convert (.primitive target) with
  | .ok key => .ok key
  | .error reason => .error (.index (noElement ++ ": " ++ reason ++ "."))

/-- The item of a row that a number selects. -/
def itemAt {α : Type} (items : List α) (n : Number) : Except Problem α :=
  match (n.toNat? items.length).bind fun i => items[i]? with
  | some item => .ok item
  | none => .error (.index (indexFault items.length n))

/-- The part of a value that a key selects. -/
def element (v key : Value) : Except Problem Value :=
  match v, key with
  | null _, _ => .error .indexOfNull
  | _, null _ => .error (.index "Can't use a null value as an indexing key.")
  | v, key =>
      if v.type.isDynamic || key.type.isDynamic then .ok anything
      else match v, v.type with
        | v, .tuple types => do
            match ← keyOf .number key, v with
            | number n, tuple items => itemAt items n
            | number n, _ => return ofType (← itemAt types n)
            | _, _ => return anything
        | v, .list type => do
            match ← keyOf .number key, v with
            | number n, list _ items => itemAt items n
            | _, _ => return ofType type
        | v, .map type => do
            match ← keyOf .text key, v with
            | text name, map _ fields =>
                match fields.lookup name with
                | some part => return part
                | none => .error (.index (noElement ++ "."))
            | _, _ => return ofType type
        | v, .object types => do
            match ← keyOf .text key with
            | text name =>
                match v, types.lookup name, key.type with
                | object fields, some _, _ => return (fields.lookup name).getD anything
                | _, some type, _ => return ofType type
                | _, none, .primitive .number =>
                    .error (.index (noElement ++ ". An object only supports looking up " ++
                      "attributes by name, not by numeric index."))
                | _, none, _ => .error (.index (noElement ++ "."))
            | _ => return anything
        | _, _ => .error (.index "This value does not have any indices.")

end FieldGraph.Config.Value
