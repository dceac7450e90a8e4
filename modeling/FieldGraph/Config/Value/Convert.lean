import FieldGraph.Config.Value.Basic
import FieldGraph.Config.ValueType.Unify

/-!
# Conversion of values

A value converts to another type part by part. Null and what is not known stay so, as values of
the other type. Text is read as a number or a truth value, which may fail, and a map may lack what
an object needs; whether any conversion is possible is told by the types alone. The items of a list
have one type, which may be left open until they are converted; then they may turn out to differ.
-/

namespace FieldGraph.Config.Value

/-- A truth value as text. -/
def boolText (b : Bool) : String := if b then "true" else "false"

/-- The truth value that a text denotes. Other letter cases are refused with a hint. -/
def readBool (s : String) : Except String Bool :=
  if s = "true" ∨ s = "1" then .ok true
  else if s = "false" ∨ s = "0" then .ok false
  else
    let lower := s.toLower
    if lower = "true" ∨ lower = "false" then
      .error ("a bool is required; to convert from string, use lowercase \"" ++ lower ++ "\"")
    else .error "a bool is required"

/-- A value without parts as one of another type without parts. -/
def convertPrimitive (target : Primitive) (v : Value) : Except String Value :=
  match target, v with
  | .text, bool b => .ok (text (boolText b))
  | .text, number n => .ok (text n.text)
  | .number, text s =>
      match Number.read? s.toList with
      | some n => .ok (number n)
      | none => .error "a number is required"
  | .bool, text s => (readBool s).map bool
  | _, v => .ok v

/-- What is known of a value of a type after its conversion. Items stay as many as they are. -/
def convertUnknown (source : ValueType) (limits : Limits) (target : ValueType) : Value :=
  let type := source.fillFrom target
  let kept : Limits := { notNull := limits.notNull }
  match source, type with
  | .tuple parts, .list _ =>
      within type { kept with least := parts.length, most := some parts.length }
  | .object parts, .map _ =>
      within type { kept with least := parts.length, most := some parts.length }
  | .list _, .list _ | .map _, .map _ =>
      within type { kept with least := limits.least, most := limits.most }
  | _, _ => within type kept

/-- The type of the items of a list: the first that is not left open. -/
def itemType (items : List Value) : ValueType :=
  ((typeItems items).find? (!·.isDynamic)).getD .dynamic

/-- An item of a list whose items have some type. -/
def asItem (element : ValueType) : Value → Value
  | null .dynamic => null element
  | unknown .dynamic _ => ofType element
  | v => v

/-- The items of a list with their type, unless their types differ. -/
def uniform? (items : List Value) : Option (ValueType × List Value) :=
  let element := itemType items
  if (typeItems items).all fun t => t.isDynamic || t.same element then
    some (element, items.map (asItem element))
  else none

/-- The items of a list with their type, or why the parts of a value make no collection. -/
def uniform (part collection : String) (items : List Value) :
    Except String (ValueType × List Value) :=
  match uniform? items with
  | some found => .ok found
  | none => .error (part ++ " types must all match for conversion to " ++ collection)

/-- Convert values to the type that they have in common. -/
def unifyItems (sure : Bool) (convert : ValueType → Value → Except String Value)
    (items : List Value) : Except String (List Value) :=
  match ValueType.common? sure (typeItems items) with
  | some type => items.mapM (convert type)
  | none => .error "cannot find a common base type for all elements"

/-- Whether values of a type are collections or objects. -/
def isGathered : ValueType → Bool
  | .list _ | .map _ | .object _ => true
  | _ => false

/-- Convert a value to a type to which its own type converts, in so many levels. -/
def convertParts : (depth : Nat) → ValueType → Value → Except String Value
  | 0, _, v => .ok v
  | depth + 1, target, v =>
      if target.isDynamic || v.type.same target then .ok v
      else match target, v with
        | target, null source => .ok (null (source.fillFrom target))
        | target, unknown source limits => .ok (convertUnknown source limits target)
        | .primitive p, v => convertPrimitive p v
        | .list element, list own items => do
            if items.isEmpty then return list (if element.isDynamic then own else element) []
            let items ← items.mapM (convertParts depth element)
            let (element, items) ← uniform "element" "list" items
            return list element items
        | .list element, tuple items => do
            if items.isEmpty then return list element []
            let element := (ValueType.listElement? (typeItems items) element).getD element
            let items ← items.mapM (convertParts depth element)
            let items ← unifyItems false (convertParts depth) items
            let (element, items) ← uniform "element" "list" items
            return list element items
        | .map element, map own fields => do
            if fields.isEmpty then return map (if element.isDynamic then own else element) []
            let items ← (fields.map (·.2)).mapM (convertParts depth element)
            let items ←
              if isGathered element then unifyItems true (convertParts depth) items
              else pure items
            let (element, items) ← uniform "element" "map" items
            return map element ((fields.map (·.1)).zip items)
        | .map element, object fields => do
            if fields.isEmpty then return map element []
            let items := fields.map (·.2)
            let element := (ValueType.mapElement? (typeItems items) element).getD element
            let items ← items.mapM (convertParts depth element)
            let items ←
              if isGathered element then unifyItems false (convertParts depth) items
              else pure items
            let (element, items) ← uniform "attribute" "map" items
            return map element ((fields.map (·.1)).zip items)
        | .tuple types, tuple items => do
            let items ← (types.zip items).mapM fun (t, item) => convertParts depth t item
            return tuple items
        | .object types, object fields | .object types, map _ fields => do
            let wanted := fields.filterMap fun (name, part) =>
              (types.lookup name).map fun t => (name, t, part)
            let parts ← wanted.mapM fun (name, t, part) => do
              let part ← convertParts depth t part
              return (name, part)
            match types.find? fun (name, _) => (parts.lookup name).isNone with
            | some (name, _) =>
                .error ("map has no element for required attribute " ++ Text.quote name)
            | none => return object parts
        | _, v => .ok v

/-- Why a value has no counterpart of a type. -/
def mismatch (target : ValueType) (v : Value) : String :=
  target.name ++ " required, but have " ++ v.type.name

/-- A value as one of another type. -/
def convert (target : ValueType) (v : Value) : Except String Value :=
  if v.type.convertsTo target then convertParts (v.type.size + target.size) target v
  else .error (v.mismatch target)

/-- The text of a value. -/
def toText (v : Value) : Except String Value := v.convert .text

/-- The number of a value; text is read. -/
def toNumber (v : Value) : Except String Value := v.convert .number

/-- The truth value of a value; text is read. -/
def toBool (v : Value) : Except String Value := v.convert .bool

end FieldGraph.Config.Value
