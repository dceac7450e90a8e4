import FieldGraph.Config.Value.Basic

/-!
# Equality of values

Whether two values are equal may depend on what is not known of them. Their types and limits often
tell them apart all the same.
-/

namespace FieldGraph.Config.Value

mutual

/-- Whether the type of a value is known with those of its parts. -/
def isSettled : Value → Bool
  | unknown t _ => !t.hasDynamic
  | list _ items | tuple items => allSettled items
  | map _ fields | object fields => allFieldsSettled fields
  | _ => true

/-- Whether the types of a row of values are known with those of their parts. -/
def allSettled : List Value → Bool
  | [] => true
  | v :: rest => isSettled v && allSettled rest

/-- Whether the types of a row of named values are known with those of their parts. -/
def allFieldsSettled : List (String × Value) → Bool
  | [] => true
  | (_, v) :: rest => isSettled v && allFieldsSettled rest

end

/-- Whether a value that is not null is within some limits. -/
def isWithin (limits : Limits) : Value → Bool
  | number n => limits.admitsNumber n
  | text s => s.startsWith limits.start
  | list _ items => limits.admitsLength items.length
  | map _ fields => limits.admitsLength fields.length
  | _ => true

/-- Whether a value that is not known is equal to one that is, which only its type and limits can
rule out. -/
def equalUnknown? (type : ValueType) (limits : Limits) (v : Value) : Option Bool :=
  if v.isNull then if limits.notNull then some false else none
  else if !v.type.conforms type || !v.isWithin limits then some false
  else if type.hasDynamic || type.same v.type then none
  else some false

/-- Whether two known values are equal, given whether their parts are. Values of different types
are not. -/
def equalByType? (a b : Value) (parts : Option Bool) : Option Bool :=
  if !a.isSettled || !b.isSettled then
    if a.type.conforms b.type || b.type.conforms a.type then none else some false
  else if a.type.same b.type then parts
  else some false

mutual

/-- Whether two values are equal, unless that depends on what is not known. Nulls of all types are
equal. -/
def equal? : Value → Value → Option Bool
  | unknown _ _, unknown _ _ => none
  | unknown type limits, v | v, unknown type limits => equalUnknown? type limits v
  | null _, null _ => some true
  | bool a, bool b => some (a == b)
  | number a, number b => some (a.same b)
  | text a, text b => some (a == b)
  | list s as, list t bs =>
      equalByType? (list s as) (list t bs)
        (if as.length = bs.length then equalItems? as bs else some false)
  | map s as, map t bs =>
      equalByType? (map s as) (map t bs)
        (if as.length = bs.length then equalFields? as bs else some false)
  | tuple as, tuple bs => equalByType? (tuple as) (tuple bs) (equalItems? as bs)
  | object as, object bs => equalByType? (object as) (object bs) (equalFields? as bs)
  | _, _ => some false

/-- Whether two rows of values are equal. The first pair that is not surely equal decides. -/
def equalItems? : List Value → List Value → Option Bool
  | [], [] => some true
  | a :: as, b :: bs =>
      match equal? a b with
      | some true => equalItems? as bs
      | verdict => verdict
  | _, _ => some false

/-- Whether two rows of named values are equal. The first pair that is not surely equal decides. -/
def equalFields? : List (String × Value) → List (String × Value) → Option Bool
  | [], [] => some true
  | (m, a) :: as, (n, b) :: bs =>
      if m = n then
        match equal? a b with
        | some true => equalFields? as bs
        | verdict => verdict
      else some false
  | _, _ => some false

end

end FieldGraph.Config.Value
