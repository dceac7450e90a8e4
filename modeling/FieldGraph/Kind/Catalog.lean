import FieldGraph.Kind.Draft

/-!
# Catalogs

A catalog holds registered kinds in strictly increasing order of their identities. A draft is
registered only if it has no faults and its identity is still free; a refused draft leaves the
catalog as it was.
-/

namespace FieldGraph

/-- The kinds nodes can be made of. -/
structure Catalog where
  /-- Registered kinds, ascending by identity. -/
  kinds : List Kind := []

namespace Catalog

/-- No kinds at all. -/
def empty : Catalog := {}

/-- Why a draft was not registered. -/
inductive Refusal where
  /-- The draft is inconsistent. -/
  | faulty (id : String) (faults : List Draft.Fault)
  /-- Its identity is taken. -/
  | taken (id : String)

/-- The text of a refusal, one fault a line. -/
def Refusal.message : Refusal → String
  | faulty id faults => "\n".intercalate (faults.map (·.message id))
  | taken id => "operator kind " ++ Text.quote id ++ " already registered"

/-- The kind registered under an identity. -/
def find? (c : Catalog) (id : String) : Option Kind := c.kinds.find? (·.id == id)

/-- Insert a kind before the first kind with a larger identity. -/
def insertOrdered (k : Kind) : List Kind → List Kind
  | [] => [k]
  | other :: rest => if k.id < other.id then k :: other :: rest else other :: insertOrdered k rest

/-- Register a draft. Faults are reported before a taken identity. -/
def register (c : Catalog) (d : Draft) : Except Refusal Catalog :=
  match d.toKind with
  | .error faults => .error (.faulty d.id faults)
  | .ok kind =>
      if (c.find? kind.id).isSome then .error (.taken d.id)
      else .ok ⟨insertOrdered kind c.kinds⟩

/-- Register a draft if possible. -/
def extend (c : Catalog) (d : Draft) : Catalog :=
  match c.register d with
  | .ok extended => extended
  | .error _ => c

/-- The registered identities in ascending order. -/
def ids (c : Catalog) : List String := c.kinds.map (·.id)

end Catalog

end FieldGraph
