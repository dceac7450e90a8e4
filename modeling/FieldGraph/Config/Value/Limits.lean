import FieldGraph.Config.Number.Written

/-!
# What is known of values

Of a value that is not known, more than its type may be: that it is not null, how its text starts,
between which numbers it is, how many items it has. With both ends of a range the value may turn out
to be known after all.
-/

namespace FieldGraph.Config

/-- An end of a range of numbers, and whether it belongs to the range. -/
structure Bound where
  number : Number
  included : Bool
  deriving DecidableEq, Repr

namespace Bound

/-- The lower of two lower ends. -/
def lower (a b : Bound) : Bound :=
  if a.number.less b.number then a
  else if b.number.less a.number then b
  else ⟨a.number, a.included || b.included⟩

/-- The upper of two upper ends. -/
def upper (a b : Bound) : Bound :=
  if b.number.less a.number then a
  else if a.number.less b.number then b
  else ⟨a.number, a.included || b.included⟩

/-- Whether a number is not below a lower end. -/
def atLeast (low : Bound) (n : Number) : Bool :=
  low.number.less n || low.included && low.number.same n

/-- Whether a number is not above an upper end. -/
def atMost (high : Bound) (n : Number) : Bool :=
  n.less high.number || high.included && high.number.same n

end Bound

/-- What is known of a value besides its type. -/
structure Limits where
  /-- Whether the value is surely not null. -/
  notNull : Bool := false
  /-- What its text starts with. -/
  start : String := ""
  /-- The lower end of its range as a number. -/
  low : Option Bound := none
  /-- The upper end of its range as a number. -/
  high : Option Bound := none
  /-- The fewest items it may have. -/
  least : Nat := 0
  /-- The most items it may have. -/
  most : Option Nat := none
  deriving DecidableEq, Repr

namespace Limits

/-- No more than that the value is not null. -/
def present : Limits := { notNull := true }

/-- The limits of a value with so many items. -/
def ofLength (length : Nat) : Limits :=
  { notNull := true, least := length, most := some length }

/-- The limits of a number. -/
def ofNumber (n : Number) : Limits :=
  { notNull := true, low := some ⟨n, true⟩, high := some ⟨n, true⟩ }

/-- The common value of two ends, if there are both. -/
def hull {α : Type} (join : α → α → α) : Option α → Option α → Option α
  | some a, some b => some (join a b)
  | _, _ => none

/-- What is known of a value that is one of two, apart from its text. -/
def either (a b : Limits) : Limits :=
  { notNull := a.notNull && b.notNull
    low := hull Bound.lower a.low b.low
    high := hull Bound.upper a.high b.high
    least := min a.least b.least
    most := hull max a.most b.most }

/-- Whether a number is within the limits. -/
def admitsNumber (limits : Limits) (n : Number) : Bool :=
  limits.low.all (·.atLeast n) && limits.high.all (·.atMost n)

/-- Whether a number of items is within the limits. -/
def admitsLength (limits : Limits) (length : Nat) : Bool :=
  limits.least ≤ length && limits.most.all (length ≤ ·)

/-- The number that lies within the limits, if it is the only one. -/
def onlyNumber? (limits : Limits) : Option Number :=
  match limits.low, limits.high with
  | some low, some high =>
      if low.included && high.included && low.number.same high.number then some low.number
      else none
  | _, _ => none

/-- The number of items, if it is the only one within the limits. -/
def onlyLength? (limits : Limits) : Option Nat :=
  if limits.most = some limits.least then some limits.least else none

/-- Whether all numbers within some limits are less than all those within others, or none are. The
ends count as outside. -/
def less? (a b : Limits) : Option Bool :=
  let isLess (high low : Option Bound) : Bool :=
    match high, low with
    | some high, some low => high.number.less low.number
    | _, _ => false
  if isLess a.high b.low then some true
  else if isLess b.high a.low then some false
  else none

end Limits

end FieldGraph.Config
