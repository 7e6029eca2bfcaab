/-
FullText/Limit.lean

The limit on nested groups.  It is a whole number, and may also be given as a
truth value, which counts as one or zero but is shown as it was given.  A limit
below one leaves no room for groups.
-/
import FullText.Value

namespace FullText

/-- The deepest nesting of groups that a search text may have. -/
inductive Limit where
  | count (n : Int)
  | flag (b : Bool)
deriving DecidableEq

namespace Limit

/-- The limit as a number. -/
def value : Limit → Int
  | count n => n
  | flag b => if b then 1 else 0

/-- How many groups may be open at a time. -/
def room (limit : Limit) : Nat := limit.value.toNat

/-- The limit as plain data. -/
def toValue : Limit → Value
  | count n => .int n
  | flag b => .bool b

/-- The limit that a plain value stands for. -/
def ofValue? : Value → Option Limit
  | .int n => some (count n)
  | .bool b => some (flag b)
  | _ => none

theorem ofValue?_toValue (limit : Limit) : ofValue? limit.toValue = some limit := by
  cases limit <;> rfl

/-- The limit as messages show it. -/
def display (limit : Limit) : String := limit.toValue.display

/-- The limit where none is given. -/
def default : Limit := count 100

end Limit

end FullText
