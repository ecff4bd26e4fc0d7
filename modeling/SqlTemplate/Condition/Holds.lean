import SqlTemplate.Condition.Compare
import SqlTemplate.Scope

/-!
# The truth of a condition

A condition holds or not in a scope, or has a fault there. The parts of a condition are looked at
from the left, and only as far as needed: the second part of an "and" only if the first holds, that
of an "or" only if the first does not.
-/

namespace SqlTemplate

/-- The number of elements or characters of a value; null has none, and there is no answer for the
values of the other types. -/
def Value.size? : Value → Option (Option Nat)
  | .list items => some (some items.length)
  | .string s => some (some s.length)
  | .object properties => some (some properties.length)
  | .null => some none
  | _ => none

/-- A count as a value. -/
def Value.ofCount (n : Nat) : Value :=
  .integer (Int64.ofInt (min n Int64.maxValue.toInt))

/-- The method of a value; null counts as empty. -/
def Method.apply (m : Method) (receiver : Path) (value : Value) : Except ConditionError Value :=
  match value.size? with
  | none => .error (.mismatch (.noMethod m receiver value.typeName))
  | some count? =>
    match m, count? with
    | .size, some n => .ok (.ofCount n)
    | .size, none => .error (.mismatch (.sizeOfNull receiver))
    | .isEmpty, count? => .ok (.bool (count?.getD 0 == 0))
    | .isNotEmpty, count? => .ok (.bool (count?.getD 0 != 0))

namespace Scope

/-- The value of an operand by itself. -/
def operandValue (s : Scope) : Operand → Except ConditionError Value
  | .literal l => l.value
  | .path p => s.resolve p
  | .method receiver m => (s.resolve receiver).bind (m.apply receiver)

/-- The values of the two sides of a comparison. A literal takes the type of the other side, which
is looked at first. -/
def operandValues (s : Scope) : Operand → Operand → Except ConditionError (Value × Value)
  | .literal l, .literal r => do return (← l.value, ← r.value)
  | .literal l, right => do
    let r ← s.operandValue right
    return (← l.valueFor r, r)
  | left, .literal r => do
    let l ← s.operandValue left
    return (l, ← r.valueFor l)
  | left, right => do return (← s.operandValue left, ← s.operandValue right)

/-- The truth value of a condition. -/
def holds (s : Scope) : Expr → Except ConditionError Bool
  | .compare left op right => do
    let (l, r) ← s.operandValues left right
    op.apply l r
  | .and left right => do
    if ← s.holds left then s.holds right else return false
  | .or left right => do
    if ← s.holds left then return true else s.holds right
  | .not inner => do return !(← s.holds inner)
  | .operand o => do
    match ← s.operandValue o with
    | .bool b => return b
    | _ => throw (.notBoolean o)

end Scope

end SqlTemplate
