import SqlTemplate.Condition.Error
import SqlTemplate.Decimal.Read
import SqlTemplate.Value

/-!
# Comparing values

Two values are compared within their type: texts by code point, whole numbers exactly, numbers of
different kinds as decimals, dates with timestamps as the first moment of the day. Null equals
null alone and every ordering with it is false. Lists and objects can only be told apart from
their like. A literal takes the type of the value that it is compared with.
-/

namespace SqlTemplate

namespace Value

/-- The order of two decimals; "not a number" has none. -/
def compareFloats (x y : Float) : Option Ordering :=
  if x < y then some .lt else if x == y then some .eq else if y < x then some .gt else none

/-- The order of two values of comparable types. -/
def order? : Value → Value → Option Ordering
  | string a, string b => some (compare a b)
  | integer a, integer b => some (compare a.toInt b.toInt)
  | bool a, bool b => some (compare a b)
  | date a, date b => some (a.compare b)
  | timestamp a, timestamp b => some (a.compare b)
  | date a, timestamp b => some ((Timestamp.midnight a).compare b)
  | timestamp a, date b => some (a.compare (Timestamp.midnight b))
  | integer a, decimal y => compareFloats (nearestFloat a) y
  | decimal x, integer b => compareFloats x (nearestFloat b)
  | decimal x, decimal y => compareFloats x y
  | _, _ => none

end Value

/-- The comparison holds of two values in this order. -/
def CompareOp.holds : CompareOp → Ordering → Bool
  | eq, o => o == .eq
  | ne, o => o != .eq
  | lt, o => o == .lt
  | le, o => o != .gt
  | gt, o => o == .gt
  | ge, o => o != .lt

/-- The comparison holds where one of the values is null. -/
def CompareOp.holdsWithNull (op : CompareOp) (bothNull : Bool) : Bool :=
  match op with
  | eq => bothNull
  | ne => !bothNull
  | lt | le | gt | ge => false

/-- The comparison holds of values that have no order: only whether lists or objects are the same
can be asked. -/
def CompareOp.holdsUnordered? (op : CompareOp) (a b : Value) : Option Bool :=
  let alike := match a, b with
    | .list _, .list _ | .object _, .object _ => true
    | _, _ => false
  match op, alike with
  | eq, true => some (a.same b)
  | ne, true => some (!a.same b)
  | _, _ => none

/-- The truth value of a comparison. -/
def CompareOp.apply (op : CompareOp) (a b : Value) : Except ConditionError Bool :=
  if a.isNull || b.isNull then .ok (op.holdsWithNull (a.isNull && b.isNull))
  else
    match a.order? b with
    | some o => .ok (op.holds o)
    | none =>
      match op.holdsUnordered? a b with
      | some holds => .ok holds
      | none => .error (.mismatch (.comparison op a.typeName b.typeName))

/-- The number that a text spells: a whole number if it fits, a decimal otherwise. -/
def numberValue? (text : String) : Option Value :=
  match (Decimal.integer? text).filter fun n =>
      Int64.minValue.toInt ≤ n && n ≤ Int64.maxValue.toInt with
  | some n => some (.integer (Int64.ofInt n))
  | none => (Decimal.ofText? text).map Value.decimal

/-- The timestamp that a text spells, with a blank or a `T` before the time; a date alone stands
for the first moment of the day. -/
def timestampOf? (text : String) : Option Timestamp :=
  (Timestamp.read ' ' text).toOption <|> (Timestamp.read 'T' text).toOption <|>
    ((Date.read text).toOption.map Timestamp.midnight)

namespace Literal

/-- The value of a literal by itself. -/
def value : Literal → Except ConditionError Value
  | null => .ok .null
  | bool b => .ok (.bool b)
  | string s => .ok (.string s)
  | number text =>
    match numberValue? text with
    | some v => .ok v
    | none => .error (.mismatch (.invalidNumber text))

/-- The truth value that a text spells. -/
def boolOf? : String → Option Bool
  | "true" => some true
  | "false" => some false
  | _ => none

/-- The text of a string literal read in the type of the value it is compared with. Where the type
asks for no reading there is none; where the text has no meaning in the type, the inner one is
missing. -/
def reading? (s : String) : Value → Option (Option Value)
  | .integer _ | .decimal _ => some (numberValue? (String.ofList (Text.trim s.toList)))
  | .date _ => some ((Date.read s).toOption.map Value.date)
  | .timestamp _ => some ((timestampOf? s).map Value.timestamp)
  | .bool _ => some ((boolOf? s).map Value.bool)
  | _ => none

/-- The value of a literal that is compared with `target`. -/
def valueFor (l : Literal) (target : Value) : Except ConditionError Value :=
  match l, target with
  | number text, .string _ => .ok (.string text)
  | string s, target =>
    match reading? s target with
    | some (some v) => .ok v
    | some none => .error (.mismatch (.literal l target.typeName))
    | none => l.value
  | _, _ => l.value

end Literal

end SqlTemplate
