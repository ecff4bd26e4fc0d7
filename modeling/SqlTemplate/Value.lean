import SqlTemplate.Calendar.Text
import SqlTemplate.Decimal.Layout
import SqlTemplate.NameMap

/-!
# Parameter values

A value is what a template's variables stand for: null, a scalar, a list or an object. An object
is the map of its properties by name, in increasing order of their names, which `Value.Ordered`
states at every depth. Equality of values (`Value.same`) compares numbers of one kind only, and
compares decimals as floating-point numbers, so that "not a number" differs from itself and the
two zeros agree.
-/

namespace SqlTemplate

/-- A parameter value. -/
inductive Value where
  /-- Absent, or null on purpose. -/
  | null
  /-- A truth value. -/
  | bool (b : Bool)
  /-- A whole number. -/
  | integer (n : Int64)
  /-- A fractional number. -/
  | decimal (x : Float)
  /-- A text. -/
  | string (s : String)
  /-- A calendar date. -/
  | date (d : Date)
  /-- A date with a time of day. -/
  | timestamp (t : Timestamp)
  /-- A list of values. -/
  | list (items : List Value)
  /-- Named properties. -/
  | object (properties : List (String × Value))
  deriving Inhabited

/-- The properties of an object, or those of a parameter object. -/
abbrev Properties := NameMap Value

namespace Value

/-- The name of the value's type, as messages give it. -/
def typeName : Value → String
  | null => "Null"
  | bool _ => "Boolean"
  | integer _ => "Integer"
  | decimal _ => "Decimal"
  | string _ => "String"
  | date _ => "Date"
  | timestamp _ => "Timestamp"
  | list _ => "List"
  | object _ => "Object"

/-- The value is null. -/
def isNull : Value → Bool
  | null => true
  | _ => false

/-- The value is a list. -/
def isList : Value → Bool
  | list _ => true
  | _ => false

/-- The value is a number of either kind. -/
def isNumeric : Value → Bool
  | integer _ | decimal _ => true
  | _ => false

/-- The value is a list or an object. -/
def isCompound : Value → Bool
  | list _ | object _ => true
  | _ => false

/-- The text of a string value. -/
def asString? : Value → Option String
  | string s => some s
  | _ => none

/-- The truth value of a boolean value. -/
def asBool? : Value → Option Bool
  | bool b => some b
  | _ => none

/-- The items of a list value. -/
def asList? : Value → Option (List Value)
  | list items => some items
  | _ => none

/-- The properties of an object value. -/
def asObject? : Value → Option Properties
  | object properties => some properties
  | _ => none

/-- The decimal nearest to a whole number, of two equally near the one with the even mantissa. -/
def nearestFloat (n : Int64) : Float :=
  Float.ofModel (Float.Model.ofInt64 n)

/-- The number as a decimal; whole numbers are rounded to the nearest one. -/
def asFloat? : Value → Option Float
  | integer n => some (nearestFloat n)
  | decimal x => some x
  | _ => none

/-- A direct property of an object value. -/
def property? (v : Value) (name : String) : Option Value :=
  v.asObject?.bind (NameMap.get? name)

/-- The separator and the fraction of a timestamp that is displayed. -/
def timestampText (t : Timestamp) : String :=
  t.toText ' ' .millis

/-- The text that a value is displayed as; of a list or an object only the size. -/
def display : Value → String
  | null => "null"
  | bool b => if b then "true" else "false"
  | integer n => toString n.toInt
  | decimal x => Decimal.Layout.plain.render x
  | string s => s
  | date d => d.toText
  | timestamp t => timestampText t
  | list items => "[" ++ toString items.length ++ " items]"
  | object properties => "\x7b" ++ toString properties.length ++ " keys\x7d"

mutual

/-- The two values are of one kind and equal, decimals as floating-point numbers. -/
def same : Value → Value → Bool
  | null, null => true
  | bool a, bool b => a == b
  | integer a, integer b => a == b
  | decimal a, decimal b => a == b
  | string a, string b => a == b
  | date a, date b => a == b
  | timestamp a, timestamp b => a == b
  | list a, list b => sameItems a b
  | object a, object b => sameProperties a b
  | _, _ => false

/-- The two lists agree item by item. -/
def sameItems : List Value → List Value → Bool
  | [], [] => true
  | a :: as, b :: bs => a.same b && sameItems as bs
  | _, _ => false

/-- The two objects agree in names and values. -/
def sameProperties : List (String × Value) → List (String × Value) → Bool
  | [], [] => true
  | (name, a) :: as, (other, b) :: bs => name == other && a.same b && sameProperties as bs
  | _, _ => false

end

/-- Values are compared by `Value.same`. -/
instance : BEq Value := ⟨same⟩

mutual

/-- Every object in the value lists its properties in increasing order of their names. -/
def Ordered : Value → Prop
  | list items => OrderedItems items
  | object properties => NameMap.Sorted properties ∧ OrderedProperties properties
  | _ => True

/-- Every item of the list is ordered. -/
def OrderedItems : List Value → Prop
  | [] => True
  | v :: rest => v.Ordered ∧ OrderedItems rest

/-- Every property of the object is ordered. -/
def OrderedProperties : List (String × Value) → Prop
  | [] => True
  | (_, v) :: rest => v.Ordered ∧ OrderedProperties rest

end

end Value

end SqlTemplate
