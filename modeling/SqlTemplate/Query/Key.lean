import SqlTemplate.Value

/-!
# Condition keys

The kinds of condition that a query can put on a column, and what becomes of a further condition of
a kind that the column already has: one with the same value is a duplicate, one with another value
overrides the clause of the first. A condition without a value is ignored.
-/

namespace SqlTemplate

/-- The kinds of condition on a column. -/
inductive ConditionKey where
  /-- The column equals a value. -/
  | equal
  /-- The column differs from a value. -/
  | notEqual
  /-- The column is greater than a value. -/
  | greaterThan
  /-- The column is not less than a value. -/
  | greaterEqual
  /-- The column is less than a value. -/
  | lessThan
  /-- The column is not greater than a value. -/
  | lessEqual
  /-- The column is one of the values of a list. -/
  | inScope
  /-- The column is none of the values of a list. -/
  | notInScope
  /-- The column is null. -/
  | isNull
  /-- The column is not null. -/
  | isNotNull
  /-- The column matches a pattern. -/
  | likeSearch
  deriving DecidableEq, Repr, Inhabited

namespace ConditionKey

/-- Every kind. -/
def all : List ConditionKey :=
  [equal, notEqual, greaterThan, greaterEqual, lessThan, lessEqual, inScope, notInScope, isNull,
    isNotNull, likeSearch]

/-- The name of the kind. -/
def name : ConditionKey → String
  | equal => "equal"
  | notEqual => "notEqual"
  | greaterThan => "greaterThan"
  | greaterEqual => "greaterEqual"
  | lessThan => "lessThan"
  | lessEqual => "lessEqual"
  | inScope => "inScope"
  | notInScope => "notInScope"
  | isNull => "isNull"
  | isNotNull => "isNotNull"
  | likeSearch => "likeSearch"

/-- The kind of a name. -/
def ofName? (name : String) : Option ConditionKey :=
  all.find? fun key => key.name == name

/-- The operator that a clause is written with. -/
def operand : ConditionKey → String
  | equal => "="
  | notEqual => "<>"
  | greaterThan => ">"
  | greaterEqual => ">="
  | lessThan => "<"
  | lessEqual => "<="
  | inScope => "in"
  | notInScope => "not in"
  | isNull => "is null"
  | isNotNull => "is not null"
  | likeSearch => "like"

/-- The column is compared with a value. -/
def takesValue : ConditionKey → Bool
  | isNull | isNotNull => false
  | _ => true

/-- The value is a list. -/
def takesList : ConditionKey → Bool
  | inScope | notInScope => true
  | _ => false

/-- The value puts no condition on a column. -/
def ignores (key : ConditionKey) : Value → Bool
  | .null => true
  | .list items => key.takesList && items.isEmpty
  | .string s => key == likeSearch && s.isEmpty
  | _ => false

end ConditionKey

/-- What registering a condition does. -/
inductive Decision where
  /-- Nothing, since there is no value. -/
  | ignore
  /-- Nothing, since the condition is there already. -/
  | duplicate
  /-- The clause at this place is written anew. -/
  | override (location : Nat)
  /-- A clause is added. -/
  | emit
  deriving DecidableEq, Repr

/-- The condition that a column has of one kind. -/
structure FixedCondition where
  /-- Its value. -/
  value : Value
  /-- The place of its clause. -/
  location : Nat

/-- The conditions of one column. -/
structure ColumnState where
  /-- The condition of each kind. -/
  fixed : ConditionKey → Option FixedCondition := fun _ => none
  /-- How many duplicates of each kind were registered. -/
  notices : ConditionKey → Nat := fun _ => 0

namespace ColumnState

/-- Sets the first condition of a kind. -/
def setFixed (s : ColumnState) (key : ConditionKey) (value : Value) (location : Nat) :
    ColumnState :=
  { s with fixed := fun k => if k = key then some ⟨value, location⟩ else s.fixed k }

/-- Replaces the value of a condition; its clause keeps its place. -/
def overrideFixed (s : ColumnState) (key : ConditionKey) (value : Value) : ColumnState :=
  { s with fixed := fun k =>
      if k = key then (s.fixed k).map fun old => { old with value } else s.fixed k }

/-- Counts one more duplicate. -/
def noteDuplicate (s : ColumnState) (key : ConditionKey) : ColumnState :=
  { s with notices := fun k => if k = key then s.notices k + 1 else s.notices k }

/-- A condition that is recorded is found under its kind, and those of other kinds stay. -/
@[simp] theorem fixed_setFixed (s : ColumnState) (key k : ConditionKey) (value : Value)
    (location : Nat) :
    (s.setFixed key value location).fixed k =
      if k = key then some ⟨value, location⟩ else s.fixed k := rfl

/-- A condition that is overridden keeps its location. -/
@[simp] theorem fixed_overrideFixed (s : ColumnState) (key k : ConditionKey) (value : Value) :
    (s.overrideFixed key value).fixed k =
      if k = key then (s.fixed k).map fun old => { old with value } else s.fixed k := rfl

/-- A duplicate changes no recorded condition. -/
@[simp] theorem fixed_noteDuplicate (s : ColumnState) (key : ConditionKey) :
    (s.noteDuplicate key).fixed = s.fixed := rfl

end ColumnState

/-- What registering a condition does to a column in a state. -/
def ConditionKey.decide (key : ConditionKey) (s : ColumnState) (value : Value) : Decision :=
  if !key.takesValue then if (s.fixed key).isSome then .duplicate else .emit
  else if key.ignores value then .ignore
  else
    match s.fixed key with
    | some fixed => if fixed.value.same value then .duplicate else .override fixed.location
    | none => .emit

end SqlTemplate
