import SqlTemplate.Dialect
import SqlTemplate.Query.Key
import SqlTemplate.Query.Like
import SqlTemplate.Text.Search

/-!
# Clauses

A registration asks for one condition on one column. It is checked first, since each kind of
condition takes values of certain types only, and it is written as a clause with a `?` for each
bind, which become the placeholders of the dialect once the clause has its place in a statement. A
list that is longer than the dialect's limit is split into groups.
-/

namespace SqlTemplate

/-- A condition asked for. -/
structure Registration where
  /-- The column. -/
  column : String
  /-- The kind of condition. -/
  key : ConditionKey
  /-- The value that the column is compared with. -/
  value : Value := .null
  /-- How a pattern is made of the value, for a like condition. -/
  like : LikeOption := {}

/-- A value of a type that the kind of condition does not take. -/
inductive QueryError where
  /-- A list was required. -/
  | listRequired (column typeName : String)
  /-- A string was required. -/
  | stringRequired (column typeName : String)
  /-- A scalar was required. -/
  | scalarRequired (column : String) (key : ConditionKey) (typeName : String)
  deriving DecidableEq, Repr

/-- The wording of the error. -/
def QueryError.message : QueryError → String
  | listRequired column typeName =>
    "in-scope condition on " ++ column ++ " requires a list but got " ++ typeName
  | stringRequired column typeName =>
    "like-search condition on " ++ column ++ " requires a string but got " ++ typeName
  | scalarRequired column key typeName =>
    key.name ++ " condition on " ++ column ++ " requires a scalar but got " ++ typeName

/-- A condition as it is written. -/
structure Clause where
  /-- The column. -/
  column : String
  /-- The kind of condition. -/
  key : ConditionKey
  /-- The text, with a `?` for each bind. -/
  sql : String
  /-- The binds, in the order of their marks. -/
  binds : List Bind

namespace Registration

/-- The value that is bound: the pattern of a text, and every other value as it is. -/
def boundValue (r : Registration) : Except QueryError Value :=
  match r.key with
  | .isNull | .isNotNull => .ok .null
  | .likeSearch =>
    match r.value with
    | .string s => .ok (.string (if s.isEmpty then s else r.like.apply s))
    | .null => .ok .null
    | other => .error (.stringRequired r.column other.typeName)
  | .inScope | .notInScope =>
    if r.value.isList || r.value.isNull then .ok r.value
    else .error (.listRequired r.column r.value.typeName)
  | key =>
    if r.value.isCompound then .error (.scalarRequired r.column key r.value.typeName)
    else .ok r.value

/-- A bind of the column. -/
def toBind (r : Registration) (value : Value) : Bind :=
  Bind.ofValue value (some r.column)

/-- The sizes of the groups that a list of `count` elements is split into: all but the last of the
greatest size. -/
def groupSizes (limit : Option Nat) (count : Nat) : List Nat :=
  let size := max (limit.getD count) 1
  if count ≤ size then [count]
  else
    List.replicate (count / size) size ++ if count % size = 0 then [] else [count % size]

/-- The clause of one group. -/
def group (r : Registration) (size : Nat) : String :=
  r.column ++ " " ++ r.key.operand ++ " (" ++ ", ".intercalate (List.replicate size "?") ++ ")"

/-- The clause of a list: one group by itself, several in parentheses, of which one must hold, or
all where the list is excluded. -/
def listSql (r : Registration) (limit : Option Nat) (count : Nat) : String :=
  match groupSizes limit count with
  | [size] => r.group size
  | sizes =>
    let joiner := if r.key = .notInScope then " and " else " or "
    "(" ++ joiner.intercalate (sizes.map r.group) ++ ")"

/-- The clause of the condition for the value that is bound. -/
def clause (r : Registration) (limit : Option Nat) (value : Value) : Clause :=
  let of (sql : String) (binds : List Bind) : Clause := ⟨r.column, r.key, sql, binds⟩
  match r.key, value with
  | .isNull, _ | .isNotNull, _ => of (r.column ++ " " ++ r.key.operand) []
  | .likeSearch, value => of (r.like.clause r.column) [r.toBind value]
  | _, .list items => of (r.listSql limit items.length) (items.map r.toBind)
  | key, value => of (r.column ++ " " ++ key.operand ++ " ?") [r.toBind value]

end Registration

/-- The text with the marks of the binds replaced by placeholders, the first of which stands at
`position`; a bind without a mark is left out, and so are those after it. -/
def numberMarks (d : Dialect) : Nat → List Bind → List Char → List Char × List Bind
  | _, [], text => (text, [])
  | position, bind :: rest, text =>
    match Text.splitAtFirst? ['?'] text with
    | none => (text, [])
    | some (before, after) =>
      let (numbered, bound) := numberMarks d (position + 1) rest after
      (before ++ (d.placeholder position).toList ++ numbered, bind :: bound)

/-- The texts of clauses with their placeholders counted on from `position`, and their binds. -/
def numberClauses (d : Dialect) : Nat → List Clause → List String × List Bind
  | _, [] => ([], [])
  | position, clause :: rest =>
    let (text, binds) := numberMarks d position clause.binds clause.sql.toList
    let (texts, more) := numberClauses d (position + binds.length) rest
    (String.ofList text :: texts, binds ++ more)

end SqlTemplate
