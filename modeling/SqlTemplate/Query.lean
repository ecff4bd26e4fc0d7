import SqlTemplate.Query.Clause

/-!
# Condition queries

A query collects conditions on columns and turns them into a where clause. The clauses stand in
the order in which their conditions were first registered; a condition that overrides another one
takes over the place of its clause.
-/

namespace SqlTemplate

/-- The conditions of a query. -/
structure ConditionQuery where
  /-- The dialect of the statement. -/
  dialect : Dialect := {}
  /-- The conditions of each column. -/
  columns : NameMap ColumnState := []
  /-- The clauses, in the order of the statement. -/
  clauses : List Clause := []

namespace ConditionQuery

/-- The state of a column, empty before its first condition. -/
def column (q : ConditionQuery) (name : String) : ColumnState :=
  (NameMap.get? name q.columns).getD {}

/-- Sets the state of a column. -/
def setColumn (q : ConditionQuery) (name : String) (s : ColumnState) : ConditionQuery :=
  { q with columns := NameMap.set name s q.columns }

/-- Carries out a decision on a registration whose bound value is `value`. -/
def carryOut (q : ConditionQuery) (r : Registration) (value : Value) : Decision → ConditionQuery
  | .ignore => q.setColumn r.column (q.column r.column)
  | .duplicate => q.setColumn r.column ((q.column r.column).noteDuplicate r.key)
  | .override location =>
    let q := q.setColumn r.column ((q.column r.column).overrideFixed r.key value)
    { q with clauses := q.clauses.set location (r.clause q.dialect.inListLimit value) }
  | .emit =>
    let location := q.clauses.length
    let q := q.setColumn r.column ((q.column r.column).setFixed r.key value location)
    { q with clauses := q.clauses ++ [r.clause q.dialect.inListLimit value] }

/-- Registers a condition. -/
def register (q : ConditionQuery) (r : Registration) :
    Except QueryError (Decision × ConditionQuery) := do
  let value ← r.boundValue
  let decision := r.key.decide (q.column r.column) value
  return (decision, q.carryOut r value decision)

/-- Forgets every condition. -/
def reset (q : ConditionQuery) : ConditionQuery :=
  { dialect := q.dialect }

/-- The statement of the query: its clauses joined by "and", and nothing at all without clauses. -/
def toStatement (q : ConditionQuery) : Statement :=
  if q.clauses.isEmpty then ⟨"", []⟩
  else
    let (texts, binds) := numberClauses q.dialect 1 q.clauses
    ⟨"where " ++ " and ".intercalate texts, binds⟩

end ConditionQuery

end SqlTemplate
