import SqlTemplate.Value

/-!
# Statements

What an evaluation yields: the text of a statement with a placeholder for each bind, and the
binds in the order of their placeholders, each with the type that the database driver is to give
it.
-/

namespace SqlTemplate

/-- The type that a driver gives to a bind. -/
inductive SqlType where
  /-- Character data. -/
  | string
  /-- A number. -/
  | numeric
  /-- A truth value. -/
  | boolean
  /-- A calendar date. -/
  | date
  /-- A date with a time of day. -/
  | timestamp
  /-- Left to the driver, as for null. -/
  | raw
  deriving DecidableEq, Repr

namespace SqlType

/-- The type that a value is bound as. -/
def ofValue : Value → SqlType
  | .string _ => string
  | .integer _ | .decimal _ => numeric
  | .bool _ => boolean
  | .date _ => date
  | .timestamp _ => timestamp
  | .null | .list _ | .object _ => raw

/-- The type in upper case, as a statement's display gives it. -/
def display : SqlType → String
  | string => "STRING"
  | numeric => "NUMERIC"
  | boolean => "BOOLEAN"
  | date => "DATE"
  | timestamp => "TIMESTAMP"
  | raw => "RAW"

end SqlType

/-- One value handed to the driver. -/
structure Bind where
  /-- The value. -/
  value : Value
  /-- Its type. -/
  sqlType : SqlType
  /-- The path or column that it came from. -/
  source : Option String := none

namespace Bind

/-- A bind of the type that its value has. -/
def ofValue (value : Value) (source : Option String := none) : Bind :=
  ⟨value, SqlType.ofValue value, source⟩

/-- The value and its type, as a statement's display gives them. -/
def display (b : Bind) : String :=
  b.value.display ++ ":" ++ b.sqlType.display

end Bind

/-- A statement with its binds. -/
structure Statement where
  /-- The text, with a placeholder for each bind. -/
  sql : String
  /-- The binds, in the order of their placeholders. -/
  binds : List Bind

namespace Statement

/-- Neither a text nor a bind. -/
def isEmpty (s : Statement) : Bool :=
  s.sql.isEmpty && s.binds.isEmpty

/-- The bound values, in the order of their placeholders. -/
def values (s : Statement) : List Value :=
  s.binds.map Bind.value

/-- The text, followed by a comment that lists the binds, if there are any. -/
def display (s : Statement) : String :=
  if s.binds.isEmpty then s.sql
  else s.sql ++ " -- binds: [" ++ ", ".intercalate (s.binds.map Bind.display) ++ "]"

end Statement

end SqlTemplate
