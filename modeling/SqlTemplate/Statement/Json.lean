import SqlTemplate.Json.Record
import SqlTemplate.Statement
import SqlTemplate.Value.Json

/-!
# Statements in JSON

A statement is written as a record of its text and its binds, and a bind as a record of its value,
its type and its source, which is left out if there is none.
-/

namespace SqlTemplate

open Json (Decoder Field ReadError)

namespace SqlType

/-- The types by their names. -/
def names : List (String × SqlType) :=
  [("string", string), ("numeric", numeric), ("boolean", boolean), ("date", date),
    ("timestamp", timestamp), ("raw", raw)]

/-- The name of the type. -/
def name : SqlType → String
  | string => "string"
  | numeric => "numeric"
  | boolean => "boolean"
  | date => "date"
  | timestamp => "timestamp"
  | raw => "raw"

/-- Takes a type. -/
def decoder : Decoder SqlType :=
  Decoder.variant names

end SqlType

namespace Bind

/-- The bind in JSON. -/
def toJson (b : Bind) : Json :=
  .object <|
    ("value", b.value.toJson) :: ("sqlType", .string b.sqlType.name) ::
      match b.source with
      | some source => [("source", .string source)]
      | none => []

/-- A bind as far as it has been read. -/
structure Part where
  /-- The value. -/
  value : Option Value := none
  /-- Its type. -/
  sqlType : Option SqlType := none
  /-- Its source, which may be null. -/
  source : Option (Option String) := none

/-- The bind of a part that has its value and its type. -/
def Part.toBind (p : Part) : Except ReadError Bind := do
  return ⟨← Json.required "value" p.value, ← Json.required "sqlType" p.sqlType, p.source.getD none⟩

/-- Takes a bind. -/
def decoder : Decoder Bind :=
  Decoder.record "struct BoundValue"
    [ Field.of "value" Value.decoder Part.value fun p value => { p with value := some value },
      Field.of "sqlType" SqlType.decoder Part.sqlType fun p t => { p with sqlType := some t },
      Field.of "source" Decoder.string.optional Part.source
        (fun p source => { p with source := some source }) true ]
    {} Part.toBind

end Bind

namespace Statement

/-- The members of the statement in JSON. -/
def jsonMembers (s : Statement) : List (String × Json) :=
  [("sql", .string s.sql), ("boundValues", .array (s.binds.map Bind.toJson))]

/-- The statement in JSON. -/
def toJson (s : Statement) : Json :=
  .object s.jsonMembers

/-- A statement as far as it has been read. -/
structure Part where
  /-- The text. -/
  sql : Option String := none
  /-- The binds. -/
  binds : Option (List Bind) := none

/-- The statement of a part that has every field. -/
def Part.toStatement (p : Part) : Except ReadError Statement := do
  return ⟨← Json.required "sql" p.sql, ← Json.required "boundValues" p.binds⟩

/-- Takes a statement. -/
def decoder : Decoder Statement :=
  Decoder.record "struct BoundSql"
    [ Field.of "sql" Decoder.string Part.sql fun p sql => { p with sql := some sql },
      Field.of "boundValues" Bind.decoder.list Part.binds
        fun p binds => { p with binds := some binds } ]
    {} Part.toStatement

end Statement

end SqlTemplate
