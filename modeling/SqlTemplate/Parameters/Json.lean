import SqlTemplate.Json.Record
import SqlTemplate.Parameters
import SqlTemplate.Value.Json

/-!
# Parameter objects in JSON

A parameter object is written as a record of its type name and its properties. It can also be made
of an object that holds its properties alone, with a type name given beside it.
-/

namespace SqlTemplate.Parameters

open Json (Decoder Field ReadError)

/-- The parameter object in JSON. -/
def toJson (p : Parameters) : Json :=
  .object [("typeName", .string p.typeName), ("properties", p.properties.toJson)]

/-- A parameter object as far as it has been read. -/
structure Part where
  /-- The name of its type. -/
  typeName : Option String := none
  /-- Its properties. -/
  properties : Option Properties := none

/-- The parameter object of a part that has every field. -/
def Part.toParameters (p : Part) : Except ReadError Parameters := do
  return ⟨← Json.required "typeName" p.typeName, ← Json.required "properties" p.properties⟩

/-- Takes a parameter object. -/
def decoder : Decoder Parameters :=
  Decoder.record "struct ParameterObject"
    [ Field.of "typeName" Decoder.string Part.typeName fun p s => { p with typeName := some s },
      Field.of "properties" Properties.decoder Part.properties
        fun p properties => { p with properties := some properties } ]
    {} Part.toParameters

/-- The parameter object whose properties a text spells. -/
def ofJsonText (typeName text : String) : Except ReadError Parameters := do
  return ⟨typeName, ← Decoder.read Properties.decoder text⟩

end SqlTemplate.Parameters
