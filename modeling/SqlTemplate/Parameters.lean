import SqlTemplate.Value

/-!
# Parameter objects

The object that a template is evaluated against: its properties, and the name of its type, which
messages about a missing property give.
-/

namespace SqlTemplate

/-- A parameter object. -/
structure Parameters where
  /-- The name of its type. -/
  typeName : String := "ParameterObject"
  /-- Its properties, in increasing order of their names. -/
  properties : Properties := []

namespace Parameters

/-- The property of a name. -/
def get? (p : Parameters) (name : String) : Option Value :=
  NameMap.get? name p.properties

/-- Sets a property, over an earlier one of that name. -/
def set (p : Parameters) (name : String) (value : Value) : Parameters :=
  { p with properties := NameMap.set name value p.properties }

end Parameters

end SqlTemplate
