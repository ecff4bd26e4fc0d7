import SqlTemplate.Calendar.Text
import SqlTemplate.Json.Tree
import SqlTemplate.Text.Shown

/-!
# Faults of a JSON text

A text that is read as a record can be malformed, of which nothing more is said, or well formed but
of the wrong shape. A message about the shape says what was found and what was expected in its
place.
-/

namespace SqlTemplate.Json

/-- A value at a glance, as messages give it. -/
inductive Shape where
  /-- The word for null. -/
  | null
  /-- A truth value. -/
  | bool (b : Bool)
  /-- A whole number. -/
  | integer (n : Int)
  /-- A floating-point number. -/
  | float (x : Float)
  /-- A string. -/
  | string (s : String)
  /-- An array. -/
  | array
  /-- An object. -/
  | object

/-- A text between backquotes. -/
def ticked (text : String) : String :=
  "`" ++ text ++ "`"

/-- The wording of the value. -/
def Shape.text : Shape → String
  | null => "null"
  | bool b => "boolean " ++ ticked (if b then "true" else "false")
  | integer n => "integer " ++ ticked (toString n)
  | float x => "floating point " ++ ticked (numberLayout.render x)
  | string s => "string " ++ Text.shown s
  | array => "sequence"
  | object => "map"

/-- What is wrong with the shape of a text. -/
inductive ShapeError where
  /-- A value of another type was expected. -/
  | wrongType (found : Shape) (expected : String)
  /-- Another value of this type was expected. -/
  | wrongValue (found : Shape) (expected : String)
  /-- An array has too few or too many items. -/
  | wrongLength (length : Nat) (expected : String)
  /-- No variant has this name. -/
  | unknownVariant (name : String) (names : List String)
  /-- A field is not there. -/
  | missingField (name : String)
  /-- A field is there twice. -/
  | repeatedField (name : String)
  /-- A date or timestamp cannot be read. -/
  | calendar (cause : CalendarError)
  /-- A whole number exceeds the greatest value of an integer. -/
  | tooLarge (n : Int)

/-- The names among which a variant is chosen. -/
def oneOf : List String → String
  | [name] => ticked name
  | [name, other] => ticked name ++ " or " ++ ticked other
  | names => "one of " ++ ", ".intercalate (names.map ticked)

/-- The wording of the fault. -/
def ShapeError.message : ShapeError → String
  | wrongType found expected => "invalid type: " ++ found.text ++ ", expected " ++ expected
  | wrongValue found expected => "invalid value: " ++ found.text ++ ", expected " ++ expected
  | wrongLength length expected =>
    "invalid length " ++ toString length ++ ", expected " ++ expected
  | unknownVariant name names => "unknown variant " ++ ticked name ++ ", expected " ++ oneOf names
  | missingField name => "missing field " ++ ticked name
  | repeatedField name => "duplicate field " ++ ticked name
  | calendar cause => cause.message
  | tooLarge n => "integer " ++ toString n ++ " does not fit in i64"

/-- Why a text cannot be read. -/
inductive ReadError where
  /-- It is no JSON text, or beyond what is read of one. -/
  | malformed
  /-- It has the wrong shape. -/
  | shape (cause : ShapeError)

end SqlTemplate.Json
