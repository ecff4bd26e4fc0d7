import SqlTemplate.Config
import SqlTemplate.Decimal.Read
import SqlTemplate.Regex.Valid
import SqlTemplate.Text.Letter

/-!
# Log filters

Which events of a run are logged is given by a text of directives with commas between them. A
directive is a level, or a target that may be followed by a span in brackets and by a level behind
`=`; the target may be missing before a span, and the level may be empty. A span is a name that may
be followed by a field in braces. A field is a name that may be followed by `=` and by a value: a
number or a regular expression. Only whether the directives can be read matters here.
-/

namespace SqlTemplate

/-- What is wrong with a directive. -/
inductive DirectiveFault where
  /-- It does not have the form of one. -/
  | form
  /-- There is no level behind its `=`. -/
  | level
  /-- The value of its field has a fault as a regular expression. -/
  | field (fault : Regex.Fault)
  deriving DecidableEq, Repr

/-- The wording of the fault. -/
def DirectiveFault.message : DirectiveFault → String
  | form => "invalid filter directive"
  | level => "error parsing level filter: expected one of \"off\", \"error\", \"warn\", " ++
    "\"info\", \"debug\", \"trace\", or a number 0-5"
  | field fault => "invalid field filter: " ++ fault.message

namespace LogFilter

/-- A directive as it is given, and its text without the blanks around it. -/
structure Directive where
  /-- The directive with its blanks. -/
  given : List Char
  /-- The directive without them. -/
  text : List Char

namespace Directive

/-- The directive that a text gives. -/
def ofString (s : String) : Directive where
  given := s.toList
  text := Text.trim s.toList

/-- What is taken for the end `rest` of the text: the place is that in the text, but what stands
there is read from the directive with its blanks. -/
def partAt (d : Directive) (rest : List Char) : List Char :=
  d.given.drop (d.text.length - rest.length)

end Directive

/-- The levels, from none to all events. -/
def levels : List String :=
  ["off", "error", "warn", "info", "debug", "trace"]

/-- The text is the name of a level in any case, or its number. -/
def isLevel (text : List Char) : Bool :=
  levels.contains (String.ofList (text.map Char.toLower)) ||
    (count? (String.ofList text)).any (· < levels.length)

/-- The value of a field, up to a further `=`. -/
def fieldValue? (field : List Char) : Option (List Char) :=
  match field.dropWhile (· != '=') with
  | _ :: value => some (value.takeWhile (· != '='))
  | [] => none

/-- The value of the field, if there is one, is a number or a regular expression. -/
def checkValue (field : List Char) : Except DirectiveFault Unit :=
  match fieldValue? field with
  | none => .ok ()
  | some value =>
    if (Decimal.ofText? (String.ofList value)).isSome then .ok ()
    else (Regex.check value).mapError .field

/-- The level behind `=`. -/
def checkLevel (d : Directive) (text : List Char) : Except DirectiveFault Unit :=
  let level := d.partAt text
  if level.isEmpty || isLevel level then .ok () else .error .level

/-- What stands behind the closing bracket of a span. -/
def checkAfterSpan (d : Directive) : List Char → Except DirectiveFault Unit
  | [] => .ok ()
  | '=' :: level => checkLevel d level
  | _ => .error .form

/-- What stands behind the opening brace of a field, which is not empty. -/
def checkField (d : Directive) (text : List Char) : Except DirectiveFault Unit := do
  let field := text.takeWhile (· != '\x7d')
  match text.dropWhile (· != '\x7d') with
  | [] => .error .form
  | _ :: rest =>
    if field.isEmpty then .error .form
    checkValue ((d.partAt text).take field.length)
    match rest with
    | ']' :: rest => checkAfterSpan d rest
    | _ => .error .form

/-- What stands behind the opening bracket of a span. -/
def checkSpan (d : Directive) (text : List Char) : Except DirectiveFault Unit :=
  match text.dropWhile fun c => c != ']' && c != '\x7b' with
  | ']' :: rest => checkAfterSpan d rest
  | '\x7b' :: rest => checkField d rest
  | _ => .error .form

/-- A character that a level or a target may start with. -/
def startsTarget (c : Char) : Bool :=
  Text.isLetter c || Text.isNumeral c || c == '-' || c == ':' || c == '_'

/-- The directive can be read. -/
def check (d : Directive) : Except DirectiveFault Unit :=
  match d.text with
  | [] => .error .form
  | '[' :: rest => checkSpan d rest
  | c :: cs =>
    if startsTarget c then
      match cs.dropWhile fun c => c != '=' && c != '[' with
      -- What is no level is a target, whatever it holds.
      | [] => .ok ()
      | '=' :: level => checkLevel d level
      | _ :: rest => checkSpan d rest
    else .error .form

/-- The directives of a filter that have a fault, each with its fault. -/
def faults (text : String) : List (String × DirectiveFault) :=
  (text.splitOn ",").filterMap fun directive =>
    if directive.isEmpty then none
    else
      match check (.ofString directive) with
      | .ok () => none
      | .error fault => some (directive, fault)

/-- The filter has no fault. -/
def isValid (text : String) : Bool :=
  (faults text).isEmpty

/-- What is said about a filter whose faulty directives are passed over. -/
def notices (text : String) : List String :=
  (faults text).map fun (directive, fault) =>
    "ignoring `" ++ directive ++ "`: " ++ fault.message

end LogFilter

end SqlTemplate
