import SqlTemplate.Condition.Expr

/-!
# Faults of a condition

The tokens of a condition, and what can go wrong between its text and its truth value: a token
that does not fit, a path that leads nowhere, a value of the wrong type. Each fault is a cause
with its data; `ConditionError.message` words it.
-/

namespace SqlTemplate

/-- A token of a condition. -/
inductive ConditionToken where
  /-- A segment of a path or the name of a method. -/
  | identifier (name : String)
  /-- A string literal, without its quotes. -/
  | string (s : String)
  /-- A number literal, as it is written. -/
  | number (text : String)
  /-- A truth value. -/
  | bool (b : Bool)
  /-- The word for null. -/
  | null
  /-- A comparison. -/
  | compare (op : CompareOp)
  /-- Both hold. -/
  | and
  /-- One of the two holds. -/
  | or
  /-- The negation. -/
  | not
  /-- The point of a path. -/
  | dot
  /-- An opening parenthesis. -/
  | leftParen
  /-- A closing parenthesis. -/
  | rightParen
  deriving DecidableEq, Repr

/-- The token as messages give it. -/
def ConditionToken.text : ConditionToken → String
  | identifier name => "identifier '" ++ name ++ "'"
  | string s => "string '" ++ s ++ "'"
  | number text => "number " ++ text
  | bool b => if b then "true" else "false"
  | null => "null"
  | compare op => "'" ++ op.text ++ "'"
  | and => "'&&'"
  | or => "'||'"
  | not => "'!'"
  | dot => "'.'"
  | leftParen => "'('"
  | rightParen => "')'"

/-- What a condition should have gone on with. -/
inductive Expected where
  /-- A certain token. -/
  | token (t : ConditionToken)
  /-- The digits of a negative number. -/
  | numberAfterMinus
  /-- Some token. -/
  | anyToken
  /-- An operand. -/
  | operand
  /-- A segment of a path. -/
  | propertyName
  /-- A path that the method is applied to. -/
  | receiver
  /-- Nothing more. -/
  | endOfExpression
  deriving DecidableEq, Repr

/-- The wording of what was expected. -/
def Expected.text : Expected → String
  | token t => t.text
  | numberAfterMinus => "number after '-'"
  | anyToken => "valid token"
  | operand => "operand"
  | propertyName => "property name"
  | receiver => "receiver before method call"
  | endOfExpression => "end of expression"

/-- What a condition went on with instead. -/
inductive Found where
  /-- A token. -/
  | token (t : ConditionToken)
  /-- A character. -/
  | char (c : Char)
  /-- The call of a method. -/
  | call (m : Method)
  deriving DecidableEq, Repr

/-- The wording of what was found. -/
def Found.text : Found → String
  | token t => t.text
  | char c => "'" ++ c.toString ++ "'"
  | call m => m.name ++ "()"

/-- Why a value cannot be used as it is. -/
inductive Mismatch where
  /-- The path ends at the parameter object. -/
  | wholeObject (path : Path) (typeName : String)
  /-- Values of this type have no such method. -/
  | noMethod (m : Method) (receiver : Path) (typeName : String)
  /-- Null has no size. -/
  | sizeOfNull (receiver : Path)
  /-- The literal is no number. -/
  | invalidNumber (text : String)
  /-- The literal has no meaning in the type it is compared with. -/
  | literal (l : Literal) (typeName : String)
  /-- The comparison is not defined on the two types. -/
  | comparison (op : CompareOp) (left right : String)
  /-- A variable stands for an object. -/
  | objectVariable (path : Path)
  /-- An element of an in-list is a list or an object. -/
  | compoundElement (path : Path) (index : Nat) (typeName : String)
  /-- An element of an embedded list is a list or an object. -/
  | embeddedElement (path : Path) (typeName : String)
  deriving DecidableEq, Repr

/-- The wording of the mismatch. -/
def Mismatch.message : Mismatch → String
  | wholeObject path typeName =>
    path.text ++ " is the " ++ typeName ++ " parameter object itself, not a property"
  | noMethod m receiver typeName =>
    m.name ++ "() does not apply to " ++ receiver.text ++ " of type " ++ typeName
  | sizeOfNull receiver => "size() called on null " ++ receiver.text
  | invalidNumber text => "invalid number literal " ++ text
  | literal l typeName => "literal " ++ l.text ++ " cannot be compared with " ++ typeName
  | comparison op left right =>
    "cannot apply " ++ op.text ++ " to " ++ left ++ " and " ++ right
  | objectVariable path => path.text ++ " is an object and cannot be rendered"
  | compoundElement path index typeName =>
    path.text ++ "[" ++ toString index ++ "] is a " ++ typeName ++ " and cannot be bound"
  | embeddedElement path typeName =>
    path.text ++ " element is a " ++ typeName ++ " and cannot be embedded"

/-- What is wrong with a condition or a variable. -/
inductive ConditionError where
  /-- A token does not fit. -/
  | unexpected (expected : Expected) (found : Found)
  /-- The text ends too early. -/
  | unexpectedEnd
  /-- A segment of the path does not exist. -/
  | notFound (path : Path) (typeName : String)
  /-- No method has this name. -/
  | unknownMethod (name : String)
  /-- A value cannot be used as it is. -/
  | mismatch (cause : Mismatch)
  /-- A bare operand is no truth value. -/
  | notBoolean (operand : Operand)
  deriving DecidableEq, Repr

/-- The wording of the error. -/
def ConditionError.message : ConditionError → String
  | unexpected expected found =>
    "Unexpected token: expected " ++ expected.text ++ ", found " ++ found.text
  | unexpectedEnd => "Unexpected end of expression"
  | notFound path typeName => "Property not found: " ++ path.text ++ " on " ++ typeName
  | unknownMethod name =>
    "Unknown method " ++ name ++ "() (expected size, isEmpty or isNotEmpty)"
  | mismatch cause => "Type mismatch: " ++ cause.message
  | notBoolean operand => "Condition operand " ++ operand.text ++ " is not a boolean"

end SqlTemplate
