import SqlTemplate.Path

/-!
# Conditions

The condition of a block: comparisons of operands and bare operands, joined by "and", "or" and
"not". An operand is a literal, a path or a method of a path. A number literal keeps the text it
was written with, since its meaning depends on the value that it is compared with.
-/

namespace SqlTemplate

/-- A comparison. -/
inductive CompareOp where
  /-- Equal. -/
  | eq
  /-- Different. -/
  | ne
  /-- Less. -/
  | lt
  /-- Less or equal. -/
  | le
  /-- Greater. -/
  | gt
  /-- Greater or equal. -/
  | ge
  deriving DecidableEq, Repr

/-- The comparison as it is written. -/
def CompareOp.text : CompareOp → String
  | eq => "=="
  | ne => "!="
  | lt => "<"
  | le => "<="
  | gt => ">"
  | ge => ">="

/-- A literal of a condition. -/
inductive Literal where
  /-- The word for null. -/
  | null
  /-- A truth value. -/
  | bool (b : Bool)
  /-- A number, as it is written. -/
  | number (text : String)
  /-- A string, without its quotes. -/
  | string (s : String)
  deriving DecidableEq, Repr

/-- The literal as messages give it; quotes inside a string are not doubled. -/
def Literal.text : Literal → String
  | null => "null"
  | bool b => if b then "true" else "false"
  | number text => text
  | string s => "'" ++ s ++ "'"

/-- A method of a value. -/
inductive Method where
  /-- The number of elements or characters. -/
  | size
  /-- There is no element or character. -/
  | isEmpty
  /-- There is an element or character. -/
  | isNotEmpty
  deriving DecidableEq, Repr

namespace Method

/-- The name of the method. -/
def name : Method → String
  | size => "size"
  | isEmpty => "isEmpty"
  | isNotEmpty => "isNotEmpty"

/-- The method of a name. -/
def ofName? : String → Option Method
  | "size" | "length" => some size
  | "isEmpty" => some isEmpty
  | "isNotEmpty" => some isNotEmpty
  | _ => none

end Method

/-- What a condition takes a value from. -/
inductive Operand where
  /-- A literal. -/
  | literal (l : Literal)
  /-- The value of a path. -/
  | path (p : Path)
  /-- A method applied to the value of a path. -/
  | method (receiver : Path) (m : Method)
  deriving DecidableEq, Repr

/-- The operand as messages give it. -/
def Operand.text : Operand → String
  | literal l => l.text
  | path p => p.text
  | method receiver m => receiver.text ++ "." ++ m.name ++ "()"

/-- A condition. -/
inductive Expr where
  /-- A comparison of two operands. -/
  | compare (left : Operand) (op : CompareOp) (right : Operand)
  /-- Both hold. -/
  | and (left right : Expr)
  /-- One of the two holds. -/
  | or (left right : Expr)
  /-- The condition does not hold. -/
  | not (inner : Expr)
  /-- An operand that is a truth value. -/
  | operand (o : Operand)
  deriving DecidableEq, Repr

end SqlTemplate
