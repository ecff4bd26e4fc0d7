import SqlTemplate.Condition.Expr
import SqlTemplate.Template.TestValue

/-!
# Template trees

A parsed template: plain SQL, variables and blocks, in the order of the text.
-/

namespace SqlTemplate

/-- A variable of a template. -/
structure Variable where
  /-- The path of its value. -/
  path : Path
  /-- The literal that it stands for. -/
  test : TestValue
  /-- A null value is a fault. -/
  nullDisallowed : Bool
  deriving DecidableEq, Repr

/-- A part of a template. -/
inductive Node where
  /-- Plain SQL. -/
  | literal (text : String)
  /-- A variable that is bound. -/
  | bind (v : Variable)
  /-- A variable that is written into the statement. -/
  | embedded (v : Variable)
  /-- One of two parts, by a condition. -/
  | branch (condition : Expr) (source : String) (yes no : List Node)
  /-- A part that vanishes if it comes out without content. -/
  | scope (children : List Node)
  /-- A part repeated for each element of a list. -/
  | loop (path : Path) (children : List Node)
  /-- What stands between the rounds of a loop. -/
  | connector (text : String)
  /-- A part for the first round only. -/
  | first (children : List Node)
  /-- A part for the last round only. -/
  | last (children : List Node)
  deriving Inhabited

/-- A parsed template. -/
structure Template where
  /-- Its parts at the top level. -/
  nodes : List Node
  deriving Inhabited

end SqlTemplate
