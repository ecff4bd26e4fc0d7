import SqlTemplate.Condition.Error

/-!
# Faults of a template

Why a text is no template. Places are byte offsets of the text in UTF-8.
-/

namespace SqlTemplate

/-- Why what a directive holds cannot be read. -/
inductive PayloadError where
  /-- The condition has a fault. -/
  | condition (e : ConditionError)
  /-- The text is no path. -/
  | path
  /-- The connector is not quoted. -/
  | connector
  deriving DecidableEq, Repr

/-- The wording of the fault. -/
def PayloadError.message : PayloadError → String
  | condition e => e.message
  | path => "expected a dotted variable path"
  | connector => "NEXT expects a quoted connector such as 'or '"

/-- Why a text is no template. -/
inductive ParseError where
  /-- A comment is not closed. -/
  | unclosedDirective (offset : Nat)
  /-- The list of a test value is not closed. -/
  | unbalancedTestValue (offset : Nat)
  /-- A block is not closed, or an END closes none. -/
  | unmatched (directive : String) (offset : Nat)
  /-- What a directive holds cannot be read. -/
  | invalidExpression (source : String) (offset : Nat) (cause : PayloadError)
  /-- A directive of a loop body stands outside every loop. -/
  | outsideLoop (directive : String) (offset : Nat)
  deriving DecidableEq, Repr

/-- The wording of the error. -/
def ParseError.message : ParseError → String
  | unclosedDirective offset =>
    "unclosed directive comment starting at offset " ++ toString offset
  | unbalancedTestValue offset =>
    "unbalanced parenthesized test value at offset " ++ toString offset
  | unmatched directive offset =>
    "unmatched " ++ directive ++ " directive at offset " ++ toString offset
  | invalidExpression source offset cause =>
    "invalid expression '" ++ source ++ "' at offset " ++ toString offset ++ ": " ++ cause.message
  | outsideLoop directive offset =>
    directive ++ " directive at offset " ++ toString offset ++ " is not inside a FOR loop"

end SqlTemplate
