import SqlTemplate.Render.Walk

/-!
# Kinds of fault

What a caller tells faults apart by: the kind of a fault leaves out its data, such as paths, places
and names of types. A fault of a template or of a condition keeps its kind where an evaluation
passes it on.
-/

namespace SqlTemplate

/-- The kinds of fault that an evaluation may end with. -/
inductive FaultKind where
  /-- A comment is not closed. -/
  | unclosedDirective
  /-- The list of a test value is not closed. -/
  | unbalancedTestValue
  /-- A block is not closed, or an END closes none. -/
  | unmatched
  /-- What a directive holds cannot be read. -/
  | invalidExpression
  /-- A directive of a loop body stands outside every loop. -/
  | outsideLoop
  /-- A token of a condition does not fit. -/
  | unexpected
  /-- A condition ends too early. -/
  | unexpectedEnd
  /-- A segment of a path does not exist. -/
  | notFound
  /-- No method has the name. -/
  | unknownMethod
  /-- A value cannot be used as it is. -/
  | mismatch
  /-- A bare operand is no truth value. -/
  | notBoolean
  /-- A variable is null where that is a fault. -/
  | nullBind
  /-- The variable of an in-list is no list. -/
  | notList
  /-- A list stands for a variable that is no in-list. -/
  | listOutsideInList
  /-- An in-list has more elements than the dialect allows. -/
  | inListLimit
  /-- A loop runs over something that is no list. -/
  | loopNotList
  /-- Embedded templates nest too deep. -/
  | tooDeep
  deriving DecidableEq, Repr

/-- The kind of a fault of a template. -/
def ParseError.kind : ParseError → FaultKind
  | unclosedDirective _ => .unclosedDirective
  | unbalancedTestValue _ => .unbalancedTestValue
  | unmatched _ _ => .unmatched
  | invalidExpression _ _ _ => .invalidExpression
  | outsideLoop _ _ => .outsideLoop

/-- The kind of a fault of a condition or a variable. -/
def ConditionError.kind : ConditionError → FaultKind
  | unexpected _ _ => .unexpected
  | unexpectedEnd => .unexpectedEnd
  | notFound _ _ => .notFound
  | unknownMethod _ => .unknownMethod
  | mismatch _ => .mismatch
  | notBoolean _ => .notBoolean

/-- The kind of a fault of an evaluation; one that is passed on keeps its kind. -/
def RenderError.kind : RenderError → FaultKind
  | parse e => e.kind
  | condition e => e.kind
  | nullBind _ => .nullBind
  | notList _ _ => .notList
  | listOutsideInList _ => .listOutsideInList
  | inListLimit _ _ _ => .inListLimit
  | loopNotList _ _ => .loopNotList
  | tooDeep _ _ => .tooDeep

end SqlTemplate
