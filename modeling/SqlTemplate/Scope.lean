import SqlTemplate.Condition.Error
import SqlTemplate.Parameters

/-!
# Scopes

What the paths of a template are resolved against: the parameter object, the alias under which it
is reached, and the rounds of the loops that are open. A path may start at the alias, at the loop
variable or at a property of the parameter object; null absorbs all that follows it.
-/

namespace SqlTemplate

/-- One round of a loop. -/
structure LoopFrame where
  /-- The element that the loop variable stands for. -/
  element : Value
  /-- The position of the element, from 0. -/
  index : Nat
  /-- The number of elements. -/
  length : Nat

namespace LoopFrame

/-- It is the first round. -/
def isFirst (f : LoopFrame) : Bool :=
  f.index == 0

/-- It is the last round. -/
def isLast (f : LoopFrame) : Bool :=
  f.index + 1 == f.length

/-- The rounds of a loop over a list. -/
def ofItems (items : List Value) : List LoopFrame :=
  items.zipIdx.map fun (element, index) => ⟨element, index, items.length⟩

end LoopFrame

/-- The segment that stands for the element of the innermost loop. -/
def loopVariable : String := "#current"

/-- A scope. -/
structure Scope where
  /-- The segment that stands for the parameter object. -/
  rootAlias : String
  /-- The parameter object. -/
  parameters : Parameters
  /-- The rounds of the open loops, the innermost first. -/
  loops : List LoopFrame := []

namespace Scope

/-- The scope inside one more round. -/
def enter (s : Scope) (frame : LoopFrame) : Scope :=
  { s with loops := frame :: s.loops }

/-- The scope outside the innermost round. -/
def leave (s : Scope) : Scope :=
  { s with loops := s.loops.tail }

/-- The innermost round. -/
def current? (s : Scope) : Option LoopFrame :=
  s.loops.head?

/-- The value below `value` along the segments. Null absorbs them; there is none if a segment names
no property. -/
def descend? (value : Value) : List String → Option Value
  | [] => some value
  | segment :: rest =>
    if value.isNull then some .null
    else
      match value.property? segment with
      | some child => descend? child rest
      | none => none

/-- The value that a root other than the alias stands for. -/
def rootValue? (s : Scope) (root : String) : Option Value :=
  if root = loopVariable then s.current?.map LoopFrame.element else s.parameters.get? root

/-- The value of a path. -/
def resolve (s : Scope) (path : Path) : Except ConditionError Value :=
  let found (start : Option Value) (segments : List String) : Except ConditionError Value :=
    match start.bind fun value => descend? value segments with
    | some value => .ok value
    | none => .error (.notFound path s.parameters.typeName)
  if path.root = s.rootAlias then
    match path.below with
    | [] => .error (.mismatch (.wholeObject path s.parameters.typeName))
    | segment :: rest => found (s.parameters.get? segment) rest
  else found (s.rootValue? path.root) path.below

end Scope

end SqlTemplate
