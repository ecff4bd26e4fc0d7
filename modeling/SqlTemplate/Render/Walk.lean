import SqlTemplate.Condition.Holds
import SqlTemplate.Render.Buffer
import SqlTemplate.Render.Prune
import SqlTemplate.Template.Block

/-!
# Evaluating a template

The tree is walked in the order of the text, and each node adds to the statement: text as it
stands, a placeholder with its bind, the text of an embedded value, the part that a condition
selects, the rounds of a loop, a scope as far as pruning leaves it. A string that is embedded
without quotes and holds a comment is a template of its own, which is parsed and walked in the
same place; such templates may nest eight deep.
-/

namespace SqlTemplate

/-- Why a template has no statement. -/
inductive RenderError where
  /-- The text, or that of an embedded value, is no template. -/
  | parse (e : ParseError)
  /-- A condition or a variable has a fault. -/
  | condition (e : ConditionError)
  /-- A variable is null where that is a fault. -/
  | nullBind (path : Path)
  /-- The variable of an in-list is no list. -/
  | notList (path : Path) (typeName : String)
  /-- A list stands for a variable that is no in-list. -/
  | listOutsideInList (path : Path)
  /-- An in-list has more elements than the dialect allows. -/
  | inListLimit (path : Path) (size max : Nat)
  /-- A loop runs over something that is no list. -/
  | loopNotList (path : Path) (typeName : String)
  /-- Embedded templates nest too deep. -/
  | tooDeep (path : Path) (max : Nat)
  deriving DecidableEq, Repr

/-- The wording of the error. -/
def RenderError.message : RenderError → String
  | parse e => e.message
  | condition e => e.message
  | nullBind path => "bind variable " ++ path.text ++ " resolved to null"
  | notList path typeName =>
    "in-clause variable " ++ path.text ++ " must be a list but was " ++ typeName
  | listOutsideInList path =>
    "variable " ++ path.text ++
      " is a list but its directive is not followed by an in-clause test value"
  | inListLimit path size max =>
    "in-clause variable " ++ path.text ++ " has " ++ toString size ++
      " elements, exceeding the limit of " ++ toString max
  | loopNotList path typeName =>
    "FOR variable " ++ path.text ++ " must be a list but was " ++ typeName
  | tooDeep path max =>
    "dynamic binding through " ++ path.text ++ " nested deeper than " ++ toString max ++ " levels"

/-- A step of the evaluation: the statement goes on, or there is none. -/
abbrev Step := Buffer → Except RenderError Buffer

/-- What a variable asks to be written. -/
inductive Demand where
  /-- Nothing, since the value is null. -/
  | nothing
  /-- A value that is no list. -/
  | scalar (value : Value)
  /-- The elements of an in-list. -/
  | items (values : List Value)

namespace Variable

/-- The value of the variable as a scalar or an in-list, as its test value asks for. -/
def demand (v : Variable) (value : Value) : Except RenderError Demand :=
  match value, v.test.inList with
  | .null, _ => if v.nullDisallowed then .error (.nullBind v.path) else .ok .nothing
  | .list items, true => .ok (.items items)
  | .list _, false => .error (.listOutsideInList v.path)
  | .object _, _ => .error (.condition (.mismatch (.objectVariable v.path)))
  | other, true => .error (.notList v.path other.typeName)
  | other, false => .ok (.scalar other)

/-- An in-list of this size is within the limit of the dialect. -/
def checkSize (v : Variable) (d : Dialect) (size : Nat) : Except RenderError Unit :=
  match d.inListLimit with
  | some max => if size > max then .error (.inListLimit v.path size max) else .ok ()
  | none => .ok ()

/-- The bind of a value of the variable. -/
def toBind (v : Variable) (value : Value) : Bind :=
  Bind.ofValue value (some v.path.text)

/-- The binds of an in-list from the element at `index` on, separated by commas. -/
def pushItems (v : Variable) (d : Dialect) : Nat → List Value → Step
  | _, [], b => .ok b
  | index, item :: rest, b =>
    if item.isCompound then
      .error (.condition (.mismatch (.compoundElement v.path index item.typeName)))
    else
      let b := if index = 0 then b else b.push ", "
      v.pushItems d (index + 1) rest (b.pushBind d (v.toBind item))

/-- Writes a variable that is bound. -/
def pushBound (v : Variable) (d : Dialect) (value : Value) : Step := fun b => do
  match ← v.demand value with
  | .nothing => return b
  | .scalar value => return b.pushBind d (v.toBind value)
  | .items items =>
    v.checkSize d items.length
    if items.isEmpty then return b.push "(null)"
    else return (← v.pushItems d 0 items (b.push "(")).push ")"

/-- The text of a value that is embedded. -/
def embeddedText (v : Variable) (d : Dialect) (value : Value) : Except RenderError String :=
  if value.isCompound then
    .error (.condition (.mismatch (.embeddedElement v.path value.typeName)))
  else if v.test.quoted then .ok (d.quote value.display)
  else
    match value with
    | .date date => .ok (d.dateLiteral date)
    | .timestamp t => .ok (d.timestampLiteral t)
    | other => .ok other.display

/-- A comment opens somewhere in the text. -/
def holdsComment : List Char → Bool
  | [] => false
  | '/' :: '*' :: _ => true
  | _ :: cs => holdsComment cs

/-- The text of a value that is embedded as a template of its own: a string that is not written as a
literal and holds a comment. -/
def templateText? (v : Variable) : Value → Option String
  | .string text => if !v.test.quoted && holdsComment text.toList then some text else none
  | _ => none

/-- Writes a variable that is embedded; `expand` writes a value that is a template of its own. -/
def pushEmbedded (v : Variable) (d : Dialect) (expand : String → Step) (value : Value) : Step :=
  fun b => do
    match ← v.demand value with
    | .nothing => return b
    | .scalar value =>
      -- A string is looked through for a template before its text is written.
      match v.templateText? value with
      | some text => expand text b
      | none => return b.push (← v.embeddedText d value)
    | .items items =>
      v.checkSize d items.length
      if items.isEmpty then return b.push "(null)"
      else return b.push ("(" ++ ", ".intercalate (← items.mapM (v.embeddedText d)) ++ ")")

end Variable

/-- The value of a path, as a step of the evaluation asks for it. -/
def Scope.valueOf (s : Scope) (path : Path) : Except RenderError Value :=
  (s.resolve path).mapError RenderError.condition

/-- The elements that a loop runs over; null is a loop without rounds. -/
def Scope.loopItems (s : Scope) (path : Path) : Except RenderError (List Value) := do
  match ← s.valueOf path with
  | .null => return []
  | .list items => return items
  | other => throw (.loopNotList path other.typeName)

/-- Adds what a scope contributes. -/
def Buffer.mergePruned (b child : Buffer) : Buffer :=
  match prune child.sql with
  | some text => b.merge child text
  | none => b

/-- How a value that is a template of its own is written: by the variable that embeds it and in the
scope of that variable. -/
abbrev Expansion := Variable → Scope → String → Step

mutual

/-- Evaluates a part of a template. -/
def Node.walk (d : Dialect) (expand : Expansion) (s : Scope) : Node → Step
  | .literal text, b => .ok (b.push text)
  | .bind v, b => do v.pushBound d (← s.valueOf v.path) b
  | .embedded v, b => do v.pushEmbedded d (expand v s) (← s.valueOf v.path) b
  | .branch condition _ yes no, b => do
    if ← (s.holds condition).mapError RenderError.condition then walkAll d expand s yes b
    else walkAll d expand s no b
  | .scope children, b => do return b.mergePruned (← walkAll d expand s children b.fork)
  | .loop path children, b => do
    (LoopFrame.ofItems (← s.loopItems path)).foldlM
      (fun b frame => walkAll d expand (s.enter frame) children b) b
  | .connector text, b =>
    .ok (if s.current?.any (!·.isFirst) then b.push text else b)
  | .first children, b =>
    if s.current?.any LoopFrame.isFirst then walkAll d expand s children b else .ok b
  | .last children, b =>
    if s.current?.any LoopFrame.isLast then walkAll d expand s children b else .ok b

/-- Evaluates parts of a template one after the other. -/
def Node.walkAll (d : Dialect) (expand : Expansion) (s : Scope) : List Node → Step
  | [], b => .ok b
  | node :: rest, b => do walkAll d expand s rest (← node.walk d expand s b)

end

/-- How deep templates in embedded values may nest. -/
def maxDepth : Nat := 8

/-- Writes a value that is a template of its own, where `room` levels of such templates are left. -/
def expansion (d : Dialect) : Nat → Expansion
  | 0, v, _, _, _ => .error (.tooDeep v.path maxDepth)
  | room + 1, v, s, text, b => do
    let template ← (Template.parse v.nullDisallowed text).mapError RenderError.parse
    Node.walkAll d (expansion d room) s template.nodes b

namespace Template

/-- The statement of a template for a parameter object that is reached under an alias. -/
def evaluate (t : Template) (d : Dialect) (rootAlias : String) (parameters : Parameters) :
    Except RenderError Statement := do
  let b ← Node.walkAll d (expansion d maxDepth) ⟨rootAlias, parameters, []⟩ t.nodes {}
  return b.toStatement

end Template

end SqlTemplate
