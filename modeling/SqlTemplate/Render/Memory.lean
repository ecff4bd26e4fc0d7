import SqlTemplate.Render.Walk

/-!
# Evaluating with a memory

An embedded variable remembers the template that it embedded last, so that the same text need not
be parsed again. The memory belongs to the variable: it is kept by the place of the variable in its
template, and what is remembered inside a template lies behind the place of the variable that
embeds this template. It stays when an evaluation fails.
-/

namespace SqlTemplate

/-- Where a node stands: its position among its siblings, then that of the node around it, and so
on outwards. The nodes of an embedded template stand inside the variable that embeds it. -/
abbrev Place := List Nat

/-- The template that the variable at a place embedded last. -/
structure Remembered where
  /-- Where the variable stands. -/
  place : Place
  /-- The text of the template. -/
  text : String
  /-- The template itself. -/
  template : Template

/-- What is remembered. -/
abbrev Memory := List Remembered

namespace Memory

/-- The template that the variable at a place embedded last, if it was of this text. -/
def lookup? (m : Memory) (place : Place) (text : String) : Option Template :=
  match m.find? fun r => r.place == place with
  | some r => if r.text = text then some r.template else none
  | none => none

/-- The memory once the variable at a place has embedded a template: what it embedded before is
forgotten, together with all that was remembered inside it. -/
def remember (m : Memory) (place : Place) (text : String) (template : Template) : Memory :=
  ⟨place, text, template⟩ :: m.filter fun r => !place.isSuffixOf r.place

end Memory

/-- A computation of an evaluation that may recall and remember templates. -/
abbrev Recalling (α : Type) := ExceptT RenderError (StateM Memory) α

/-- The text that the variable embeds as a template of its own, if its value is one. -/
def Variable.embedded? (v : Variable) (value : Value) : Option String :=
  match v.demand value with
  | .ok (.scalar value) => v.templateText? value
  | _ => none

namespace Recalling

/-- How a value that is a template of its own is written by the variable at a place. -/
abbrev Expansion := Place → Variable → Scope → String → Buffer → Recalling Buffer

mutual

/-- Evaluates the part of a template at a place. -/
def walk (d : Dialect) (expand : Expansion) (s : Scope) (place : Place) :
    Node → Buffer → Recalling Buffer
  | .literal text, b => return b.push text
  | .bind v, b => do v.pushBound d (← s.valueOf v.path) b
  | .embedded v, b => do
    let value ← s.valueOf v.path
    match v.embedded? value with
    | some text => expand place v s text b
    | none => v.pushEmbedded d (fun _ => .ok) value b
  | .branch condition _ yes no, b => do
    if ← (s.holds condition).mapError RenderError.condition then
      walkAll d expand s (0 :: place) 0 yes b
    else walkAll d expand s (1 :: place) 0 no b
  | .scope children, b => do return b.mergePruned (← walkAll d expand s place 0 children b.fork)
  | .loop path children, b => do
    (LoopFrame.ofItems (← s.loopItems path)).foldlM
      (fun b frame => walkAll d expand (s.enter frame) place 0 children b) b
  | .connector text, b => return if s.current?.any (!·.isFirst) then b.push text else b
  | .first children, b =>
    if s.current?.any LoopFrame.isFirst then walkAll d expand s place 0 children b else return b
  | .last children, b =>
    if s.current?.any LoopFrame.isLast then walkAll d expand s place 0 children b else return b

/-- Evaluates the parts of a template that stand inside a place, the first of them at `index`. -/
def walkAll (d : Dialect) (expand : Expansion) (s : Scope) (place : Place) (index : Nat) :
    List Node → Buffer → Recalling Buffer
  | [], b => return b
  | node :: rest, b => do
    walkAll d expand s place (index + 1) rest (← walk d expand s (index :: place) node b)

end

/-- The template of a text: the one that the variable at a place embedded last, if it was of this
text, or else a new one, which is remembered. -/
def template (place : Place) (nullDisallowed : Bool) (text : String) : Recalling Template := do
  match (← get).lookup? place text with
  | some template => return template
  | none =>
    let template ← (Template.parse nullDisallowed text).mapError RenderError.parse
    modify fun m => m.remember place text template
    return template

/-- Writes a value that is a template of its own, where `room` levels of such templates are left. -/
def expansion (d : Dialect) : Nat → Expansion
  | 0, _, v, _, _, _ => throw (.tooDeep v.path maxDepth)
  | room + 1, place, v, s, text, b => do
    let t ← template place v.nullDisallowed text
    walkAll d (expansion d room) s place 0 t.nodes b

end Recalling

/-- The statement of the template at a place, for a parameter object that is reached under an
alias. -/
def Template.evaluateAt (t : Template) (place : Place) (d : Dialect) (rootAlias : String)
    (parameters : Parameters) : Recalling Statement := do
  let scope : Scope := ⟨rootAlias, parameters, []⟩
  let b ← Recalling.walkAll d (Recalling.expansion d maxDepth) scope place 0 t.nodes {}
  return b.toStatement

end SqlTemplate
