import SqlTemplate.Proofs.Outcome
import SqlTemplate.Proofs.Template.Revision
import SqlTemplate.Render.Walk

/-!
# Walking a changed template

A revision changes what a template asks of its variables, and a dialect of the same kind may have
another in-list limit. `Revision.Relaxes` says of such a change what it does to one variable: what
it asks for and the check of the size either come to the same, or are refused before the change.
Nothing else of a walk looks at what has changed, so that a walk through a template either is
refused or comes to what the walk through the changed template does (`Node.relaxes_walk`).

Where nothing is refused the two walks come to the same; where the change asks for less, the walk
through the changed template may go on where the other one is refused.
-/

namespace SqlTemplate

open Outcome (Relaxes)

/-! ## Dialects of one kind -/

namespace Dialect

variable {d d' : Dialect}

/-- Dialects of one kind have the same placeholders. -/
theorem placeholder_congr (h : d.kind = d'.kind) (position : Nat) :
    d.placeholder position = d'.placeholder position := by
  rw [placeholder, placeholder, h]

/-- And the same literals of strings. -/
theorem quote_congr (h : d.kind = d'.kind) (s : String) : d.quote s = d'.quote s := by
  have hescape : d.escapeChar = d'.escapeChar := by
    funext c
    rw [escapeChar, escapeChar, h]
  rw [quote, quote, hescape]

/-- And the same words before the literals of dates. -/
theorem literalWords_congr (h : d.kind = d'.kind) : d.literalWords = d'.literalWords := by
  rw [literalWords, literalWords, h]

end Dialect

/-- Changing the variables and the in-list limit lets a step go on that was refused, or changes
nothing of it. -/
structure Revision.Relaxes (r : Revision) (refused : RenderError → Prop) (d d' : Dialect) :
    Prop where
  /-- The dialect is one of the same kind. -/
  kind : d.kind = d'.kind
  /-- A test value remains quoted, or not. -/
  quoted : ∀ test, (r.test test).quoted = test.quoted
  /-- What a variable asks to be written. -/
  demand : ∀ (v : Variable) value, Outcome.Relaxes refused (v.demand value)
    ((v.revise r).demand value)
  /-- Whether an in-list is too long. -/
  size : ∀ (v : Variable) size, Outcome.Relaxes refused (v.checkSize d size)
    ((v.revise r).checkSize d' size)

/-- Where nothing changes, nothing is refused. -/
theorem Revision.relaxes_refl (refused : RenderError → Prop) (d : Dialect) :
    Relaxes {} refused d d :=
  ⟨rfl, fun _ => rfl, fun _ _ => .refl _, fun _ _ => .refl _⟩

namespace Variable

variable {r : Revision} {refused : RenderError → Prop} {d d' : Dialect}

/-! ## One variable -/

/-- The elements of an in-list are written as before. -/
theorem pushItems_revise (hkind : d.kind = d'.kind) (v : Variable) (index : Nat)
    (items : List Value) (b : Buffer) :
    v.pushItems d index items b = (v.revise r).pushItems d' index items b := by
  induction items generalizing index b with
  | nil => rfl
  | cons item rest ih =>
    have hbind : ∀ b : Buffer, b.pushBind d (v.toBind item) =
        b.pushBind d' ((v.revise r).toBind item) := by
      intro b
      rw [Buffer.pushBind, Buffer.pushBind, Dialect.placeholder_congr hkind]
      rfl
    simp only [pushItems, hbind, ih]
    rfl

/-- The text of an embedded value is as before. -/
theorem embeddedText_revise (h : r.Relaxes refused d d') (v : Variable) :
    v.embeddedText d = (v.revise r).embeddedText d' := by
  funext value
  simp only [embeddedText, Dialect.dateLiteral, Dialect.timestampLiteral, Variable.revise, h.quoted,
    Dialect.quote_congr h.kind, Dialect.literalWords_congr h.kind]

/-- Whether a value is a template does not depend on what is relaxed. -/
theorem templateText?_revise (h : r.Relaxes refused d d') (v : Variable) (value : Value) :
    (v.revise r).templateText? value = v.templateText? value := by
  simp only [templateText?, Variable.revise, h.quoted]

/-- A variable that is bound. -/
theorem relaxes_pushBound (h : r.Relaxes refused d d') (v : Variable) (value : Value)
    (b : Buffer) :
    Relaxes refused (v.pushBound d value b) ((v.revise r).pushBound d' value b) := by
  refine (h.demand v value).bind fun demand => ?_
  cases demand with
  | nothing => exact .refl _
  | scalar value =>
    refine .inr ?_
    dsimp only
    rw [Buffer.pushBind, Buffer.pushBind, Dialect.placeholder_congr h.kind]
    rfl
  | items items =>
    refine (h.size v items.length).bind fun _ => ?_
    rw [pushItems_revise h.kind]
    exact .refl _

/-- A variable that is embedded, given what holds of the templates in embedded values. -/
theorem relaxes_pushEmbedded (h : r.Relaxes refused d d') (v : Variable)
    {expand expand' : String → Step} (hexpand : ∀ text b, Relaxes refused (expand text b)
      (expand' text b)) (value : Value) (b : Buffer) :
    Relaxes refused (v.pushEmbedded d expand value b)
      ((v.revise r).pushEmbedded d' expand' value b) := by
  refine (h.demand v value).bind fun demand => ?_
  cases demand with
  | nothing => exact .refl _
  | scalar value =>
    dsimp only
    rw [templateText?_revise h, embeddedText_revise h]
    split
    · exact hexpand _ b
    · exact .refl _
  | items items =>
    refine (h.size v items.length).bind fun _ => ?_
    rw [embeddedText_revise h]
    exact .refl _

end Variable

/-! ## The tree -/

/-- Templates in embedded values are written as before, or are refused. -/
def Expansion.Relaxes (r : Revision) (refused : RenderError → Prop)
    (expand expand' : Expansion) : Prop :=
  ∀ v s text b, Outcome.Relaxes refused (expand v s text b) (expand' (v.revise r) s text b)

namespace Node

variable {r : Revision} {refused : RenderError → Prop} {d d' : Dialect}
  {expand expand' : Expansion}

mutual

/-- Walking through a part of a template is refused, or comes to what walking through the changed
part does. -/
theorem relaxes_walk (h : r.Relaxes refused d d') (hexpand : expand.Relaxes r refused expand')
    (s : Scope) (b : Buffer) : (node : Node) →
    Relaxes refused (node.walk d expand s b) ((node.revise r).walk d' expand' s b)
  | .literal text => .refl _
  | .bind v =>
    (Relaxes.refl (s.valueOf v.path)).bind fun value => v.relaxes_pushBound h value b
  | .embedded v =>
    (Relaxes.refl (s.valueOf v.path)).bind fun value =>
      v.relaxes_pushEmbedded h (hexpand v s) value b
  | .branch condition _ yes no => by
    -- Conditions and values do not depend on the settings.
    refine (Relaxes.refl _).bind fun holds => ?_
    cases holds with
    | true => exact relaxes_walkAll h hexpand s b yes
    | false => exact relaxes_walkAll h hexpand s b no
  | .scope children =>
    (relaxes_walkAll h hexpand s b.fork children).bind fun _ => .refl _
  | .loop path children =>
    (Relaxes.refl (s.loopItems path)).bind fun items =>
      Relaxes.foldlM (fun b frame => relaxes_walkAll h hexpand (s.enter frame) b children) _ b
  | .connector text => .refl _
  | .first children | .last children => by
    rw [revise, walk, walk]
    split
    · exact relaxes_walkAll h hexpand s b children
    · exact .refl _

/-- So it is with walking through parts one after the other. -/
theorem relaxes_walkAll (h : r.Relaxes refused d d') (hexpand : expand.Relaxes r refused expand')
    (s : Scope) (b : Buffer) : (nodes : List Node) →
    Relaxes refused (walkAll d expand s nodes b) (walkAll d' expand' s (reviseAll r nodes) b)
  | [] => .refl _
  | node :: rest =>
    (relaxes_walk h hexpand s b node).bind fun b => relaxes_walkAll h hexpand s b rest

end

end Node

/-- Templates in embedded values get the setting of their variable, and may nest deeper after the
change if it is the depth that is refused. -/
theorem relaxes_expansion {setting : Bool → Bool} {refused : RenderError → Prop} {d d' : Dialect}
    (h : Revision.Relaxes { setting } refused d d') {extra : Nat}
    (hdeep : extra = 0 ∨ ∀ path, refused (.tooDeep path maxDepth)) (room : Nat) :
    (expansion d room).Relaxes { setting } refused (expansion d' (room + extra)) := by
  induction room with
  | zero =>
    intro v s text b
    -- Without room both fail, or the stricter one alone.
    rcases hdeep with rfl | hdeep
    · exact .refl _
    · exact .error (hdeep v.path) _
  | succ room ih =>
    intro v s text b
    rw [Nat.add_right_comm]
    show Relaxes refused ((Template.parse v.nullDisallowed text).mapError RenderError.parse >>= _)
      ((Template.parse (setting v.nullDisallowed) text).mapError RenderError.parse >>= _)
    rw [Template.parse_setting]
    cases Template.parse v.nullDisallowed text with
    | error e => exact .refl _
    | ok t => exact Node.relaxes_walkAll h ih s b t.nodes

/-- A template is refused, or its statement is that of the changed template. -/
theorem Template.relaxes_evaluate {r : Revision} {refused : RenderError → Prop} {d d' : Dialect}
    (h : r.Relaxes refused d d')
    (hexpand : (expansion d maxDepth).Relaxes r refused (expansion d' maxDepth)) (t : Template)
    (rootAlias : String) (parameters : Parameters) :
    Relaxes refused (t.evaluate d rootAlias parameters)
      ((t.revise r).evaluate d' rootAlias parameters) :=
  (Node.relaxes_walkAll h hexpand ⟨rootAlias, parameters, []⟩ {} t.nodes).bind fun _ => .refl _

end SqlTemplate
