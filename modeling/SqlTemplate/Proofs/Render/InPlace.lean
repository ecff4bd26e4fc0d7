import SqlTemplate.Proofs.Render.Recalling
import SqlTemplate.Proofs.Render.Steps
import SqlTemplate.Proofs.Render.Relaxing

/-!
# Embedded templates in their place

A value that is a template of its own is written as if its parts stood in the place of the variable
that embeds it. `Template.inPlace` puts the parts of all such values into a tree whose variables can
be resolved beforehand, those that do not depend on a loop. Where the tree has a statement, the
tree with the parts in place has the same one (`Template.evaluateAt_inPlace`), whatever either of
them remembers from earlier evaluations.

The two trees differ in how deep templates may still nest below such a part: in place it is one
level more. So the walk through the tree either is refused for its depth, or comes to what the
other walk does, in the sense of `Outcome.Relaxes`.
-/

namespace SqlTemplate

open Outcome (Relaxes)

/-- The template that the variable embeds, if it is one that can be resolved outside all loops: the
variable is no in-list, is not quoted and does not start at the loop variable, and its value is a
text with a comment that can be parsed. -/
def Variable.resolved? (v : Variable) (rootAlias : String) (parameters : Parameters) :
    Option Template :=
  if v.test.quoted || v.test.inList || v.path.root == loopVariable then none
  else
    match Scope.resolve ⟨rootAlias, parameters, []⟩ v.path with
    | .ok (.string text) =>
      if holdsComment text.toList then (Template.parse v.nullDisallowed text).toOption else none
    | _ => none

mutual

/-- The parts that stand for a part once the templates in embedded values are in their place. -/
def Node.inPlace (rootAlias : String) (parameters : Parameters) : Node → List Node
  | .embedded v =>
    match v.resolved? rootAlias parameters with
    | some t => t.nodes
    | none => [.embedded v]
  | .branch condition source yes no =>
    [.branch condition source (inPlaceAll rootAlias parameters yes)
      (inPlaceAll rootAlias parameters no)]
  | .scope children => [.scope (inPlaceAll rootAlias parameters children)]
  | .loop path children => [.loop path (inPlaceAll rootAlias parameters children)]
  | .first children => [.first (inPlaceAll rootAlias parameters children)]
  | .last children => [.last (inPlaceAll rootAlias parameters children)]
  | .literal text => [.literal text]
  | .bind v => [.bind v]
  | .connector text => [.connector text]

/-- The parts that stand for parts. -/
def Node.inPlaceAll (rootAlias : String) (parameters : Parameters) : List Node → List Node
  | [] => []
  | node :: rest =>
    node.inPlace rootAlias parameters ++ inPlaceAll rootAlias parameters rest

end

/-- The template with the templates in embedded values in their place. -/
def Template.inPlace (t : Template) (rootAlias : String) (parameters : Parameters) : Template :=
  ⟨Node.inPlaceAll rootAlias parameters t.nodes⟩

/-! ## The variable -/

/-- Embedded templates nest too deep. -/
def RenderError.IsTooDeep (e : RenderError) : Prop :=
  ∃ path max, e = tooDeep path max

/-- A path that does not start at the loop variable has one value inside and outside all loops. -/
theorem Scope.resolve_outside {path : Path} (h : path.root ≠ loopVariable) (s : Scope) :
    s.resolve path = Scope.resolve ⟨s.rootAlias, s.parameters, []⟩ path := by
  have hroot : s.rootValue? path.root =
      Scope.rootValue? ⟨s.rootAlias, s.parameters, []⟩ path.root := by
    rw [rootValue?, rootValue?, if_neg h, if_neg h]
  simp only [resolve, hroot]

namespace Variable

variable {v : Variable} {s : Scope} {t : Template}

/-- What it takes for a variable to embed a template that can be resolved outside all loops. -/
theorem resolved?_eq_some {rootAlias : String} {parameters : Parameters}
    (h : v.resolved? rootAlias parameters = some t) :
    v.test.quoted = false ∧ v.test.inList = false ∧ v.path.root ≠ loopVariable ∧
      ∃ text, Scope.resolve ⟨rootAlias, parameters, []⟩ v.path = .ok (.string text) ∧
        holdsComment text.toList = true ∧ Template.parse v.nullDisallowed text = .ok t := by
  unfold resolved? at h
  split_ifs at h with hvariable
  -- None of the three conditions on the variable can have failed.
  simp only [Bool.or_eq_true, beq_iff_eq, not_or, Bool.not_eq_true] at hvariable
  obtain ⟨⟨hquoted, hlist⟩, hroot⟩ := hvariable
  refine ⟨hquoted, hlist, hroot, ?_⟩
  split at h
  · next text hresolve =>
    split_ifs at h with hcomment
    refine ⟨text, hresolve, hcomment, ?_⟩
    cases hparse : Template.parse v.nullDisallowed text with
    | ok t' =>
      rw [hparse] at h
      exact congrArg Except.ok (Option.some.inj h)
    | error e =>
      rw [hparse] at h
      exact absurd h.symm (Option.some_ne_none t)
  · exact absurd h.symm (Option.some_ne_none t)

/-- Such a variable is written as the template that it embeds. -/
theorem walk_resolved (h : v.resolved? s.rootAlias s.parameters = some t) (d : Dialect)
    (expand : Expansion) (b : Buffer) :
    ∃ text, Template.parse v.nullDisallowed text = .ok t ∧
      Node.walk d expand s (.embedded v) b = expand v s text b := by
  obtain ⟨hquoted, hlist, hroot, text, hresolve, hcomment, hparse⟩ := resolved?_eq_some h
  have hvalue : s.valueOf v.path = .ok (.string text) := by
    rw [Scope.valueOf, Scope.resolve_outside hroot, hresolve]
    rfl
  have hdemand : v.demand (.string text) = .ok (.scalar (.string text)) := by
    simp only [demand, hlist]
  have htemplate : v.templateText? (.string text) = some text := by
    simp [templateText?, hquoted, hcomment]
  refine ⟨text, hparse, ?_⟩
  rw [Node.walk, hvalue]
  show v.pushEmbedded d (expand v s) (.string text) b = _
  simp only [pushEmbedded, hdemand, bind, Except.bind, htemplate]

end Variable

/-! ## The tree -/

/-- Templates in embedded values may nest one level deeper. -/
theorem relaxes_expansion_succ (d : Dialect) (room : Nat) :
    (expansion d room).Relaxes {} RenderError.IsTooDeep (expansion d (room + 1)) :=
  relaxes_expansion (Revision.relaxes_refl _ d) (.inr fun path => ⟨path, maxDepth, rfl⟩) room

namespace Node

mutual

/-- Walking through a part is refused for its depth, or comes to what walking through its parts in
place does. -/
theorem relaxes_inPlace (d : Dialect) (room : Nat) : ∀ (node : Node) (s : Scope) (b : Buffer),
    Relaxes RenderError.IsTooDeep (node.walk d (expansion d (room + 1)) s b)
      (walkAll d (expansion d (room + 1)) s (node.inPlace s.rootAlias s.parameters) b)
  | .literal _, _, _ | .bind _, _, _ | .connector _, _, _ => by
    rw [inPlace, walkAll_singleton]
    exact .refl _
  | .embedded v, s, b => by
    rw [inPlace]
    cases hresolved : v.resolved? s.rootAlias s.parameters with
    | none => exact (walkAll_singleton ..).symm ▸ .refl _
    | some t =>
      obtain ⟨text, hparse, hwalk⟩ := v.walk_resolved hresolved d (expansion d (room + 1)) b
      rw [hwalk]
      show Relaxes _ ((Template.parse v.nullDisallowed text).mapError RenderError.parse >>= _) _
      rw [hparse]
      -- In place, the templates inside this one are one level less deep.
      have hwalks := relaxes_walkAll (Revision.relaxes_refl RenderError.IsTooDeep d)
        (relaxes_expansion_succ d room) s b t.nodes
      rwa [reviseAll_id] at hwalks
  | .branch condition source yes no, s, b => by
    rw [inPlace, walkAll_singleton]
    refine (Relaxes.refl _).bind fun holds => ?_
    cases holds with
    | true => exact relaxes_inPlaceAll d room yes s b
    | false => exact relaxes_inPlaceAll d room no s b
  | .scope children, s, b => by
    rw [inPlace, walkAll_singleton]
    exact (relaxes_inPlaceAll d room children s b.fork).bind fun _ => .refl _
  | .loop path children, s, b => by
    rw [inPlace, walkAll_singleton]
    refine (Relaxes.refl (s.loopItems path)).bind fun items => ?_
    exact Relaxes.foldlM (fun b frame => relaxes_inPlaceAll d room children (s.enter frame) b) _ b
  | .first children, s, b => by
    rw [inPlace, walkAll_singleton, walk, walk]
    split
    · exact relaxes_inPlaceAll d room children s b
    · exact .refl _
  | .last children, s, b => by
    rw [inPlace, walkAll_singleton, walk, walk]
    split
    · exact relaxes_inPlaceAll d room children s b
    · exact .refl _

/-- So it is with walking through parts one after the other. -/
theorem relaxes_inPlaceAll (d : Dialect) (room : Nat) :
    ∀ (nodes : List Node) (s : Scope) (b : Buffer),
    Relaxes RenderError.IsTooDeep (walkAll d (expansion d (room + 1)) s nodes b)
      (walkAll d (expansion d (room + 1)) s (inPlaceAll s.rootAlias s.parameters nodes) b)
  | [], _, _ => .refl _
  | node :: rest, s, b => by
    rw [inPlaceAll, walkAll_append]
    exact (relaxes_inPlace d room node s b).bind fun b => relaxes_inPlaceAll d room rest s b

end

end Node

namespace Template

/-- A tree is refused for its depth, or has the statement of the tree with its parts in place. -/
theorem relaxes_inPlace (t : Template) (d : Dialect) (rootAlias : String)
    (parameters : Parameters) :
    Relaxes RenderError.IsTooDeep (t.evaluate d rootAlias parameters)
      ((t.inPlace rootAlias parameters).evaluate d rootAlias parameters) :=
  (Node.relaxes_inPlaceAll d 7 t.nodes ⟨rootAlias, parameters, []⟩ {}).bind fun _ => .refl _

/-- Where a tree has a statement, the tree with its parts in place has the same one, whatever the
variables of either tree remember from earlier evaluations. -/
theorem evaluateAt_inPlace {t : Template} {place : Place} {earlier : List Evaluation}
    {d : Dialect} {rootAlias : String} {parameters : Parameters} {statement : Statement}
    (h : ((t.evaluateAt place d rootAlias parameters).run (t.memoryAfter place earlier)).1 =
      .ok statement) (place' : Place) (earlier' : List Evaluation) :
    let t' := t.inPlace rootAlias parameters
    ((t'.evaluateAt place' d rootAlias parameters).run (t'.memoryAfter place' earlier')).1 =
      .ok statement := by
  intro t'
  rw [evaluateAt_memoryAfter] at h ⊢
  rw [← h]
  refine (t.relaxes_inPlace d rootAlias parameters).eq ?_
  rintro _ ⟨path, max, rfl⟩
  rw [h]
  nofun

/-- A condition in a parameter, in each round of a loop and in a scope, after another one. -/
theorem evaluateAt_inPlace_rounds :
    let t : Template := ⟨[.literal "select * from t", .scope [.literal " where ",
      .loop ⟨"pmb", ["ids"]⟩ [.connector " or ", .embedded ⟨⟨"condition", []⟩, {}, true⟩]]]⟩
    let parameters (condition : String) : Parameters :=
      { properties := [("condition", .string condition),
          ("ids", .list [.integer 1, .integer 2])] }
    let p := parameters "id = /*#current*/0"
    let earlier : List Evaluation := [⟨{}, "pmb", parameters "name = /*#current*/0"⟩]
    ∃ statement : Statement, statement.sql = "select * from t where id = ? or id = ?" ∧
      ((t.evaluateAt [0] {} "pmb" p).run (t.memoryAfter [0] earlier)).1 = .ok statement ∧
      (((t.inPlace "pmb" p).evaluateAt [1] {} "pmb" p).run
        ((t.inPlace "pmb" p).memoryAfter [1] [])).1 = .ok statement := by
  intro t parameters p earlier
  have hsql : (t.evaluate {} "pmb" p).toOption.map Statement.sql =
      some "select * from t where id = ? or id = ?" := by decide +kernel
  obtain ⟨statement, hstatement, hsql⟩ := Outcome.exists_of_toOption_map hsql
  have hearlier : ((t.evaluateAt [0] {} "pmb" p).run (t.memoryAfter [0] earlier)).1 =
      .ok statement := (t.evaluateAt_memoryAfter [0] earlier {} "pmb" p).trans hstatement
  exact ⟨statement, hsql, hearlier, evaluateAt_inPlace hearlier [1] []⟩

end Template

end SqlTemplate
