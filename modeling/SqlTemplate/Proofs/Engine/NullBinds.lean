import SqlTemplate.Proofs.Engine.Strictness
import SqlTemplate.Proofs.Render.Visits
import SqlTemplate.Proofs.Template.Revision

/-!
# Rejecting null

An engine that rejects null refuses every variable whose value is null. This is asked of the value
as a whole and not of the elements of an in-list. `Session.rendered_reject` says what it comes to
for a statement: no variable that the evaluation visits is null, and null is bound exactly where an
in-list that it visits has a null element, so never if no list of the parameter object has one.

That a variable refuses null is seen from the tree, and the trees of embedded values inherit it
(`Pending.Gives.hasSetting`). The scopes of an evaluation lead to parts of its parameter object
(`Pending.Gives.within`).
-/

namespace SqlTemplate

/-! ## The setting of all variables -/

/-- The variables of the part have this setting: giving it to them changes nothing. -/
def Node.HasSetting (nullDisallowed : Bool) (node : Node) : Prop :=
  node.revise { setting := fun _ => nullDisallowed } = node

section Setting

variable {nullDisallowed : Bool}

/-- Parts that putting in the setting leaves alone have this setting. -/
theorem Node.hasSetting_of_reviseAll_eq {nodes : List Node}
    (h : reviseAll { setting := fun _ => nullDisallowed } nodes = nodes) :
    ∀ node ∈ nodes, node.HasSetting nullDisallowed := by
  rw [reviseAll_eq_map] at h
  exact List.map_inj_left.1 (h.trans (List.map_id nodes).symm)

/-- The parts inside a part have its setting. -/
theorem Node.HasSetting.children {node : Node} (h : node.HasSetting nullDisallowed) :
    ∀ child ∈ node.children, child.HasSetting nullDisallowed := by
  cases node with
  | literal | bind | embedded | connector => exact fun _ hchild => absurd hchild List.not_mem_nil
  | branch condition source yes no =>
    obtain ⟨-, -, hyes, hno⟩ := Node.branch.inj h
    exact List.forall_mem_append.2
      ⟨hasSetting_of_reviseAll_eq hyes, hasSetting_of_reviseAll_eq hno⟩
  | scope nodes => exact hasSetting_of_reviseAll_eq (Node.scope.inj h)
  | loop path nodes => exact hasSetting_of_reviseAll_eq (Node.loop.inj h).2
  | first nodes => exact hasSetting_of_reviseAll_eq (Node.first.inj h)
  | last nodes => exact hasSetting_of_reviseAll_eq (Node.last.inj h)

/-- The tree of a text has the setting that the text is parsed under. -/
theorem Template.hasSetting_of_parse {text : String} {t : Template}
    (h : parse nullDisallowed text = .ok t) :
    ∀ node ∈ t.nodes, node.HasSetting nullDisallowed := by
  have hparse := parse_setting (fun _ => nullDisallowed) nullDisallowed text
  rw [h] at hparse
  have hrevise : t = t.revise { setting := fun _ => nullDisallowed } := Except.ok.inj hparse
  exact Node.hasSetting_of_reviseAll_eq (congrArg Template.nodes hrevise).symm

/-- A part gives way to parts with its setting. -/
theorem Pending.Gives.hasSetting {limit : Option Nat} {p q : Pending}
    (hp : p.node.HasSetting nullDisallowed) (h : Gives limit p q) :
    q.node.HasSetting nullDisallowed := by
  cases h with
  | child h => exact hp.children _ h
  | round _ _ h => exact hp.children _ h
  | @template _ _ v _ _ _ _ hparse h =>
    have hv : v.revise _ = v := Node.embedded.inj hp
    have hsetting : nullDisallowed = v.nullDisallowed := congrArg Variable.nullDisallowed hv
    rw [hsetting]
    exact Template.hasSetting_of_parse hparse _ h

end Setting

/-! ## The scopes of an evaluation -/

/-- A part gives way to parts whose scopes are within the same value. -/
theorem Pending.Gives.within {limit : Option Nat} {root : Value} {p q : Pending}
    (hp : p.scope.Within root) (h : Gives limit p q) : q.scope.Within root := by
  cases h with
  | child | template => exact hp
  | round hitems hframe _ =>
    rcases hp.resolve hitems with hnull | hlist
    · exact nomatch hnull
    · exact hp.enter (hlist.item (LoopFrame.element_mem hframe))

namespace Pending

variable {p : Pending}

/-- The value of a part that is a variable. -/
def value? (p : Pending) : Option Value :=
  match p.node with
  | .bind v | .embedded v => (p.scope.resolve v.path).toOption
  | _ => none

/-- The value of a variable is null or a part of what its scope is within. -/
theorem contains_of_value? (p : Pending) {root value : Value} (hp : p.scope.Within root)
    (h : p.value? = some value) : value = .null ∨ root.Contains value := by
  obtain ⟨level, s, node⟩ := p
  have hresolve : ∀ v : Variable, (s.resolve v.path).toOption = some value →
      value = .null ∨ root.Contains value := by
    intro v hv
    cases hvalue : s.resolve v.path with
    | error e =>
      rw [hvalue] at hv
      exact nomatch hv
    | ok found =>
      rw [hvalue] at hv
      obtain rfl := Option.some.inj hv
      exact hp.resolve hvalue
  -- Only variables that are bound or embedded have a value.
  cases node with
  | bind v | embedded v => exact hresolve v h
  | _ => exact nomatch h

/-- A variable that can be replaced asks for something to be written. -/
theorem exists_demand {d : Dialect} {limit : Option Nat} {parts : List Pending} {v : Variable}
    (hv : p.node = .bind v ∨ p.node = .embedded v) (h : p.unfold d limit = .ok parts) :
    ∃ value demanded, p.value? = some value ∧ v.demand value = .ok demanded := by
  obtain ⟨level, s, node⟩ := p
  have hfound : ∀ value, s.valueOf v.path = .ok value →
      (s.resolve v.path).toOption = some value := by
    intro value hvalue
    rw [Scope.valueOf_eq_ok.1 hvalue]
    rfl
  -- The step looks the value up and asks what it demands, in either notation.
  rcases hv with rfl | rfl
  · obtain ⟨value, hvalue, h⟩ := Outcome.bind_eq_ok.1 h
    obtain ⟨b, hpush, -⟩ := Outcome.map_eq_ok.1 h
    obtain ⟨demanded, hdemand, -⟩ := Outcome.bind_eq_ok.1 hpush
    exact ⟨value, demanded, hfound value hvalue, hdemand⟩
  · obtain ⟨value, hvalue, h⟩ := Outcome.bind_eq_ok.1 h
    cases hdemand : v.demand value with
    | ok demanded => exact ⟨value, demanded, hfound value hvalue, hdemand⟩
    | error e =>
      simp only [Variable.embedded?, Variable.pushEmbedded, hdemand] at h
      cases h

/-- A variable that rejects null and can be replaced is not null. -/
theorem value?_ne_null {d : Dialect} {limit : Option Nat} {parts : List Pending}
    (hsetting : p.node.HasSetting true) (h : p.unfold d limit = .ok parts) :
    p.value? ≠ some .null := by
  intro hnull
  -- Under the setting a null value is refused as soon as it is demanded.
  have hrefuses : ∀ v : Variable, v.revise { setting := fun _ => true } = v →
      p.node = .bind v ∨ p.node = .embedded v → False := by
    intro v hrevise hv
    obtain ⟨value, demanded, hvalue, hdemand⟩ := exists_demand hv h
    obtain rfl := Option.some.inj (hvalue.symm.trans hnull)
    have hdisallowed : true = v.nullDisallowed := congrArg Variable.nullDisallowed hrevise
    unfold Variable.demand at hdemand
    rw [if_pos hdisallowed.symm] at hdemand
    exact nomatch hdemand
  obtain ⟨level, s, node⟩ := p
  cases node with
  | bind v => exact hrefuses v (Node.bind.inj hsetting) (.inl rfl)
  | embedded v => exact hrefuses v (Node.embedded.inj hsetting) (.inr rfl)
  | _ => exact nomatch hnull

/-- Null is among the binds of a variable if its value is a list with a null element. -/
theorem null_mem_binds_iff : (∃ bind ∈ p.binds, bind.value = .null) ↔
    ∃ v items, p.node = .bind v ∧ p.value? = some (.list items) ∧ Value.null ∈ items := by
  obtain ⟨level, s, node⟩ := p
  cases node with
  | bind v =>
    cases hresolve : s.resolve v.path with
    | error e => simp [binds, value?, hresolve, Except.toOption]
    | ok value =>
      cases value <;>
        simp [binds, value?, hresolve, Except.toOption, Variable.bindsOf]
  | _ => simp [binds]

end Pending

namespace Session

/-- An engine that rejects null renders a statement only if no variable that it visits is null, and
in this statement null is bound exactly if one of them is bound to a list with a null element. Such
a list is a part of the parameter object. -/
theorem rendered_reject {config : Config} (hpolicy : config.nullPolicy = .reject)
    {calls : List Engine.Call} {text : String} {parameters : Parameters} {statement : Statement}
    (h : rendered config calls text parameters = .ok statement) :
    ∃ t visited, Template.parse true text = .ok t ∧
      Visits config.toDialect (some maxDepth) (t.agenda config.rootAlias parameters) visited [] ∧
      (∀ p ∈ visited, p.value? ≠ some .null) ∧
      (Value.null ∈ statement.values ↔ ∃ p ∈ visited, ∃ v items, p.node = .bind v ∧
        p.value? = some (.list items) ∧ Value.null ∈ items) ∧
      (Value.null ∈ statement.values → ∃ items,
        (Value.object parameters.properties).Contains (.list items) ∧ Value.null ∈ items) := by
  rw [rendered_eq, hpolicy] at h
  obtain ⟨t, hparse, hevaluate⟩ := Outcome.bind_eq_ok.1 h
  rw [Outcome.mapError_eq_ok] at hparse
  obtain ⟨visited, hvisits, hbinds⟩ := Template.exists_visits hevaluate
  -- The binds are those of the nodes that are met, and one is null only as an element of a list.
  have hnull : Value.null ∈ statement.values ↔ ∃ p ∈ visited, ∃ v items, p.node = .bind v ∧
      p.value? = some (.list items) ∧ Value.null ∈ items := by
    rw [Statement.values, hbinds, List.mem_map]
    simp only [List.mem_flatMap, ← Pending.null_mem_binds_iff]
    tauto
  refine ⟨t, visited, hparse, hvisits, ?_, hnull, ?_⟩
  -- Each parser met under the policy passes it on to its variables.
  · have hsetting : ∀ p ∈ visited, p.node.HasSetting true := by
      refine hvisits.forall_mem Pending.Gives.hasSetting fun p hp => ?_
      obtain ⟨node, hnode, rfl⟩ := List.mem_map.1 hp
      exact Template.hasSetting_of_parse hparse node hnode
    intro p hp
    obtain ⟨parts, hunfold⟩ := hvisits.exists_unfold p hp
    exact Pending.value?_ne_null (hsetting p hp) hunfold
  -- Each node is met in a scope within the parameter object, so a list it finds is a part of it.
  · have hwithin : ∀ p ∈ visited, p.scope.Within (.object parameters.properties) := by
      refine hvisits.forall_mem Pending.Gives.within fun p hp => ?_
      obtain ⟨node, -, rfl⟩ := List.mem_map.1 hp
      exact ⟨.self, fun frame hframe => absurd hframe List.not_mem_nil⟩
    intro hmem
    obtain ⟨p, hp, v, items, -, hvalue, hitem⟩ := hnull.1 hmem
    rcases p.contains_of_value? (hwithin p hp) hvalue with hnull | hcontains
    · exact nomatch hnull
    · exact ⟨items, hcontains, hitem⟩

/-- A statement with a bound list, a loop and an embedded template, none of whose values is null. -/
theorem rendered_reject_rounds :
    let config : Config := { nullPolicy := .reject }
    let text := "a in /*ids*/(1)/*FOR rows*/ or b = /*#current*/1/*END*/ /*$more*/x"
    let list : Value := .list [.integer 1, .integer 2]
    let parameters : Parameters := { properties := [("ids", list),
      ("more", .string "or c < /*pmb.z*/1"), ("rows", list), ("z", .string "z")] }
    ∃ statement, rendered config [] text parameters = .ok statement ∧
      statement.sql = "a in (?, ?) or b = ? or b = ? or c < ?" ∧
      ∃ t visited, Template.parse true text = .ok t ∧
        Visits config.toDialect (some maxDepth) (t.agenda config.rootAlias parameters) visited [] ∧
        (∀ p ∈ visited, p.value? ≠ some .null) ∧
        (Value.null ∈ statement.values ↔ ∃ p ∈ visited, ∃ v items, p.node = .bind v ∧
          p.value? = some (.list items) ∧ Value.null ∈ items) ∧
        (Value.null ∈ statement.values → ∃ items,
          (Value.object parameters.properties).Contains (.list items) ∧ Value.null ∈ items) := by
  intro config text list parameters
  have hsql : ((Template.parse (config.nullPolicy == .reject) text).mapError RenderError.parse >>=
      fun t => t.evaluate config.toDialect config.rootAlias parameters).toOption.map
        Statement.sql = some "a in (?, ?) or b = ? or b = ? or c < ?" := by
    decide +kernel
  obtain ⟨statement, hrendered, hstatement⟩ := rendered_sql config [] text parameters _ hsql
  exact ⟨statement, hrendered, hstatement, rendered_reject rfl hrendered⟩

/-- A null element of a list is bound. -/
theorem rendered_reject_null :
    let parameters : Parameters := { properties := [("x", .list [.integer 1, .null])] }
    ∃ statement, rendered { nullPolicy := .reject } [] "in /*x*/(1)" parameters = .ok statement ∧
      statement.sql = "in (?, ?)" ∧ Value.null ∈ statement.values := by
  intro parameters
  have htokens : Token.ofText "in /*x*/(1)" =
      .ok [⟨.sql "in ", 0⟩, ⟨.bind "x" ⟨"(1)", false, true⟩, 3⟩] := by
    decide +kernel
  refine ⟨⟨"in (?, ?)", [.ofValue (.integer 1) "x", .ofValue .null "x"]⟩, ?_, rfl,
    List.mem_cons_of_mem _ List.mem_cons_self⟩
  rw [rendered_eq]
  show ((Template.parse true "in /*x*/(1)").mapError RenderError.parse >>= _) = _
  rw [Template.parse_eq_ofTokens htokens]
  rfl

end Session

end SqlTemplate
