import SqlTemplate.Proofs.Render.FaultKind
import SqlTemplate.Proofs.Value.Alike

/-!
# Bound values do not show in the text

A template that embeds no value and whose conditions ask for null only, `Template.isBlind`, writes
the same text for any two parameter objects of the same shape: `evaluate_alike` states this of two
runs, for the text, the number and the sources of the binds, and the kind of a fault.

The proof runs the walk twice, on two scopes of the same shape (`Scope.Alike`) and two buffers with
the same text (`Buffer.Alike`). Conditions are decided alike (`Scope.Alike.holds`), variables are
written alike (`Variable.alike_pushBound`), and `Node.alike_walk` goes through the parts of a
template.
-/

namespace SqlTemplate

open Outcome (Agree)

/-- The condition only asks which values are null. -/
def Expr.asksNullOnly : Expr → Bool
  | .compare (.path _) op (.literal .null) | .compare (.literal .null) op (.path _) =>
    op == .eq || op == .ne
  | .compare _ _ _ | .operand _ => false
  | .and left right | .or left right => left.asksNullOnly && right.asksNullOnly
  | .not inner => inner.asksNullOnly

mutual

/-- The part of a template embeds no value and asks of a value only whether it is null. -/
def Node.isBlind : Node → Bool
  | .literal _ | .bind _ | .connector _ => true
  | .embedded _ => false
  | .branch condition _ yes no =>
    condition.asksNullOnly && areBlind yes && areBlind no
  | .scope children | .loop _ children | .first children | .last children => areBlind children

/-- So do all the parts. -/
def Node.areBlind : List Node → Bool
  | [] => true
  | node :: rest => node.isBlind && areBlind rest

end

/-- The template embeds no value and asks of a value only whether it is null. -/
def Template.isBlind (t : Template) : Bool :=
  Node.areBlind t.nodes

/-- The two buffers have the same text and the same sources of their binds. -/
structure Buffer.Alike (b c : Buffer) : Prop where
  /-- They count on from the same number. -/
  base : b.base = c.base
  /-- The texts are the same. -/
  sql : b.sql = c.sql
  /-- Each bind comes from the same path as the other. -/
  sources : b.binds.map Bind.source = c.binds.map Bind.source

/-- The two statements differ at most in the values of their binds and in the types of these. -/
structure Statement.Alike (s t : Statement) : Prop where
  /-- The texts are the same. -/
  sql : s.sql = t.sql
  /-- There are as many binds. -/
  count : s.binds.length = t.binds.length
  /-- Each bind comes from the same path as the other. -/
  sources : s.binds.map Bind.source = t.binds.map Bind.source

namespace Buffer.Alike

variable {b c : Buffer}

/-- Buffers that look alike have the same number of binds. -/
theorem count (h : b.Alike c) : b.binds.length = c.binds.length := by
  have hlength := congrArg List.length h.sources
  rwa [List.length_map, List.length_map] at hlength

/-- And count on from the same position. -/
theorem position (h : b.Alike c) : b.position = c.position := by
  rw [Buffer.position, Buffer.position, h.base, h.count]

/-- The same text is added to both. -/
theorem push (h : b.Alike c) (text : String) : (b.push text).Alike (c.push text) := by
  refine ⟨h.base, ?_, h.sources⟩
  rw [Buffer.push, Buffer.push, h.sql]

/-- A bind from one source is added to both; its value may differ. -/
theorem pushBind (h : b.Alike c) (d : Dialect) {bind bind' : Bind}
    (hsource : bind.source = bind'.source) : (b.pushBind d bind).Alike (c.pushBind d bind') := by
  refine ⟨h.base, ?_, ?_⟩
  · rw [Buffer.pushBind, Buffer.pushBind, h.sql, h.position]
  · rw [Buffer.pushBind, Buffer.pushBind, List.map_append, List.map_append, h.sources]
    rw [List.map_singleton, List.map_singleton, hsource]

/-- Scopes inside alike buffers start alike. -/
theorem fork (h : b.Alike c) : b.fork.Alike c.fork :=
  ⟨h.position, rfl, rfl⟩

/-- Scopes with the same text are pruned alike. -/
theorem mergePruned (h : b.Alike c) {child child' : Buffer} (hchild : child.Alike child') :
    (b.mergePruned child).Alike (c.mergePruned child') := by
  unfold Buffer.mergePruned
  rw [hchild.sql]
  split
  · refine ⟨h.base, ?_, ?_⟩
    · rw [Buffer.merge, Buffer.merge, h.sql]
    · rw [Buffer.merge, Buffer.merge, List.map_append, List.map_append, h.sources, hchild.sources]
  · exact h

/-- They become statements that look alike. -/
theorem toStatement (h : b.Alike c) : b.toStatement.Alike c.toStatement :=
  ⟨h.sql, h.count, h.sources⟩

end Buffer.Alike

namespace Scope.Alike

variable {s t : Scope}

/-- The value that a step asks for is alike in both scopes. -/
theorem valueOf (h : s.Alike t) (path : Path) :
    Agree RenderError.kind Value.Alike (s.valueOf path) (t.valueOf path) :=
  (h.resolve path).mapError fun _ => rfl

/-- Loops run over alike elements. -/
theorem loopItems (h : s.Alike t) (path : Path) :
    Agree RenderError.kind (List.Forall₂ Value.Alike) (s.loopItems path) (t.loopItems path) := by
  refine (h.valueOf path).bind ?_
  intro v w hvalue
  cases hvalue with
  | null => exact .ok .nil
  | list hitems => exact .ok hitems
  | object => exact .error rfl
  | scalar hv hw =>
    -- Neither value is null or a list, so both runs end here.
    split
    · exact absurd hv Bool.false_ne_true
    · exact absurd hv Bool.false_ne_true
    · split
      · exact absurd hw Bool.false_ne_true
      · exact absurd hw Bool.false_ne_true
      · exact .error rfl

end Scope.Alike

namespace Scope

variable {s t : Scope}

/-- A comparison with null asks only whether the value is null. -/
theorem holds_compare_null (s : Scope) (path : Path) (op : CompareOp) :
    s.holds (.compare (.path path) op (.literal .null)) =
      (s.resolve path).map fun v => op.holdsWithNull v.isNull := by
  simp only [holds, operandValues, operandValue]
  cases s.resolve path with
  | error e => rfl
  | ok v =>
    show op.apply v .null = _
    rw [CompareOp.apply, Value.isNull, Bool.or_true, if_pos rfl, Bool.and_true]
    rfl

/-- So does one with null on the left. -/
theorem holds_null_compare (s : Scope) (path : Path) (op : CompareOp) :
    s.holds (.compare (.literal .null) op (.path path)) =
      (s.resolve path).map fun v => op.holdsWithNull v.isNull := by
  simp only [holds, operandValues, operandValue]
  cases s.resolve path with
  | error e => rfl
  | ok v =>
    show op.apply .null v = _
    rw [CompareOp.apply, Value.isNull, Bool.true_or, if_pos rfl, Bool.true_and]
    rfl

/-- A condition that only asks for null has the same answer in alike scopes. -/
theorem Alike.holds (h : s.Alike t) (condition : Expr) (hnull : condition.asksNullOnly = true) :
    Agree ConditionError.kind Eq (s.holds condition) (t.holds condition) := by
  have hcompare : ∀ (path : Path) (op : CompareOp), Agree ConditionError.kind Eq
      ((s.resolve path).map fun v => op.holdsWithNull v.isNull)
      ((t.resolve path).map fun v => op.holdsWithNull v.isNull) := by
    intro path op
    refine (h.resolve path).map ?_
    intro v w hvalue
    rw [hvalue.isNull_eq]
  -- On the condition, by the cases of what it asks for; the second part of a joint is looked at in
  -- both runs or in neither, since the first part has the same answer.
  fun_induction Expr.asksNullOnly condition with
  | case1 path op =>
    rw [holds_compare_null, holds_compare_null]
    exact hcompare path op
  | case2 op path =>
    rw [holds_null_compare, holds_null_compare]
    exact hcompare path op
  | case3 => simp at hnull
  | case4 => simp at hnull
  | case5 left right ihl ihr =>
    obtain ⟨hleft, hright⟩ := Bool.and_eq_true_iff.1 hnull
    refine (ihl hleft).bind ?_
    rintro holds _ rfl
    cases holds with
    | true => exact ihr hright
    | false => exact .ok rfl
  | case6 left right ihl ihr =>
    obtain ⟨hleft, hright⟩ := Bool.and_eq_true_iff.1 hnull
    refine (ihl hleft).bind ?_
    rintro holds _ rfl
    cases holds with
    | true => exact .ok rfl
    | false => exact ihr hright
  | case7 inner ih =>
    refine (ih hnull).bind ?_
    rintro holds _ rfl
    exact .ok rfl

end Scope

/-- The two demands have the same shape. -/
inductive Demand.Alike : Demand → Demand → Prop
  /-- Nothing is written. -/
  | nothing : Alike .nothing .nothing
  /-- One value is written. -/
  | scalar {v w : Value} (h : v.Alike w) : Alike (.scalar v) (.scalar w)
  /-- In-lists of the same length are written. -/
  | items {vs ws : List Value} (h : List.Forall₂ Value.Alike vs ws) : Alike (.items vs) (.items ws)

namespace Variable

/-- A scalar is asked for by itself, unless the variable is an in-list. -/
theorem demand_of_isScalar (v : Variable) {value : Value} (h : value.isScalar = true) :
    v.demand value =
      if v.test.inList then .error (.notList v.path value.typeName) else .ok (.scalar value) := by
  cases hlist : v.test.inList <;> cases value <;>
    first | exact absurd h Bool.false_ne_true | simp [demand, hlist]

/-- Alike values make alike demands. -/
theorem alike_demand (v : Variable) {value value' : Value} (h : value.Alike value') :
    Agree RenderError.kind Demand.Alike (v.demand value) (v.demand value') := by
  cases h with
  | null =>
    unfold demand
    dsimp only
    split_ifs
    · exact .error rfl
    · exact .ok .nothing
  -- What is asked for depends on the kind of the value alone.
  | scalar hv hw =>
    rw [demand_of_isScalar v hv, demand_of_isScalar v hw]
    split_ifs
    · exact .error rfl
    · exact .ok (.scalar (.scalar hv hw))
  | list hitems =>
    cases hlist : v.test.inList with
    | true =>
      simp only [demand, hlist]
      exact .ok (.items hitems)
    | false =>
      simp only [demand, hlist]
      exact .error rfl
  | object => exact .error rfl

variable {b c : Buffer}

/-- In-lists of alike elements are written alike. -/
theorem alike_pushItems (v : Variable) (d : Dialect) {items items' : List Value}
    (h : List.Forall₂ Value.Alike items items') (index : Nat) (hb : b.Alike c) :
    Agree RenderError.kind Buffer.Alike (v.pushItems d index items b)
      (v.pushItems d index items' c) := by
  -- On the two lists side by side; an element is a list or an object in both or in neither.
  induction h generalizing index b c with
  | nil => exact .ok hb
  | cons hitem _ ih =>
    unfold pushItems
    rw [hitem.isCompound_eq]
    split_ifs
    · exact .error rfl
    · exact ih (index + 1) (hb.pushBind d rfl)
    · exact ih (index + 1) ((hb.push ", ").pushBind d rfl)

/-- Alike values are bound alike. -/
theorem alike_pushBound (v : Variable) (d : Dialect) {value value' : Value}
    (h : value.Alike value') (hb : b.Alike c) :
    Agree RenderError.kind Buffer.Alike (v.pushBound d value b) (v.pushBound d value' c) := by
  refine (v.alike_demand h).bind ?_
  intro demand demand' hdemand
  cases hdemand with
  | nothing => exact .ok hb
  | scalar => exact .ok (hb.pushBind d rfl)
  | @items vs ws hitems =>
    have hsize : Agree RenderError.kind Eq (v.checkSize d vs.length) (v.checkSize d ws.length) := by
      rw [hitems.length_eq]
      cases v.checkSize d ws.length with
      | ok => exact .ok rfl
      | error => exact .error rfl
    refine hsize.bind ?_
    rintro _ _ rfl
    -- The lists are empty together.
    cases hitems with
    | nil => exact .ok (hb.push "(null)")
    | cons hfirst hrest =>
      refine (v.alike_pushItems d (.cons hfirst hrest) 0 (hb.push "(")).bind ?_
      intro _ _ hinner
      exact .ok (hinner.push ")")

end Variable

namespace Node

variable {d : Dialect} {expand expand' : Expansion}

mutual

/-- A part of a template that embeds nothing is written alike in alike scopes. -/
theorem alike_walk {s t : Scope} (hs : s.Alike t) {b c : Buffer} (hb : b.Alike c) :
    (node : Node) → node.isBlind = true →
    Agree RenderError.kind Buffer.Alike (node.walk d expand s b) (node.walk d expand' t c)
  | .literal text, _ => .ok (hb.push text)
  | .bind v, _ => (hs.valueOf v.path).bind fun hvalue => v.alike_pushBound d hvalue hb
  | .embedded _, hnode => absurd hnode Bool.false_ne_true
  | .branch condition _ yes no, hnode => by
    obtain ⟨hparts, hno⟩ := Bool.and_eq_true_iff.1 hnode
    obtain ⟨hcondition, hyes⟩ := Bool.and_eq_true_iff.1 hparts
    have hholds := hs.holds condition hcondition
    refine (hholds.mapError (f := RenderError.condition) fun _ => rfl).bind ?_
    rintro holds _ rfl
    cases holds with
    | true => exact alike_walkAll hs hb yes hyes
    | false => exact alike_walkAll hs hb no hno
  | .scope children, hnode => by
    refine (alike_walkAll hs hb.fork children hnode).bind ?_
    intro _ _ hchild
    exact .ok (hb.mergePruned hchild)
  | .loop path children, hnode => by
    refine (hs.loopItems path).bind ?_
    intro items items' hitems
    -- Each round goes on from alike buffers, in scopes that alike elements have been added to.
    refine Agree.foldlM ?_ (LoopFrame.alike_ofItems hitems) hb
    intro _ _ _ _ hround hframe
    exact alike_walkAll (hs.enter hframe) hround children hnode
  | .connector text, _ => by
    rw [Node.walk, Node.walk, hs.any_current? fun h => congrArg (!·) h.isFirst_eq]
    split
    · exact .ok (hb.push text)
    · exact .ok hb
  | .first children, hnode => by
    rw [Node.walk, Node.walk, hs.any_current? LoopFrame.Alike.isFirst_eq]
    split
    · exact alike_walkAll hs hb children hnode
    · exact .ok hb
  | .last children, hnode => by
    rw [Node.walk, Node.walk, hs.any_current? LoopFrame.Alike.isLast_eq]
    split
    · exact alike_walkAll hs hb children hnode
    · exact .ok hb

/-- Parts of a template that embed nothing are written alike in alike scopes. -/
theorem alike_walkAll {s t : Scope} (hs : s.Alike t) {b c : Buffer} (hb : b.Alike c) :
    (nodes : List Node) → areBlind nodes = true →
    Agree RenderError.kind Buffer.Alike (walkAll d expand s nodes b) (walkAll d expand' t nodes c)
  | [], _ => .ok hb
  | node :: rest, hnodes => by
    obtain ⟨hnode, hrest⟩ := Bool.and_eq_true_iff.1 hnodes
    refine (alike_walk hs hb node hnode).bind ?_
    intro _ _ hnext
    exact alike_walkAll hs hnext rest hrest

end

end Node

/-- What a template binds does not show in its text: for two parameter objects of the same shape a
template that embeds no value and asks of values only whether they are null either fails for the
same kind of reason, or has statements with the same text, as many binds, and the same sources of
these in the same places. -/
theorem Template.evaluate_alike {t : Template} (ht : t.isBlind = true) (d : Dialect)
    (rootAlias : String) {p q : Parameters} (h : p.Alike q) :
    Agree RenderError.kind Statement.Alike (t.evaluate d rootAlias p)
      (t.evaluate d rootAlias q) := by
  have hscope : Scope.Alike ⟨rootAlias, p, []⟩ ⟨rootAlias, q, []⟩ := ⟨rfl, h, .nil⟩
  refine (Node.alike_walkAll hscope ⟨rfl, rfl, rfl⟩ t.nodes ht).bind ?_
  intro b c hbuffers
  exact .ok hbuffers.toStatement

/-- A harmful string and a number are bound in the same text. -/
theorem Template.evaluate_alike_injection :
    let bound (path : Path) : Node := .bind ⟨path, {}, false⟩
    let notNull (path : Path) : Expr := .not (.compare (.literal .null) .eq (.path path))
    let t : Template := ⟨[.literal "select * from t", .scope [.literal " where",
      .branch (notNull ⟨"name", []⟩) "" [.literal " name = ", bound ⟨"name", []⟩] [],
      .loop ⟨"pmb", ["ids"]⟩
        [.scope [.connector " or", .literal " id = ", bound ⟨"#current", ["id"]⟩]]]]⟩
    let parameters (name id : Value) : Parameters :=
      { properties := [("ids", .list [.object [("id", id)], .null]), ("name", name)] }
    let p := parameters (.string "x' or 1 = 1 --") (.integer 1)
    let q := parameters (.integer 7) (.bool true)
    t.isBlind = true ∧ p.Alike q ∧
    Agree RenderError.kind Statement.Alike (t.evaluate {} "pmb" p) (t.evaluate {} "pmb" q) := by
  intro bound notNull t parameters p q
  have hblind : t.isBlind = true := by decide
  have hids : List.Forall₂ Value.Alike [.object [("id", .integer 1)], .null]
      [.object [("id", .bool true)], .null] :=
    .cons (.object rfl (.cons (.scalar rfl rfl) .nil)) (.cons .null .nil)
  have halike : p.Alike q := .object rfl (.cons (.list hids) (.cons (.scalar rfl rfl) .nil))
  exact ⟨hblind, halike, Template.evaluate_alike hblind {} "pmb" halike⟩

end SqlTemplate
