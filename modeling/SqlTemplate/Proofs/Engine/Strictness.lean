import Mathlib.Order.WithBot
import SqlTemplate.Proofs.Engine.Session
import SqlTemplate.Proofs.Render.Relaxing

/-!
# Stricter settings

An engine may reject null or skip it, and it has a limit for in-lists or none. The stricter setting
only turns statements into faults: where the strict engine does not end with the fault of its
setting, the other engine gives the same answer, be it a statement or another fault
(`Session.rendered_relaxed`). Both settings are changes of the variables and of the dialect in the
sense of `Revision.Relaxes`, and a template in an embedded value gets the setting of its variable,
so that what holds of the walk holds of an engine.
-/

namespace SqlTemplate

open Outcome (Relaxes)

/-- The greatest number of elements of one in-list, infinite if there is no limit. -/
def Dialect.inListCapacity (d : Dialect) : WithTop Nat :=
  match d.inListLimit with
  | some max => WithTop.some max
  | none => ⊤

/-- Null has been rejected. -/
def RenderError.IsNullBind (e : RenderError) : Prop :=
  ∃ path, e = nullBind path

/-- An in-list has been too long. -/
def RenderError.IsInListLimit (e : RenderError) : Prop :=
  ∃ path size max, e = inListLimit path size max

namespace Variable

/-- A variable that skips null asks for what it does where null is rejected. -/
theorem relaxes_demand (v : Variable) (value : Value) :
    Relaxes RenderError.IsNullBind (v.demand value)
      ((v.revise { setting := fun _ => false }).demand value) := by
  cases value with
  | null =>
    cases hnull : v.nullDisallowed with
    | true =>
      have hreject : v.demand .null = .error (.nullBind v.path) := by simp [demand, hnull]
      rw [hreject]
      exact .error ⟨v.path, rfl⟩ _
    | false =>
      refine .inr ?_
      simp [demand, revise, hnull]
  | _ =>
    refine .inr ?_
    cases hlist : v.test.inList <;> simp [demand, revise, hlist]

/-- A size is accepted exactly if the capacity allows for it. -/
theorem checkSize_of_le {v : Variable} {d : Dialect} {size : Nat}
    (h : WithTop.some size ≤ d.inListCapacity) : v.checkSize d size = .ok () := by
  unfold Dialect.inListCapacity at h
  unfold checkSize
  cases hlimit : d.inListLimit with
  | none => rfl
  | some max =>
    simp only [hlimit, WithTop.coe_le_coe] at h
    exact if_neg (Nat.not_lt.2 h)

/-- A list beyond the capacity of the dialect is refused for its size. -/
theorem checkSize_of_lt {v : Variable} {d : Dialect} {size : Nat}
    (h : d.inListCapacity < WithTop.some size) :
    ∃ e, RenderError.IsInListLimit e ∧ v.checkSize d size = .error e := by
  unfold Dialect.inListCapacity at h
  unfold checkSize
  cases hlimit : d.inListLimit with
  | none => simp [hlimit] at h
  | some max =>
    simp only [hlimit, WithTop.coe_lt_coe] at h
    exact ⟨_, ⟨v.path, size, max, rfl⟩, if_pos h⟩

/-- A dialect of greater capacity accepts what one of smaller capacity does. -/
theorem relaxes_checkSize {d d' : Dialect} (h : d.inListCapacity ≤ d'.inListCapacity)
    (v : Variable) (size : Nat) :
    Relaxes RenderError.IsInListLimit (v.checkSize d size) (v.checkSize d' size) := by
  rcases le_or_gt (WithTop.some size) d.inListCapacity with hsize | hsize
  · exact .inr ((checkSize_of_le hsize).trans (checkSize_of_le (hsize.trans h)).symm)
  · exact .inl (checkSize_of_lt hsize)

end Variable

/-! ## The two settings -/

/-- Skipping null instead of rejecting it. -/
theorem Revision.relaxes_skip (d : Dialect) :
    Relaxes { setting := fun _ => false } RenderError.IsNullBind d d :=
  ⟨rfl, fun _ => rfl, Variable.relaxes_demand, fun _ _ => .refl _⟩

/-- A greater limit for in-lists, or none. -/
theorem Revision.relaxes_limit {kind : DialectKind} {limit limit' : Option Nat}
    (h : Dialect.inListCapacity ⟨kind, limit⟩ ≤ Dialect.inListCapacity ⟨kind, limit'⟩) :
    Relaxes {} RenderError.IsInListLimit ⟨kind, limit⟩ ⟨kind, limit'⟩ :=
  ⟨rfl, fun _ => rfl, fun _ _ => .refl _, Variable.relaxes_checkSize h⟩

/-- A text that is parsed under a setting and evaluated is refused, or comes to what it does after
the change. -/
theorem Template.relaxes_parse {setting : Bool → Bool} {refused : RenderError → Prop}
    {d d' : Dialect} (h : Revision.Relaxes { setting } refused d d') (nullDisallowed : Bool)
    (text rootAlias : String) (parameters : Parameters) :
    Relaxes refused
      ((parse nullDisallowed text).mapError RenderError.parse >>=
        fun t => t.evaluate d rootAlias parameters)
      ((parse (setting nullDisallowed) text).mapError RenderError.parse >>=
        fun t => t.evaluate d' rootAlias parameters) := by
  have hexpand := relaxes_expansion h (.inl rfl) maxDepth
  rw [parse_setting]
  cases parse nullDisallowed text with
  | error e => exact .refl (.error (RenderError.parse e))
  | ok t => exact relaxes_evaluate h hexpand t rootAlias parameters

namespace Session

/-- A text is rendered if evaluating it comes to a statement. -/
theorem rendered_sql (config : Config) (calls : List Engine.Call) (text : String)
    (parameters : Parameters) (sql : String)
    (h : ((Template.parse (config.nullPolicy == .reject) text).mapError RenderError.parse >>=
      fun t => t.evaluate config.toDialect config.rootAlias parameters).toOption.map
        Statement.sql = some sql) :
    ∃ statement : Statement, rendered config calls text parameters = .ok statement ∧
      statement.sql = sql := by
  rw [rendered_eq]
  exact Outcome.exists_of_toOption_map h

/-- Where an engine that rejects null does not end with that fault, an engine that skips null gives
the same answer. Where an engine does not end with the fault of a limit for in-lists, an engine of
the same kind with a greater limit or none gives the same answer. -/
theorem rendered_relaxed (config : Config) (calls calls' : List Engine.Call) (text : String)
    (parameters : Parameters) :
    ((∀ path, rendered { config with nullPolicy := .reject } calls text parameters ≠
        .error (.nullBind path)) →
      rendered { config with nullPolicy := .skip } calls' text parameters =
        rendered { config with nullPolicy := .reject } calls text parameters) ∧
    ∀ limit limit' : Option Nat,
      Dialect.inListCapacity ⟨config.dialect, limit⟩ ≤
        Dialect.inListCapacity ⟨config.dialect, limit'⟩ →
      (∀ path size max, rendered { config with inListLimit := limit } calls text parameters ≠
        .error (.inListLimit path size max)) →
      rendered { config with inListLimit := limit' } calls' text parameters =
        rendered { config with inListLimit := limit } calls text parameters := by
  constructor
  · intro hstrict
    -- The looser policy answers alike, unless the stricter one has found a null.
    have hrelaxes := Template.relaxes_parse (Revision.relaxes_skip config.toDialect) true text
      config.rootAlias parameters
    rw [rendered_eq] at hstrict
    rw [rendered_eq, rendered_eq]
    refine hrelaxes.eq ?_
    rintro _ ⟨path, rfl⟩
    exact hstrict path
  · intro limit limit' hle hstrict
    -- And so for the larger limit, unless the smaller one has been passed.
    have hrelaxes := Template.relaxes_parse (Revision.relaxes_limit hle)
      (config.nullPolicy == .reject) text config.rootAlias parameters
    rw [rendered_eq] at hstrict
    rw [rendered_eq, rendered_eq]
    refine hrelaxes.eq ?_
    rintro _ ⟨path, size, max, rfl⟩
    exact hstrict path size max

/-- Neither setting shows in a template whose embedded value holds an in-list that has room. -/
theorem rendered_relaxed_inner :
    let text := "select * from t where a = /*a*/1 /*$b*/"
    let ids : Value := .list [.integer 1, .null]
    let parameters : Parameters :=
      { properties := [("a", .integer 3), ("b", .string "and c in /*ids*/(1)"), ("ids", ids)] }
    let config : Config := { dialect := .oracle }
    let sql := "select * from t where a = ? and c in (?, ?)"
    (∃ statement : Statement, statement.sql = sql ∧
      rendered { config with nullPolicy := .reject } [] text parameters = .ok statement ∧
      rendered { config with nullPolicy := .skip } [.clear] text parameters = .ok statement) ∧
    ∃ statement : Statement, statement.sql = sql ∧
      rendered { config with inListLimit := some 2 } [] text parameters = .ok statement ∧
      rendered { config with inListLimit := none } [.clear] text parameters = .ok statement := by
  intro text ids parameters config sql
  constructor
  · obtain ⟨statement, hstatement, hsql⟩ := rendered_sql { config with nullPolicy := .reject } []
      text parameters sql (by decide +kernel)
    have hnull : ∀ path, rendered { config with nullPolicy := .reject } [] text parameters ≠
        .error (.nullBind path) := by
      intro path
      rw [hstatement]
      nofun
    have hsame := (rendered_relaxed config [] [.clear] text parameters).1 hnull
    refine ⟨statement, hsql, hstatement, ?_⟩
    rw [hsame, hstatement]
  · obtain ⟨statement, hstatement, hsql⟩ := rendered_sql { config with inListLimit := some 2 } []
      text parameters sql (by decide +kernel)
    have hsize : ∀ path size max, rendered { config with inListLimit := some 2 } [] text
        parameters ≠ .error (.inListLimit path size max) := by
      intro path size max
      rw [hstatement]
      nofun
    have hsame := (rendered_relaxed config [] [.clear] text parameters).2 (some 2) none
      (by decide) hsize
    refine ⟨statement, hsql, hstatement, ?_⟩
    rw [hsame, hstatement]

end Session

end SqlTemplate
