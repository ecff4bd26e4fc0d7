import Mathlib.Data.List.Induction
import SqlTemplate.Query

/-!
# Runs of a query

A query is used by a run of calls, each of which registers a condition or resets the query; a
registration that fails leaves the query as it is. What a registration does is said once, in
`Registered`: it fails, or is ignored, or repeats, overrides or adds a condition, and each case
comes with what decided it. The equations of `fixed?` and of the clauses say what a decision
changes.
-/

namespace SqlTemplate

/-- The column and the kind of condition, which make a condition what it is. -/
def Registration.pair (r : Registration) : String × ConditionKey :=
  (r.column, r.key)

/-- The column and the kind of condition of a clause. -/
def Clause.pair (clause : Clause) : String × ConditionKey :=
  (clause.column, clause.key)

/-- A clause is one of the column and the kind that were asked for. -/
theorem Registration.pair_clause (r : Registration) (limit : Option Nat) (value : Value) :
    (r.clause limit value).pair = r.pair := by
  unfold Registration.clause
  split <;> rfl

namespace ConditionQuery

/-- A call of a query. -/
inductive Call where
  /-- A condition is registered. -/
  | register (r : Registration)
  /-- All conditions are forgotten. -/
  | reset

/-- The query after a call; a registration that fails leaves it as it is. -/
def after (q : ConditionQuery) : Call → ConditionQuery
  | .register r =>
    match q.register r with
    | .ok (_, q') => q'
    | .error _ => q
  | .reset => q.reset

/-- After a registration the query is what registering gives, or the same as before if that fails.
-/
theorem after_register (q : ConditionQuery) (r : Registration) :
    q.after (.register r) =
      match q.register r with
      | .ok (_, q') => q'
      | .error _ => q :=
  rfl

/-- The query after a run of calls. -/
def run (d : Dialect) (calls : List Call) : ConditionQuery :=
  calls.foldl after { dialect := d }

/-- The condition that is recorded for a column and a kind. -/
def fixed? (q : ConditionQuery) (pair : String × ConditionKey) : Option FixedCondition :=
  (q.column pair.1).fixed pair.2

/-! ## What a decision changes -/

variable {q : ConditionQuery} {r : Registration} {value : Value} {pair : String × ConditionKey}

/-- Setting the state of a column leaves the conditions of the others alone. -/
theorem fixed?_setColumn (q : ConditionQuery) (column : String) (s : ColumnState)
    (pair : String × ConditionKey) :
    (q.setColumn column s).fixed? pair =
      if pair.1 = column then s.fixed pair.2 else q.fixed? pair := by
  unfold fixed? ConditionQuery.column setColumn
  split
  · next h => rw [h, NameMap.get?_set_self, Option.getD_some]
  · next h => rw [NameMap.get?_set_of_ne h]

/-- A registration that is ignored changes no condition. -/
theorem fixed?_ignore : (q.carryOut r value .ignore).fixed? pair = q.fixed? pair := by
  rw [carryOut, fixed?_setColumn]
  split
  · next h => rw [fixed?, h]
  · rfl

/-- A duplicate changes no condition. -/
theorem fixed?_duplicate : (q.carryOut r value .duplicate).fixed? pair = q.fixed? pair := by
  rw [carryOut, fixed?_setColumn]
  split
  · next h => rw [ColumnState.fixed_noteDuplicate, fixed?, h]
  · rfl

/-- A pair is the registered one if its column and its kind are. -/
theorem eq_pair_iff : pair = r.pair ↔ pair.1 = r.column ∧ pair.2 = r.key :=
  Prod.ext_iff

/-- Overriding gives the condition another value. -/
theorem fixed?_override {location : Nat} :
    (q.carryOut r value (.override location)).fixed? pair =
      if pair = r.pair then (q.fixed? pair).map fun old => { old with value }
      else q.fixed? pair := by
  show (q.setColumn r.column _).fixed? pair = _
  rw [fixed?_setColumn, ColumnState.fixed_overrideFixed]
  by_cases hcolumn : pair.1 = r.column
  · simp only [eq_pair_iff, fixed?, hcolumn, true_and, if_true]
  · simp only [eq_pair_iff, hcolumn, false_and, if_false]

/-- Adding a condition records it with the place of its clause. -/
theorem fixed?_emit :
    (q.carryOut r value .emit).fixed? pair =
      if pair = r.pair then some ⟨value, q.clauses.length⟩ else q.fixed? pair := by
  show (q.setColumn r.column _).fixed? pair = _
  rw [fixed?_setColumn, ColumnState.fixed_setFixed]
  by_cases hcolumn : pair.1 = r.column
  · simp only [eq_pair_iff, fixed?, hcolumn, true_and, if_true]
  · simp only [eq_pair_iff, hcolumn, false_and, if_false]

/-- A decision leaves the dialect alone. -/
theorem dialect_carryOut (decision : Decision) :
    (q.carryOut r value decision).dialect = q.dialect := by
  cases decision <;> rfl

/-! ## What a registration does -/

/-- What registering a condition comes to, and why. -/
inductive Registered (q : ConditionQuery) (r : Registration) :
    Except QueryError (Decision × ConditionQuery) → Prop
  /-- The value has the wrong type. -/
  | failed {e : QueryError} (hvalue : r.boundValue = .error e) : Registered q r (.error e)
  /-- There is no value. -/
  | ignored {value : Value} (hvalue : r.boundValue = .ok value) (htakes : r.key.takesValue = true)
      (hignores : r.key.ignores value = true) :
      Registered q r (.ok (.ignore, q.carryOut r value .ignore))
  /-- The condition is recorded already. -/
  | repeated {value : Value} {fixed : FixedCondition} (hvalue : r.boundValue = .ok value)
      (hignores : r.key.takesValue = true → r.key.ignores value = false)
      (hfixed : q.fixed? r.pair = some fixed)
      (hsame : r.key.takesValue = true → fixed.value.same value = true) :
      Registered q r (.ok (.duplicate, q.carryOut r value .duplicate))
  /-- The condition is recorded with another value. -/
  | overridden {value : Value} {fixed : FixedCondition} (hvalue : r.boundValue = .ok value)
      (htakes : r.key.takesValue = true) (hignores : r.key.ignores value = false)
      (hfixed : q.fixed? r.pair = some fixed) (hsame : fixed.value.same value = false) :
      Registered q r (.ok (.override fixed.location, q.carryOut r value (.override fixed.location)))
  /-- The column has no such condition yet. -/
  | added {value : Value} (hvalue : r.boundValue = .ok value)
      (hignores : r.key.takesValue = true → r.key.ignores value = false)
      (hfixed : q.fixed? r.pair = none) :
      Registered q r (.ok (.emit, q.carryOut r value .emit))

/-- Every registration comes to one of these. -/
theorem registered_register (q : ConditionQuery) (r : Registration) :
    Registered q r (q.register r) := by
  unfold register
  cases hvalue : r.boundValue with
  | error e => exact .failed hvalue
  | ok value =>
    show Registered q r (.ok (r.key.decide (q.column r.column) value, _))
    have hcolumn : q.fixed? r.pair = (q.column r.column).fixed r.key := rfl
    unfold ConditionKey.decide
    rw [← hcolumn]
    -- The decision looks at the kind, then at the value, and then at what is recorded.
    cases htakes : r.key.takesValue with
    | false =>
      have hnone : ∀ {P : Prop}, r.key.takesValue = true → P := by
        intro P htrue
        rw [htakes] at htrue
        exact absurd htrue Bool.false_ne_true
      cases hfixed : q.fixed? r.pair with
      | some fixed => exact .repeated hvalue hnone hfixed hnone
      | none => exact .added hvalue hnone hfixed
    | true =>
      cases hignores : r.key.ignores value with
      | true => exact .ignored hvalue htakes hignores
      | false =>
        cases hfixed : q.fixed? r.pair with
        | none => exact .added hvalue (fun _ => hignores) hfixed
        | some fixed =>
          cases hsame : fixed.value.same value with
          | true =>
            dsimp only
            rw [hsame]
            exact .repeated hvalue (fun _ => hignores) hfixed fun _ => hsame
          | false =>
            dsimp only
            rw [hsame]
            exact .overridden hvalue htakes hignores hfixed hsame

/-- The last call of a run is carried out on what the calls before it came to. -/
theorem run_concat (d : Dialect) (calls : List Call) (call : Call) :
    run d (calls ++ [call]) = (run d calls).after call := by
  rw [run, List.foldl_append]
  rfl

/-- The dialect stays the same throughout a run. -/
theorem dialect_after (q : ConditionQuery) (call : Call) : (q.after call).dialect = q.dialect := by
  cases call with
  | reset => rfl
  | register r =>
    have hregistered := registered_register q r
    rw [after_register]
    generalize q.register r = outcome at hregistered ⊢
    cases hregistered with
    | failed => rfl
    | _ => exact dialect_carryOut _

/-- Calls leave the dialect alone. -/
theorem dialect_run (d : Dialect) (calls : List Call) : (run d calls).dialect = d := by
  induction calls using List.reverseRecOn with
  | nil => rfl
  | append_singleton calls call ih => rw [run_concat, dialect_after, ih]

end ConditionQuery

end SqlTemplate
