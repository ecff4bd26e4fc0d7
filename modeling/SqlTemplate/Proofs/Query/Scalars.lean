import SqlTemplate.Proofs.Query.Columns

/-!
# Lists and objects as binds

What a condition may bind is decided from its value as a whole; a list is taken apart only later,
where its clause is written, and its elements are not looked at.
`ConditionQuery.toStatement_compound` says how far this goes: a list or an object is bound exactly
where it is an element of a list that a condition is on, and is refused everywhere else.
-/

namespace SqlTemplate

/-- What takes no value takes no list. -/
theorem ConditionKey.takesList_of_takesValue {key : ConditionKey} (h : key.takesValue = false) :
    key.takesList = false := by
  cases key with
  | isNull | isNotNull => rfl
  | _ => exact absurd h.symm Bool.false_ne_true

/-- The kinds that take a list. -/
theorem ConditionKey.takesList_iff {key : ConditionKey} :
    key.takesList = true ↔ key = .inScope ∨ key = .notInScope := by
  cases key <;> decide

namespace Registration

variable {r : Registration}

/-- The condition is on a list that has a list or an object among its elements. -/
def listsCompound (r : Registration) : Bool :=
  match r.value with
  | .list items => r.key.takesList && items.any Value.isCompound
  | _ => false

/-- A condition that takes no list lists no compound. -/
theorem listsCompound_eq_false (h : r.key.takesList = false) : r.listsCompound = false := by
  unfold listsCompound
  split
  · rw [h, Bool.false_and]
  · rfl

/-- A condition binds a list or an object exactly if it is on a list that has one. -/
theorem exists_bound_compound_iff (heffect : r.takesEffect = true) :
    (∃ v ∈ r.bound, v.isCompound = true) ↔ r.listsCompound = true := by
  have hclause := isClause_finalClause heffect {}
  -- Only the elements of a list are bound without having been looked at.
  have hscalar : ∀ {v : Value}, r.bound = [v] → v.isCompound = false → r.key.takesList = false →
      ((∃ v ∈ r.bound, v.isCompound = true) ↔ r.listsCompound = true) := by
    intro v hbound hv hkey
    rw [hbound, listsCompound_eq_false hkey]
    simp [hv]
  generalize r.finalClause {} = clause at hclause
  cases hclause with
  | valueless hkey hbound =>
    rw [hbound, listsCompound_eq_false (ConditionKey.takesList_of_takesValue hkey)]
    simp
  | like hkey _ _ hbound => exact hscalar hbound rfl (by rw [hkey]; rfl)
  | list hkey hvalue _ hbound =>
    rw [hbound, listsCompound, hvalue]
    simp [ConditionKey.takesList_iff.2 hkey]
  | scalar hkey _ hcompound hbound => exact hscalar hbound hcompound hkey

/-- A list or an object is refused except for a list where one is taken. -/
theorem exists_error_iff (htakes : r.key.takesValue = true)
    (hcompound : r.value.isCompound = true) :
    (∃ e, r.boundValue = .error e) ↔ ¬(r.key.takesList = true ∧ r.value.isList = true) := by
  obtain ⟨column, key, value, like⟩ := r
  cases key with
  | isNull | isNotNull => exact absurd htakes Bool.false_ne_true
  | _ =>
    cases value with
    | list | object =>
      simp [boundValue, ConditionKey.takesList, Value.isList, Value.isNull, Value.isCompound]
    | _ => exact absurd hcompound Bool.false_ne_true

end Registration

namespace ConditionQuery

open Registration

/-- A registration is refused where its value is, and the query then stays as it is. -/
theorem register_refused_iff (q : ConditionQuery) (r : Registration) (e : QueryError) :
    q.register r = .error e ∧ q.after (.register r) = q ↔ r.boundValue = .error e := by
  constructor
  · rintro ⟨h, -⟩
    cases hvalue : r.boundValue with
    | error e' =>
      rw [register, hvalue] at h
      exact congrArg Except.error (Except.error.inj h)
    | ok value =>
      rw [register, hvalue] at h
      exact nomatch h
  · intro h
    have hregister : q.register r = .error e := by
      rw [register, h]
      rfl
    rw [after_register, hregister]
    exact ⟨rfl, rfl⟩

/-- After a run a fragment binds a list or an object exactly if its condition is on a list that has
one among its elements, and the statement binds what the fragments bind. Every other list or object
that a further registration has for a value is refused, and the query stays as it is. -/
theorem toStatement_compound (d : Dialect) (calls : List Call) :
    let q := run d calls
    q.clauses = (standing (writers d calls)).map (finalClause d) ∧
    (∀ r ∈ standing (writers d calls), .register r ∈ calls ∧
      ((∃ bind ∈ (r.finalClause d).binds, bind.value.isCompound = true) ↔
        r.listsCompound = true)) ∧
    q.toStatement.binds = q.clauses.flatMap Clause.binds ∧
    ∀ r : Registration, r.key.takesValue = true → r.value.isCompound = true →
      ((∃ e, q.register r = .error e ∧ q.after (.register r) = q) ↔
        ¬(r.key.takesList = true ∧ r.value.isList = true)) := by
  have heffect : ∀ r ∈ standing (writers d calls), r.takesEffect = true :=
    fun r hr => (mem_standing_writers r hr).2
  refine ⟨clauses_run d calls, fun r hr => ⟨(mem_standing_writers r hr).1, ?_⟩, ?_,
    fun r htakes hcompound => ?_⟩
  · rw [← exists_bound_compound_iff (heffect r hr), binds_finalClause (heffect r hr)]
    simp only [List.mem_map, exists_exists_and_eq_and]
    exact Iff.rfl
  · rw [toStatement_binds, clauses_run, List.flatMap_map]
    exact List.flatMap_congr fun r hr => (binds_finalClause (heffect r hr) d).symm
  · simp only [register_refused_iff]
    exact exists_error_iff htakes hcompound

/-- A list inside of a list is accepted and bound. -/
theorem toStatement_compound_list :
    let r : Registration := ⟨"A", .inScope, .list [.list [.integer 1]], {}⟩
    (((run {} []).register r).toOption.map Prod.fst) = some .emit ∧
    (run {} [.register r]).toStatement.sql = "where A in (?)" ∧
    (run {} [.register r]).toStatement.binds.map Bind.value = [.list [.integer 1]] := by
  refine ⟨by decide +kernel, by decide +kernel, ?_⟩
  rw [toStatement_binds]
  rfl

end ConditionQuery

end SqlTemplate
