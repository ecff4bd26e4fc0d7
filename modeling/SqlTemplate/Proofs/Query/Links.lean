import SqlTemplate.Proofs.Query.History

/-!
# Conditions and their clauses

A query records its conditions by column and kind, and keeps their clauses in a list; each recorded
condition names the place of its clause. `Linked` says that the two fit together: `linked_run` is
that they do after every run of calls, and that overriding a condition rewrites its own clause and
no other.

What a registration preserves is the shorter `Placed`: a recorded condition has its clause at its
place, and a clause has its condition recorded with its place. The rest of `Linked` follows from it.
-/

namespace SqlTemplate

/-- The values that a condition of the kind binds, by its recorded value; there are none by a value
that no such condition records. -/
def ConditionKey.boundValues? : ConditionKey → Value → Option (List Value)
  | .isNull, _ | .isNotNull, _ => some []
  | .inScope, .list items | .notInScope, .list items => some items
  | .inScope, _ | .notInScope, _ => none
  | _, value => if value.isNull || value.isCompound then none else some [value]

/-- Null puts no condition on a column. -/
theorem ConditionKey.isNull_eq_false {key : ConditionKey} {value : Value}
    (h : key.ignores value = false) : value.isNull = false := by
  cases value with
  | null => exact absurd h Bool.false_ne_true.symm
  | _ => rfl

namespace Registration

variable {r : Registration} {value : Value}

/-- A condition that takes no list binds a scalar or null. -/
theorem isCompound_of_boundValue (hvalue : r.boundValue = .ok value)
    (hlist : r.key.takesList = false) : value.isCompound = false := by
  -- On the key: what a like search binds is a string, and a scalar key has been checked.
  unfold boundValue at hvalue
  split at hvalue
  · obtain rfl := Except.ok.inj hvalue
    rfl
  · obtain rfl := Except.ok.inj hvalue
    rfl
  · split at hvalue
    · obtain rfl := Except.ok.inj hvalue
      rfl
    · obtain rfl := Except.ok.inj hvalue
      rfl
    · simp at hvalue
  · next hkey => simp [hkey, ConditionKey.takesList] at hlist
  · next hkey => simp [hkey, ConditionKey.takesList] at hlist
  · split_ifs at hvalue with hcompound
    obtain rfl := Except.ok.inj hvalue
    exact eq_false_of_ne_true hcompound

/-- A condition that takes a list binds the elements of one, or null. -/
theorem isList_of_boundValue (hvalue : r.boundValue = .ok value)
    (hlist : r.key.takesList = true) : value.isList || value.isNull := by
  obtain ⟨column, key, given, like⟩ := r
  cases key with
  | inScope | notInScope =>
    rw [boundValue] at hvalue
    dsimp only at hvalue
    split_ifs at hvalue with htype
    obtain rfl := Except.ok.inj hvalue
    exact htype
  | _ => exact absurd hlist Bool.false_ne_true

/-- The clause of a condition binds the values of the condition. -/
theorem boundValues?_eq (hvalue : r.boundValue = .ok value)
    (hignores : r.key.takesValue = true → r.key.ignores value = false) (limit : Option Nat) :
    r.key.boundValues? value = some ((r.clause limit value).binds.map Bind.value) := by
  have hitems : ∀ items : List Value, (items.map r.toBind).map Bind.value = items := by
    intro items
    rw [List.map_map]
    exact List.map_id items
  have hscalar := isCompound_of_boundValue hvalue
  have hlist := isList_of_boundValue hvalue
  have hnull := fun htakes => ConditionKey.isNull_eq_false (hignores htakes)
  obtain ⟨column, key, given, like⟩ := r
  cases key with
  | isNull | isNotNull => rfl
  | inScope | notInScope =>
    cases value with
    | list items => exact congrArg some (hitems items).symm
    | null => exact absurd (hnull rfl) Bool.false_ne_true.symm
    | _ => exact absurd (hlist rfl) Bool.false_ne_true
  | _ =>
    -- These kinds take neither null nor a list.
    cases value with
    | null => exact absurd (hnull rfl) Bool.false_ne_true.symm
    | list | object => exact absurd (hscalar rfl) Bool.false_ne_true.symm
    | _ => rfl

end Registration

namespace ConditionQuery

/-- A recorded condition has its clause at its place, and each clause belongs to one that is
recorded with its place. -/
structure Placed (q : ConditionQuery) : Prop where
  /-- The clause of a condition stands at its place and binds its value. -/
  clause_of_fixed : ∀ pair fixed, q.fixed? pair = some fixed →
    ∃ clause : Clause, q.clauses[fixed.location]? = some clause ∧ clause.pair = pair ∧
      pair.2.boundValues? fixed.value = some (clause.binds.map Bind.value)
  /-- The condition of a clause is recorded with its place. -/
  fixed_of_clause : ∀ (i : Nat) (clause : Clause), q.clauses[i]? = some clause →
    ∃ fixed, q.fixed? clause.pair = some fixed ∧ fixed.location = i

/-- The recorded conditions and the clauses correspond to each other. -/
structure Linked (q : ConditionQuery) : Prop where
  /-- A condition is recorded exactly if one clause, and only one, is of its column and kind. -/
  recorded : ∀ pair, (q.fixed? pair).isSome ↔
    ∃! i : Nat, ∃ clause : Clause, q.clauses[i]? = some clause ∧ clause.pair = pair
  /-- This clause stands at the recorded place and binds the recorded value, or its elements. -/
  placed : ∀ pair fixed, q.fixed? pair = some fixed →
    ∃ clause : Clause, q.clauses[fixed.location]? = some clause ∧ clause.pair = pair ∧
      pair.2.boundValues? fixed.value = some (clause.binds.map Bind.value)
  /-- No two conditions share a place. -/
  apart : ∀ pair pair' fixed fixed', q.fixed? pair = some fixed → q.fixed? pair' = some fixed' →
    fixed.location = fixed'.location → pair = pair'
  /-- The recorded places are those of the clauses. -/
  covered : ∀ location, location < q.clauses.length ↔
    ∃ pair fixed, q.fixed? pair = some fixed ∧ fixed.location = location

namespace Placed

variable {q : ConditionQuery}

/-- A query without conditions has no clauses. -/
theorem empty (d : Dialect) : Placed { dialect := d } := by
  refine ⟨?_, ?_⟩
  · intro pair fixed hfixed
    exact absurd hfixed (Option.some_ne_none fixed).symm
  · intro i clause hclause
    exact absurd hclause (Option.some_ne_none clause).symm

/-- What leaves the conditions and the clauses alone leaves them in their places. -/
theorem of_eq {q' : ConditionQuery} (h : q.Placed) (hclauses : q'.clauses = q.clauses)
    (hfixed : ∀ pair, q'.fixed? pair = q.fixed? pair) : q'.Placed := by
  refine ⟨?_, ?_⟩
  · intro pair fixed
    rw [hfixed, hclauses]
    exact h.clause_of_fixed pair fixed
  · intro i clause
    rw [hfixed, hclauses]
    exact h.fixed_of_clause i clause

/-- A condition that is overridden keeps its place. -/
theorem override (h : q.Placed) {r : Registration} {value : Value} {fixed : FixedCondition}
    (hvalue : r.boundValue = .ok value)
    (hignores : r.key.takesValue = true → r.key.ignores value = false)
    (hfixed : q.fixed? r.pair = some fixed) :
    (q.carryOut r value (.override fixed.location)).Placed := by
  have hclauses : (q.carryOut r value (.override fixed.location)).clauses =
      q.clauses.set fixed.location (r.clause q.dialect.inListLimit value) := rfl
  obtain ⟨old, hold, hpair, -⟩ := h.clause_of_fixed r.pair fixed hfixed
  have hrange : fixed.location < q.clauses.length := (List.getElem?_eq_some_iff.1 hold).1
  refine ⟨?_, ?_⟩
  · intro pair fixed' hfixed'
    rw [fixed?_override] at hfixed'
    rw [hclauses]
    split_ifs at hfixed' with hsame
    · rw [hsame, hfixed, Option.map_some] at hfixed'
      obtain rfl := Option.some.inj hfixed'
      refine ⟨_, List.getElem?_set_self hrange, ?_, ?_⟩
      · rw [Registration.pair_clause, hsame]
      · rw [hsame]
        exact Registration.boundValues?_eq hvalue hignores _
    · -- The clause of another pair stands at another place.
      obtain ⟨clause, hclause, hother, hvalues⟩ := h.clause_of_fixed pair fixed' hfixed'
      have hplace : fixed.location ≠ fixed'.location := by
        intro heq
        rw [← heq, hold] at hclause
        obtain rfl := Option.some.inj hclause
        exact hsame (hother.symm.trans hpair)
      refine ⟨clause, ?_, hother, hvalues⟩
      rw [List.getElem?_set_ne hplace]
      exact hclause
  · intro i clause hclause
    rw [hclauses] at hclause
    rw [fixed?_override]
    -- The clause is the rewritten one, or one that stood elsewhere and is of another pair.
    by_cases hplace : fixed.location = i
    · rw [← hplace, List.getElem?_set_self hrange] at hclause
      obtain rfl := Option.some.inj hclause
      rw [Registration.pair_clause, if_pos rfl, hfixed]
      exact ⟨_, rfl, hplace⟩
    · rw [List.getElem?_set_ne hplace] at hclause
      obtain ⟨fixed', hfixed', hlocation⟩ := h.fixed_of_clause i clause hclause
      have hother : clause.pair ≠ r.pair := by
        intro heq
        rw [heq, hfixed] at hfixed'
        obtain rfl := Option.some.inj hfixed'
        exact hplace hlocation
      rw [if_neg hother]
      exact ⟨fixed', hfixed', hlocation⟩

/-- A condition that is added has its clause at the end. -/
theorem emit (h : q.Placed) {r : Registration} {value : Value}
    (hvalue : r.boundValue = .ok value)
    (hignores : r.key.takesValue = true → r.key.ignores value = false)
    (hfixed : q.fixed? r.pair = none) :
    (q.carryOut r value .emit).Placed := by
  have hclauses : (q.carryOut r value .emit).clauses =
      q.clauses ++ [r.clause q.dialect.inListLimit value] := rfl
  -- Of the pair itself the record is new; all others lead to the clauses they have led to.
  refine ⟨?_, ?_⟩
  · intro pair fixed hpair
    rw [fixed?_emit] at hpair
    rw [hclauses]
    split_ifs at hpair with hsame
    · obtain rfl := Option.some.inj hpair
      refine ⟨_, List.getElem?_concat_length, ?_, ?_⟩
      · rw [Registration.pair_clause, hsame]
      · rw [hsame]
        exact Registration.boundValues?_eq hvalue hignores _
    · obtain ⟨clause, hclause, hother, hvalues⟩ := h.clause_of_fixed pair fixed hpair
      have hrange := (List.getElem?_eq_some_iff.1 hclause).1
      refine ⟨clause, ?_, hother, hvalues⟩
      rw [List.getElem?_append_left hrange]
      exact hclause
  · intro i clause hclause
    rw [hclauses] at hclause
    rw [fixed?_emit]
    by_cases hrange : i < q.clauses.length
    · rw [List.getElem?_append_left hrange] at hclause
      obtain ⟨fixed, hrecorded, hlocation⟩ := h.fixed_of_clause i clause hclause
      have hother : clause.pair ≠ r.pair := by
        intro heq
        rw [heq, hfixed] at hrecorded
        exact absurd hrecorded (Option.some_ne_none fixed).symm
      rw [if_neg hother]
      exact ⟨fixed, hrecorded, hlocation⟩
    · -- The only further place is that of the new clause.
      rw [List.getElem?_append_right (Nat.le_of_not_lt hrange), List.getElem?_singleton] at hclause
      split_ifs at hclause with hplace
      obtain rfl := Option.some.inj hclause
      rw [Registration.pair_clause, if_pos rfl]
      exact ⟨_, rfl, show q.clauses.length = i by omega⟩

/-- A call keeps conditions and clauses in their places. -/
theorem after (h : q.Placed) (call : Call) : (q.after call).Placed := by
  cases call with
  | reset => exact empty q.dialect
  | register r =>
    have hregistered := registered_register q r
    rw [after_register]
    generalize q.register r = outcome at hregistered ⊢
    cases hregistered with
    | failed => exact h
    | ignored => exact h.of_eq rfl fun _ => fixed?_ignore
    | repeated => exact h.of_eq rfl fun _ => fixed?_duplicate
    | overridden hvalue _ hignores hfixed =>
      exact h.override hvalue (fun _ => hignores) hfixed
    | added hvalue hignores hfixed => exact h.emit hvalue hignores hfixed

/-- Conditions and clauses are in their places after every run. -/
theorem run (d : Dialect) (calls : List Call) : (run d calls).Placed := by
  induction calls using List.reverseRecOn with
  | nil => exact empty d
  | append_singleton calls call ih =>
    rw [run_concat]
    exact ih.after call

/-- The clause of a condition stands nowhere but at its place. -/
theorem eq_location (h : q.Placed) {pair : String × ConditionKey} {fixed : FixedCondition}
    (hfixed : q.fixed? pair = some fixed) {i : Nat} {clause : Clause}
    (hclause : q.clauses[i]? = some clause) (hpair : clause.pair = pair) : i = fixed.location := by
  obtain ⟨fixed', hrecorded, hlocation⟩ := h.fixed_of_clause i clause hclause
  rw [hpair, hfixed] at hrecorded
  obtain rfl := Option.some.inj hrecorded
  exact hlocation.symm

/-- Conditions and clauses that are in their places correspond to each other. -/
theorem linked (h : q.Placed) : q.Linked := by
  refine ⟨?_, h.clause_of_fixed, ?_, ?_⟩
  · intro pair
    constructor
    · intro hsome
      obtain ⟨fixed, hfixed⟩ := Option.isSome_iff_exists.1 hsome
      obtain ⟨clause, hclause, hpair, -⟩ := h.clause_of_fixed pair fixed hfixed
      refine ⟨fixed.location, ⟨clause, hclause, hpair⟩, ?_⟩
      -- Another clause of the pair would be recorded with its own place.
      rintro i ⟨other, hother, hsame⟩
      exact h.eq_location hfixed hother hsame
    · rintro ⟨i, ⟨clause, hclause, rfl⟩, -⟩
      obtain ⟨fixed, hfixed, -⟩ := h.fixed_of_clause i clause hclause
      exact Option.isSome_iff_exists.2 ⟨fixed, hfixed⟩
  · -- Two conditions with one place have one clause, and this is of one pair.
    intro pair pair' fixed fixed' hfixed hfixed' hlocation
    obtain ⟨clause, hclause, hpair, -⟩ := h.clause_of_fixed pair fixed hfixed
    obtain ⟨clause', hclause', hpair', -⟩ := h.clause_of_fixed pair' fixed' hfixed'
    rw [hlocation, hclause'] at hclause
    obtain rfl := Option.some.inj hclause
    exact hpair.symm.trans hpair'
  · intro location
    constructor
    · intro hrange
      have hclause := List.getElem?_eq_getElem hrange
      obtain ⟨fixed, hfixed, hlocation⟩ := h.fixed_of_clause location _ hclause
      exact ⟨_, fixed, hfixed, hlocation⟩
    · rintro ⟨pair, fixed, hfixed, rfl⟩
      obtain ⟨clause, hclause, -⟩ := h.clause_of_fixed pair fixed hfixed
      exact (List.getElem?_eq_some_iff.1 hclause).1

end Placed

/-- After every run the recorded conditions and the clauses correspond to each other, and a further
registration that overrides a condition rewrites a clause of the list, which is one of the same
column and kind. -/
theorem linked_run (d : Dialect) (calls : List Call) :
    (run d calls).Linked ∧
    ∀ r location q', (run d calls).register r = .ok (.override location, q') →
      ∃ old new : Clause, (run d calls).clauses[location]? = some old ∧ old.pair = r.pair ∧
        new.pair = r.pair ∧ q'.clauses = (run d calls).clauses.set location new := by
  have hplaced := Placed.run d calls
  refine ⟨hplaced.linked, ?_⟩
  intro r location q' hregister
  have hregistered := registered_register (run d calls) r
  rw [hregister] at hregistered
  cases hregistered with
  | overridden hvalue _ _ hfixed =>
    obtain ⟨old, hold, hpair, -⟩ := hplaced.clause_of_fixed r.pair _ hfixed
    exact ⟨old, _, hold, hpair, r.pair_clause _ _, rfl⟩

end ConditionQuery

end SqlTemplate
