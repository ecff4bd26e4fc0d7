/-!
# Truth in a database

A condition in a database holds, fails or is neither, since a comparison with null is neither.
`any` and `all` are the disjunction and the conjunction of conditions. What is joined in parts is
joined as a whole (`any_flatten`), also where each part is denied (`all_not_any`).
-/

namespace SqlTemplate

/-- The truth of a condition. -/
inductive Truth where
  /-- It does not hold. -/
  | fails
  /-- It neither holds nor fails. -/
  | unknown
  /-- It holds. -/
  | holds
  deriving DecidableEq, Repr

namespace Truth

/-- The denial: it holds if the condition fails, and fails if that holds. -/
protected def not : Truth → Truth
  | fails => holds
  | unknown => unknown
  | holds => fails

/-- The disjunction: it holds if one of the two does, and fails if both do. -/
protected def or : Truth → Truth → Truth
  | holds, _ | _, holds => holds
  | fails, fails => fails
  | _, _ => unknown

/-- The conjunction: it holds if both do, and fails if one of the two does. -/
protected def and : Truth → Truth → Truth
  | fails, _ | _, fails => fails
  | holds, holds => holds
  | _, _ => unknown

/-- The disjunction of any number of conditions; without one it fails. -/
def any (ts : List Truth) : Truth :=
  ts.foldr Truth.or fails

/-- The conjunction of any number of conditions; without one it holds. -/
def all (ts : List Truth) : Truth :=
  ts.foldr Truth.and holds

variable {t : Truth} {ts us : List Truth}

/-- Without a condition the disjunction fails. -/
@[simp] theorem any_nil : any [] = fails := rfl

/-- A disjunction is that of its first condition and of the others. -/
@[simp] theorem any_cons : any (t :: ts) = t.or (any ts) := rfl

/-- A conjunction is that of its first condition and of the others. -/
@[simp] theorem all_cons : all (t :: ts) = t.and (all ts) := rfl

/-- What fails adds nothing to a disjunction before it. -/
theorem fails_or (t : Truth) : fails.or t = t := by
  cases t <;> rfl

/-- What fails adds nothing to a disjunction behind it. -/
theorem or_fails (t : Truth) : t.or fails = t := by
  cases t <;> rfl

/-- What holds adds nothing to a conjunction. -/
theorem and_holds (t : Truth) : t.and holds = t := by
  cases t <;> rfl

/-- Disjunctions may be bracketed in either way. -/
theorem or_assoc (t u v : Truth) : (t.or u).or v = t.or (u.or v) := by
  cases t <;> cases u <;> cases v <;> rfl

/-- The denial of a disjunction is the conjunction of the denials. -/
theorem not_or (t u : Truth) : (t.or u).not = t.not.and u.not := by
  cases t <;> cases u <;> rfl

/-- The denial holds exactly if the condition fails. -/
theorem not_eq_holds_iff : t.not = holds ↔ t = fails := by
  cases t <;> decide

/-- A disjunction holds exactly if one of its conditions does. -/
theorem or_eq_holds_iff {u : Truth} : t.or u = holds ↔ t = holds ∨ u = holds := by
  cases t <;> cases u <;> decide

/-- A disjunction fails exactly if both of its conditions do. -/
theorem or_eq_fails_iff {u : Truth} : t.or u = fails ↔ t = fails ∧ u = fails := by
  cases t <;> cases u <;> decide

/-- The disjunction of a single condition is this condition. -/
theorem any_singleton (t : Truth) : any [t] = t :=
  or_fails t

/-- The conjunction of a single condition is this condition. -/
theorem all_singleton (t : Truth) : all [t] = t :=
  and_holds t

/-- A disjunction in two parts is the disjunction of the parts. -/
theorem any_append : any (ts ++ us) = (any ts).or (any us) := by
  induction ts with
  | nil => rw [List.nil_append, any_nil, fails_or]
  | cons t ts ih => rw [List.cons_append, any_cons, any_cons, ih, or_assoc]

/-- Disjunctions of parts make the disjunction of the whole. -/
theorem any_flatten (parts : List (List Truth)) : any (parts.map any) = any parts.flatten := by
  induction parts with
  | nil => rfl
  | cons part parts ih => rw [List.map_cons, any_cons, ih, List.flatten_cons, any_append]

/-- The denial of a disjunction is the conjunction of the denials. -/
theorem not_any (ts : List Truth) : (any ts).not = all (ts.map Truth.not) := by
  induction ts with
  | nil => rfl
  | cons t ts ih => rw [List.map_cons, all_cons, any_cons, not_or, ih]

/-- Parts that are all denied make the denial of the whole. -/
theorem all_not_any (parts : List (List Truth)) :
    all (parts.map fun part => (any part).not) = (any parts.flatten).not := by
  rw [← any_flatten, not_any, List.map_map]
  rfl

/-- A disjunction holds exactly if one of its conditions does. -/
theorem any_eq_holds_iff : any ts = holds ↔ holds ∈ ts := by
  induction ts with
  | nil => decide
  | cons t ts ih => rw [any_cons, or_eq_holds_iff, ih, List.mem_cons, eq_comm]

/-- A disjunction fails exactly if all its conditions do. -/
theorem any_eq_fails_iff : any ts = fails ↔ ∀ t ∈ ts, t = fails := by
  induction ts with
  | nil => exact iff_of_true rfl nofun
  | cons t ts ih => rw [any_cons, or_eq_fails_iff, ih, List.forall_mem_cons]

end Truth

end SqlTemplate
