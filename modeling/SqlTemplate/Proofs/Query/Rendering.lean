import Mathlib.Algebra.GroupWithZero.Nat
import Mathlib.Tactic.SplitIfs
import SqlTemplate.Proofs.Query.Numbering

/-!
# Conditions as they are rendered

What a registration means by itself, apart from every query: whether it puts a condition on its
column (`takesEffect`), the values that its condition binds (`bound`), and the text of the condition
with placeholders counted from a position (`rendered`). `IsClause` says once what the clause of such
a registration can be. It binds these values (`binds_finalClause`), and is this text once its marks
are numbered (`numberMarks_finalClause`).
-/

namespace SqlTemplate

namespace Registration

/-- The registration puts a condition on its column: its value has a type that the kind of condition
takes, and is not one that stands for no condition. -/
def takesEffect (r : Registration) : Bool :=
  match r.key, r.value with
  | .isNull, _ | .isNotNull, _ => true
  | .likeSearch, .string s => !s.isEmpty
  | .likeSearch, _ => false
  | .inScope, .list items | .notInScope, .list items => !items.isEmpty
  | .inScope, _ | .notInScope, _ => false
  | _, value => !value.isNull && !value.isCompound

/-- The values that the condition binds. -/
def bound (r : Registration) : List Value :=
  match r.key, r.value with
  | .isNull, _ | .isNotNull, _ => []
  | .likeSearch, .string s => [.string (r.like.apply s)]
  | .inScope, .list items | .notInScope, .list items => items
  | _, value => [value]

/-- One group of a list condition, with placeholders counted from `position`. -/
def renderedGroup (r : Registration) (d : Dialect) (position size : Nat) : String :=
  r.column ++ " " ++ r.key.operand ++ " (" ++
    ", ".intercalate ((List.range' position size).map d.placeholder) ++ ")"

/-- The groups of a list condition, with placeholders counted on from `position`. -/
def renderedGroups (r : Registration) (d : Dialect) : Nat → List Nat → List String
  | _, [] => []
  | position, size :: rest =>
    r.renderedGroup d position size :: r.renderedGroups d (position + size) rest

/-- A list condition, with placeholders counted from `position`: one group by itself, several in
parentheses. -/
def renderedList (r : Registration) (d : Dialect) (position count : Nat) : String :=
  match groupSizes d.inListLimit count with
  | [size] => r.renderedGroup d position size
  | sizes =>
    let joiner := if r.key = .notInScope then " and " else " or "
    "(" ++ joiner.intercalate (r.renderedGroups d position sizes) ++ ")"

/-- The condition, with placeholders counted from `position`. -/
def rendered (r : Registration) (d : Dialect) (position : Nat) : String :=
  match r.key with
  | .isNull | .isNotNull => r.column ++ " " ++ r.key.operand
  | .likeSearch =>
    r.column ++ " like " ++ d.placeholder position ++ " escape " ++ r.like.escapeLiteral
  | .inScope | .notInScope => r.renderedList d position r.bound.length
  | key => r.column ++ " " ++ key.operand ++ " " ++ d.placeholder position

/-- The value that is recorded for the condition. -/
def recordedValue (r : Registration) : Value :=
  match r.boundValue with
  | .ok value => value
  | .error _ => .null

/-- The clause of the condition. -/
def finalClause (d : Dialect) (r : Registration) : Clause :=
  r.clause d.inListLimit r.recordedValue

/-- The value that a registration records is the one that it binds. -/
theorem recordedValue_eq {r : Registration} {value : Value} (h : r.boundValue = .ok value) :
    r.recordedValue = value := by
  rw [recordedValue, h]

/-- The value that a like condition records is the pattern of its text. -/
theorem recordedValue_likeSearch (column : String) (like : LikeOption) {s : String}
    (h : s.isEmpty = false) :
    recordedValue ⟨column, .likeSearch, .string s, like⟩ = .string (like.apply s) := by
  refine recordedValue_eq ?_
  simp only [boundValue, h, Bool.false_eq_true, if_false]

end Registration

/-! ## When a registration takes effect -/

/-- The pattern of a text that is not empty is not empty. -/
theorem LikeOption.apply_isEmpty (o : LikeOption) {s : String} (h : s.isEmpty = false) :
    (o.apply s).isEmpty = false := by
  have htext : s.toList ≠ [] := by
    intro hnil
    exact String.isEmpty_eq_false_iff.1 h (String.toList_eq_nil_iff.1 hnil)
  -- Each character stands for one or two, so a text that is not empty stays so.
  have hescape : o.escapeChars s.toList ≠ [] := by
    obtain ⟨c, cs, hcons⟩ := List.exists_cons_of_ne_nil htext
    rw [hcons, escapeChars, List.flatMap_cons]
    split_ifs <;> exact List.cons_ne_nil _ _
  have hpattern : o.pattern s.toList ≠ [] := by
    unfold pattern
    cases o.kind with
    | startsWith => exact List.append_ne_nil_of_left_ne_nil hescape _
    | contains | endsWith => exact List.cons_ne_nil _ _
    | exact => exact hescape
  refine String.isEmpty_eq_false_iff.2 fun hempty => hpattern ?_
  have hnil := String.toList_eq_nil_iff.2 hempty
  rwa [apply, String.toList_ofList] at hnil

/-- A registration takes effect exactly if it is accepted and its value is not ignored. -/
theorem Registration.takesEffect_iff (r : Registration) :
    r.takesEffect = true ↔
      ∃ value, r.boundValue = .ok value ∧
        (r.key.takesValue = true → r.key.ignores value = false) := by
  obtain ⟨column, key, value, like⟩ := r
  -- On the key and, where the key looks at it, on the kind of the value.
  cases key with
  | isNull | isNotNull => simp [takesEffect, boundValue, ConditionKey.takesValue]
  | likeSearch =>
    cases value with
    | string s =>
      cases hempty : s.isEmpty with
      | true =>
        simp [takesEffect, boundValue, ConditionKey.takesValue, ConditionKey.ignores, hempty]
      | false =>
        simp [takesEffect, boundValue, ConditionKey.takesValue, ConditionKey.ignores, hempty,
          like.apply_isEmpty hempty]
    | _ => simp [takesEffect, boundValue, ConditionKey.takesValue, ConditionKey.ignores]
  | inScope | notInScope =>
    cases value <;> simp [takesEffect, boundValue, ConditionKey.takesValue, ConditionKey.ignores,
      ConditionKey.takesList, Value.isList, Value.isNull]
  | _ =>
    cases value <;> simp [takesEffect, boundValue, ConditionKey.takesValue, ConditionKey.ignores,
      ConditionKey.takesList, Value.isCompound, Value.isNull]

/-! ## The texts of a clause -/

/-- The mark of a like clause stands between two texts. -/
theorem LikeOption.clause_eq (o : LikeOption) (column : String) :
    o.clause column = column ++ " like " ++ "?" ++ " escape " ++ o.escapeLiteral := by
  rw [clause, show " like ? escape " = " like " ++ "?" ++ " escape " from rfl]
  rw [← String.append_assoc, ← String.append_assoc]

/-- No operator holds a mark. -/
theorem ConditionKey.operand_notMem (key : ConditionKey) : '?' ∉ key.operand.toList := by
  cases key <;> decide

namespace Registration

variable {d : Dialect} {position : Nat} {r : Registration}

/-- The groups of a list make up the list. -/
theorem sum_groupSizes (limit : Option Nat) (count : Nat) :
    (groupSizes limit count).sum = count := by
  unfold groupSizes
  dsimp only
  split_ifs with hone hrest
  · rw [List.sum_singleton]
  · rw [List.append_nil, List.sum_replicate_nat]
    exact Nat.div_mul_cancel (Nat.dvd_of_mod_eq_zero hrest)
  · rw [List.sum_append, List.sum_replicate_nat, List.sum_singleton, Nat.mul_comm]
    exact Nat.div_add_mod _ _

/-- The marks of a group become placeholders. -/
theorem numberedAll_marks (binds : List Bind) :
    NumberedAll d position binds (List.replicate binds.length "?")
      ((List.range' position binds.length).map d.placeholder) := by
  induction binds generalizing position with
  | nil => exact .nil
  | cons bind rest ih =>
    rw [List.length_cons, List.replicate_succ, List.range'_succ, List.map_cons]
    exact .cons (.mark bind) ih

/-- What every clause starts with has no mark. -/
theorem start_notMem (hcolumn : '?' ∉ r.column.toList) :
    '?' ∉ (r.column ++ " " ++ r.key.operand).toList := by
  simp only [String.toList_append, List.mem_append, not_or]
  exact ⟨⟨hcolumn, by decide⟩, r.key.operand_notMem⟩

/-- A group becomes a rendered group. -/
theorem numbered_group (hcolumn : '?' ∉ r.column.toList) (binds : List Bind) :
    Numbered d position binds (r.group binds.length) (r.renderedGroup d position binds.length) := by
  have hstart : '?' ∉ (r.column ++ " " ++ r.key.operand ++ " (").toList := by
    rw [String.toList_append, List.mem_append, not_or]
    exact ⟨start_notMem hcolumn, by decide⟩
  have hmarks : Numbered d position binds (", ".intercalate _) (", ".intercalate _) :=
    (numberedAll_marks binds).intercalate (by decide)
  exact (hmarks.plain_append hstart).append_plain (by decide)

/-- So do all groups of a list, if they have as many marks as there are binds. -/
theorem numberedAll_groups (hcolumn : '?' ∉ r.column.toList) {sizes : List Nat} {binds : List Bind}
    (hsum : sizes.sum = binds.length) :
    NumberedAll d position binds (sizes.map r.group) (r.renderedGroups d position sizes) := by
  induction sizes generalizing position binds with
  | nil =>
    obtain rfl := List.eq_nil_of_length_eq_zero hsum.symm
    exact .nil
  | cons size rest ih =>
    rw [List.sum_cons] at hsum
    -- The binds are dealt out to the groups from the front.
    have htake : (binds.take size).length = size := by
      rw [List.length_take]
      omega
    have hdrop : rest.sum = (binds.drop size).length := by
      rw [List.length_drop]
      omega
    have hfirst : Numbered d position (binds.take size) _ _ := numbered_group hcolumn _
    have hall := NumberedAll.cons hfirst (ih hdrop)
    rwa [List.take_append_drop, htake] at hall

/-- The clause of a list becomes the rendered one. -/
theorem numbered_listSql (hcolumn : '?' ∉ r.column.toList) (binds : List Bind) :
    Numbered d position binds (r.listSql d.inListLimit binds.length)
      (r.renderedList d position binds.length) := by
  -- The groups have as many marks as there are binds, whatever the limit is.
  have hsum := sum_groupSizes d.inListLimit binds.length
  unfold listSql renderedList
  generalize groupSizes d.inListLimit binds.length = sizes at hsum ⊢
  have hgroups : NumberedAll d position binds _ _ := numberedAll_groups hcolumn hsum
  have hjoiner : '?' ∉ (if r.key = .notInScope then " and " else " or ").toList := by
    split_ifs <;> decide
  have hopen : '?' ∉ "(".toList := by decide
  have hclose : '?' ∉ ")".toList := by decide
  have hseveral := ((hgroups.intercalate hjoiner).plain_append hopen).append_plain hclose
  rcases sizes with _ | ⟨size, _ | ⟨size', rest⟩⟩
  · exact hseveral
  · rw [List.sum_singleton] at hsum
    rw [hsum]
    exact numbered_group hcolumn binds
  · exact hseveral

/-- The clause of a scalar becomes the rendered one. -/
theorem numbered_scalar (hcolumn : '?' ∉ r.column.toList) (bind : Bind) :
    Numbered d position [bind] (r.column ++ " " ++ r.key.operand ++ " ?")
      (r.column ++ " " ++ r.key.operand ++ " " ++ d.placeholder position) := by
  have hstart : '?' ∉ (r.column ++ " " ++ r.key.operand ++ " ").toList := by
    rw [String.toList_append, List.mem_append, not_or]
    exact ⟨start_notMem hcolumn, by decide⟩
  rw [show " ?" = " " ++ "?" from rfl, ← String.append_assoc]
  exact (Numbered.mark bind).plain_append hstart

/-- The pattern of a like condition gets its placeholder, and the escape character stays as it is,
whatever it is. -/
theorem numberMarks_like (hcolumn : '?' ∉ r.column.toList) (bind : Bind) :
    numberMarks d position [bind] (r.like.clause r.column).toList =
      ((r.column ++ " like " ++ d.placeholder position ++ " escape " ++
        r.like.escapeLiteral).toList, [bind]) := by
  have hmark : Numbered d position [bind] (r.column ++ " like " ++ "?" ++ " escape ")
      (r.column ++ " like " ++ d.placeholder position ++ " escape ") := by
    refine (Numbered.plain_append ?_ (.mark bind)).append_plain (by decide)
    rw [String.toList_append, List.mem_append, not_or]
    exact ⟨hcolumn, by decide⟩
  -- The escape character may be the mark itself; no bind is left for it.
  rw [LikeOption.clause_eq]
  exact hmark.numberMarks_append r.like.escapeLiteral

/-! ## The clause of a registration -/

/-- What the clause of a registration that takes effect is, and how it is rendered. -/
inductive IsClause (d : Dialect) (r : Registration) : Clause → Prop
  /-- The condition takes no value. -/
  | valueless (hkey : r.key.takesValue = false) (hbound : r.bound = [])
      (hrendered : ∀ position, r.rendered d position = r.column ++ " " ++ r.key.operand) :
      IsClause d r ⟨r.column, r.key, r.column ++ " " ++ r.key.operand, []⟩
  /-- The condition is on a pattern. -/
  | like {s : String} (hkey : r.key = .likeSearch) (hvalue : r.value = .string s)
      (hrecorded : r.recordedValue = .string (r.like.apply s))
      (hbound : r.bound = [.string (r.like.apply s)])
      (hrendered : ∀ position, r.rendered d position =
        r.column ++ " like " ++ d.placeholder position ++ " escape " ++ r.like.escapeLiteral) :
      IsClause d r ⟨r.column, r.key, r.like.clause r.column,
        [r.toBind (.string (r.like.apply s))]⟩
  /-- The condition is on a list, which is not empty. -/
  | list {items : List Value} (hkey : r.key = .inScope ∨ r.key = .notInScope)
      (hvalue : r.value = .list items) (hitems : items ≠ []) (hbound : r.bound = items)
      (hrendered : ∀ position, r.rendered d position = r.renderedList d position items.length) :
      IsClause d r ⟨r.column, r.key, r.listSql d.inListLimit items.length, items.map r.toBind⟩
  /-- The condition is on a scalar. -/
  | scalar (hlist : r.key.takesList = false) (hlike : r.key ≠ .likeSearch)
      (hcompound : r.value.isCompound = false) (hbound : r.bound = [r.value])
      (hrendered : ∀ position, r.rendered d position =
        r.column ++ " " ++ r.key.operand ++ " " ++ d.placeholder position) :
      IsClause d r ⟨r.column, r.key, r.column ++ " " ++ r.key.operand ++ " ?", [r.toBind r.value]⟩

/-- The clause of a registration that takes effect is one of these. -/
theorem isClause_finalClause (heffect : r.takesEffect = true) (d : Dialect) :
    IsClause d r (r.finalClause d) := by
  obtain ⟨column, key, value, like⟩ := r
  cases key with
  | isNull | isNotNull => exact .valueless rfl rfl fun _ => rfl
  | likeSearch =>
    cases value with
    | string s =>
      have hempty : s.isEmpty = false := by simpa [takesEffect] using heffect
      have hrecorded := recordedValue_likeSearch column like hempty
      rw [finalClause, hrecorded]
      exact .like rfl rfl hrecorded rfl fun _ => rfl
    | _ => exact absurd heffect Bool.false_ne_true
  | inScope =>
    cases value with
    | list items =>
      exact .list (.inl rfl) rfl (by simpa [takesEffect] using heffect) rfl fun _ => rfl
    | _ => exact absurd heffect Bool.false_ne_true
  | notInScope =>
    cases value with
    | list items =>
      exact .list (.inr rfl) rfl (by simpa [takesEffect] using heffect) rfl fun _ => rfl
    | _ => exact absurd heffect Bool.false_ne_true
  | _ =>
    cases value with
    | null | list | object => exact absurd heffect Bool.false_ne_true
    | _ => exact .scalar rfl nofun rfl rfl fun _ => rfl

/-- The clause of a registration that takes effect binds the values of the condition. -/
theorem binds_finalClause (heffect : r.takesEffect = true) (d : Dialect) :
    (r.finalClause d).binds = r.bound.map r.toBind := by
  have hclause := isClause_finalClause heffect d
  generalize r.finalClause d = clause at hclause ⊢
  cases hclause with
  | valueless _ hbound | like _ _ _ hbound | list _ _ _ hbound | scalar _ _ _ hbound =>
    exact (congrArg (List.map r.toBind) hbound).symm

/-- It becomes the rendered condition once its marks are numbered, if its column has no mark that
could be taken for that of a bind. -/
theorem numberMarks_finalClause (heffect : r.takesEffect = true)
    (hcolumn : r.bound ≠ [] → '?' ∉ r.column.toList) (d : Dialect) (position : Nat) :
    numberMarks d position (r.finalClause d).binds (r.finalClause d).sql.toList =
      ((r.rendered d position).toList, (r.finalClause d).binds) := by
  have hclause := isClause_finalClause heffect d
  generalize r.finalClause d = clause at hclause ⊢
  -- On the kind of the clause; a list has a mark for each element, the others one or none.
  cases hclause with
  | valueless _ _ hrendered =>
    rw [hrendered]
    rfl
  | like _ _ _ hbound hrendered =>
    rw [hrendered]
    exact numberMarks_like (hcolumn (by rw [hbound]; nofun)) _
  | @list items _ _ hitems hbound hrendered =>
    have hlist : Numbered d position _ _ _ :=
      numbered_listSql (hcolumn (by rwa [hbound])) (items.map r.toBind)
    rw [List.length_map] at hlist
    rw [hrendered]
    exact hlist.numberMarks_eq
  | scalar _ _ _ hbound hrendered =>
    rw [hrendered]
    exact (numbered_scalar (hcolumn (by rw [hbound]; nofun)) _).numberMarks_eq

end Registration

end SqlTemplate
