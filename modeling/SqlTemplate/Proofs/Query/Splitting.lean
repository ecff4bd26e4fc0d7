import Mathlib.Data.List.Basic
import Mathlib.Data.List.SplitLengths
import Mathlib.Tactic.SplitIfs
import SqlTemplate.Proofs.Query.Rendering
import SqlTemplate.Proofs.Query.Truth

/-!
# Lists that are split into groups

A list that is longer than the limit is written as several groups of marks. `ListCondition.read?`
reads a text and the values of its marks back as a condition on the column, "and" binding stronger
than "or" and each mark taking the next value; it knows nothing of limits or of how long a group
should be. What the condition means for a value of the column is a `Truth`, so that a null among the
values, or in the column, is covered.

`Registration.clause_list_split` is that the groups are as full as the limit allows and that the
clause means what the list does as a whole, with every limit. The values of the groups make up the
list (`ListCondition.read?_splitText`), and one of the groups has a value exactly if the list does
(`ListCondition.truth_joinAll`).
-/

namespace SqlTemplate

/-- A column is among values, or among none of them. -/
structure Inclusion where
  /-- The column is among none of them. -/
  excluded : Bool
  /-- The values. -/
  values : List Value

/-- Conditions joined by "or", each of which joins others by "and". -/
abbrev ListCondition := List (List Inclusion)

/-- Groups of these sizes make up a list of `count` values: all but the last are as great as the
limit allows, and without a limit there is one. -/
structure IsSplit (limit : Option Nat) (count : Nat) (sizes : List Nat) : Prop where
  /-- The groups have as many values as the list. -/
  sum : sizes.sum = count
  /-- No group is empty. -/
  pos : ∀ size ∈ sizes, 0 < size
  /-- No group exceeds the limit. -/
  le : ∀ size ∈ sizes, ∀ max ∈ limit, size ≤ max
  /-- All groups but the last are full. -/
  full : ∀ size ∈ sizes.dropLast, limit = some size

/-- Full groups and one that may be smaller. -/
theorem isSplit_replicate (full : Nat) {size last count : Nat} (hlast : 0 < last)
    (hle : last ≤ size) (hsum : (List.replicate full size ++ [last]).sum = count) :
    IsSplit (some size) count (List.replicate full size ++ [last]) where
  sum := hsum
  pos group hmem := by
    rcases List.mem_append.1 hmem with hmem | hmem
    · rw [List.eq_of_mem_replicate hmem]
      exact hlast.trans_le hle
    · rwa [List.mem_singleton.1 hmem]
  le group hmem max hmax := by
    obtain rfl := Option.mem_some.1 hmax
    rcases List.mem_append.1 hmem with hmem | hmem
    · exact (List.eq_of_mem_replicate hmem).le
    · rwa [List.mem_singleton.1 hmem]
  full group hmem := by
    rw [List.dropLast_concat] at hmem
    rw [List.eq_of_mem_replicate hmem]

namespace ListCondition

variable {column : String}

/-- The operator that opens a group. -/
def operator (excluded : Bool) : String :=
  if excluded then " not in (" else " in ("

/-- The word between two groups. -/
def joiner (excluded : Bool) : String :=
  if excluded then " and " else " or "

/-- One group of marks. -/
def groupText (column : String) (excluded : Bool) (size : Nat) : String :=
  column ++ operator excluded ++ ", ".intercalate (List.replicate size "?") ++ ")"

/-- Groups of the given sizes: one by itself, several joined and in parentheses. -/
def splitText (column : String) (excluded : Bool) : List Nat → String
  | [size] => groupText column excluded size
  | sizes =>
    "(" ++ (joiner excluded).intercalate (sizes.map (groupText column excluded)) ++ ")"

/-- Two groups or more stand in parentheses, with the joiner between them. -/
theorem splitText_cons_cons (column : String) (excluded : Bool) (size next : Nat)
    (rest : List Nat) :
    (splitText column excluded (size :: next :: rest)).toList =
      '(' :: (((joiner excluded).intercalate (groupText column excluded size ::
        groupText column excluded next :: rest.map (groupText column excluded))).toList ++
          [')']) := by
  simp only [splitText, String.toList_append, List.map_cons]
  rfl

/-- Texts that are joined have as many marks as they have by themselves. -/
theorem count_intercalate {joiner : String} (hjoiner : '?' ∉ joiner.toList) (texts : List String) :
    (joiner.intercalate texts).toList.count '?' =
      (texts.map fun text => text.toList.count '?').sum := by
  induction texts with
  | nil => rfl
  | cons text rest ih =>
    cases rest with
    | nil => simp
    | cons next rest =>
      rw [String.intercalate_cons_cons, String.toList_append, String.toList_append,
        List.count_append, List.count_append, List.count_eq_zero_of_not_mem hjoiner, ih]
      simp only [Nat.add_zero, List.map_cons, List.sum_cons]

/-- A group has the marks of its column and one for each element. -/
theorem count_groupText (column : String) (excluded : Bool) (size : Nat) :
    (groupText column excluded size).toList.count '?' = column.toList.count '?' + size := by
  have hoperator : '?' ∉ (operator excluded).toList := by
    cases excluded <;> decide
  have hmarks : (", ".intercalate (List.replicate size "?")).toList.count '?' = size := by
    rw [count_intercalate (by decide), List.map_replicate, List.sum_replicate_nat]
    exact Nat.mul_one size
  have hclose : ")".toList.count '?' = 0 := rfl
  simp only [groupText, String.toList_append, List.count_append, hmarks, hclose,
    List.count_eq_zero_of_not_mem hoperator]
  omega

/-- The text has a mark for each value, besides those of the column in each group. -/
theorem count_splitText (column : String) (excluded : Bool) (sizes : List Nat) :
    (splitText column excluded sizes).toList.count '?' =
      sizes.length * column.toList.count '?' + sizes.sum := by
  -- The joiners hold no mark, so the marks are those of the groups.
  have hjoiner : '?' ∉ (joiner excluded).toList := by
    cases excluded <;> decide
  have hjoined : ∀ sizes : List Nat, ("(" ++ (joiner excluded).intercalate
      (sizes.map (groupText column excluded)) ++ ")").toList.count '?' =
        sizes.length * column.toList.count '?' + sizes.sum := by
    intro sizes
    have hsum : (sizes.map fun size => column.toList.count '?' + size).sum =
        sizes.length * column.toList.count '?' + sizes.sum := by
      induction sizes with
      | nil => simp
      | cons size rest ih =>
        rw [List.map_cons, List.sum_cons, ih, List.length_cons, List.sum_cons, Nat.succ_mul]
        omega
    rw [String.toList_append, String.toList_append, List.count_append, List.count_append,
      count_intercalate hjoiner, List.map_map]
    simpa [Function.comp_def, count_groupText] using hsum
  unfold splitText
  split
  · rw [count_groupText, List.length_singleton, Nat.one_mul, List.sum_singleton]
  · exact hjoined sizes

end ListCondition

/-! ## What a text states -/

variable {α : Type}

/-- The truth for a column value, where `same` compares it with others. -/
def Inclusion.truth (same : α → Value → Truth) (x : α) (m : Inclusion) : Truth :=
  let found := Truth.any (m.values.map (same x))
  if m.excluded then found.not else found

namespace ListCondition

/-- The truth for a column value. -/
def truth (same : α → Value → Truth) (x : α) (condition : ListCondition) : Truth :=
  Truth.any (condition.map fun joined => Truth.all (joined.map (Inclusion.truth same x)))

/-- The condition with one more in front, joined by "and" or by "or"; "and" binds stronger. -/
def join (m : Inclusion) (conjoined : Bool) : ListCondition → ListCondition
  | [] => [[m]]
  | joined :: rest => if conjoined then (m :: joined) :: rest else [m] :: joined :: rest

/-- Conditions that are all joined by the same word. -/
def joinAll (conjoined : Bool) (ms : List Inclusion) : ListCondition :=
  if conjoined then [ms] else ms.map ([·])

/-- One more condition is joined to those that are joined by the same word. -/
theorem join_joinAll (m m' : Inclusion) (conjoined : Bool) (ms : List Inclusion) :
    join m conjoined (joinAll conjoined (m' :: ms)) = joinAll conjoined (m :: m' :: ms) := by
  cases conjoined <;> rfl

/-- The values of the marks of a group, which are dealt out from the left, up to its closing
parenthesis; the values and the text that are left. -/
def readMarks? : List Value → List Char → Option (List Value × List Value × List Char)
  | v :: vs, '?' :: ')' :: cs => some ([v], vs, cs)
  | v :: vs, '?' :: ',' :: ' ' :: cs =>
    (readMarks? vs cs).map fun (group, rest) => (v :: group, rest)
  | _, _ => none

/-- The operator that opens a group, `true` for the one that excludes. -/
def readOperator? : List Char → Option (Bool × List Char)
  | ' ' :: 'i' :: 'n' :: ' ' :: '(' :: cs => some (false, cs)
  | ' ' :: 'n' :: 'o' :: 't' :: ' ' :: 'i' :: 'n' :: ' ' :: '(' :: cs => some (true, cs)
  | _ => none

/-- One group of the column. -/
def readGroup? (column : String) (vs : List Value) (cs : List Char) :
    Option (Inclusion × List Value × List Char) := do
  let (excluded, cs) ← readOperator? (← column.toList.isPrefixOf? cs)
  let (group, rest) ← readMarks? vs cs
  return (⟨excluded, group⟩, rest)

/-- The marks of a group take elements from the list. -/
theorem length_readMarks?_lt {vs group vs' : List Value} {cs cs' : List Char}
    (h : readMarks? vs cs = some (group, vs', cs')) : vs'.length < vs.length := by
  fun_induction readMarks? vs cs generalizing group with
  | case1 v vs cs =>
    simp only [Option.some.injEq, Prod.mk.injEq] at h
    simp [h.2.1]
  | case2 v vs cs ih =>
    obtain ⟨⟨group, rest⟩, hread, heq⟩ := Option.map_eq_some_iff.1 h
    obtain ⟨-, rfl⟩ := Prod.mk.inj heq
    exact (ih hread).trans (Nat.lt_succ_self _)
  | case3 => exact nomatch h

/-- So does a group as a whole. -/
theorem length_readGroup?_lt {column : String} {vs vs' : List Value} {cs cs' : List Char}
    {m : Inclusion} (h : readGroup? column vs cs = some (m, vs', cs')) :
    vs'.length < vs.length := by
  simp only [readGroup?, Option.bind_eq_bind, Option.bind_eq_some_iff] at h
  obtain ⟨_, -, _, -, ⟨group, rest⟩, hread, heq⟩ := h
  obtain ⟨-, rfl⟩ := Prod.mk.inj (Option.some.inj heq)
  exact length_readMarks?_lt hread

/-- The word that joins two groups, `true` for "and". -/
def readJoiner? : List Char → Option (Bool × List Char)
  | ' ' :: 'o' :: 'r' :: ' ' :: cs => some (false, cs)
  | ' ' :: 'a' :: 'n' :: 'd' :: ' ' :: cs => some (true, cs)
  | _ => none

/-- Groups that are joined, and the values and the text that are left. -/
def readJoined? (column : String) (vs : List Value) (cs : List Char) :
    Option (ListCondition × List Value × List Char) :=
  match h : readGroup? column vs cs with
  | none => none
  | some (m, vs', cs') =>
    have : vs'.length < vs.length := length_readGroup?_lt h
    match readJoiner? cs' with
    | none => some ([[m]], vs', cs')
    | some (conjoined, cs) => (readJoined? column vs' cs).map (Prod.map (join m conjoined) id)
termination_by vs.length

/-- Groups in one pair of parentheses. -/
def readParenthesized? (column : String) (vs : List Value) : List Char → Option ListCondition
  | '(' :: cs =>
    match readJoined? column vs cs with
    | some (condition, [], [')']) => some condition
    | _ => none
  | _ => none

/-- The condition that a text states of a column, where `vs` are the values of its marks: one group
by itself, or several in parentheses. -/
def read? (column : String) (vs : List Value) (cs : List Char) : Option ListCondition :=
  match readGroup? column vs cs with
  | some (m, [], []) => some [[m]]
  | some _ => none
  | none => readParenthesized? column vs cs

end ListCondition

/-- The truth of a clause for a column value, where the marks stand for the binds from the left;
there is none if the clause is no list condition on its column. -/
def Clause.listTruth? (c : Clause) (same : α → Value → Truth) (x : α) : Option Truth :=
  (ListCondition.read? c.column (c.binds.map Bind.value) c.sql.toList).map
    (ListCondition.truth same x)

/-! ## Reading what is written -/

namespace ListCondition

variable {column : String} {vs vs' : List Value} {cs cs' : List Char} {m : Inclusion}

/-- A group that is read is joined with what is behind it. -/
theorem readJoined?_eq (h : readGroup? column vs cs = some (m, vs', cs')) :
    readJoined? column vs cs =
      match readJoiner? cs' with
      | none => some ([[m]], vs', cs')
      | some (conjoined, cs) =>
        (readJoined? column vs' cs).map (Prod.map (join m conjoined) id) := by
  rw [readJoined?.eq_def]
  split
  · next hnone =>
    rw [hnone] at h
    exact nomatch h
  · next hsome =>
    rw [hsome] at h
    obtain ⟨rfl, rfl, rfl⟩ := Prod.mk.inj (Option.some.inj h)
    rfl

/-- The marks of a group stand for its values. -/
theorem readMarks?_marks {group : List Value} (h : group ≠ []) (vs : List Value) (cs : List Char) :
    readMarks? (group ++ vs)
      ((", ".intercalate (List.replicate group.length "?")).toList ++ ')' :: cs) =
        some (group, vs, cs) := by
  induction group with
  | nil => exact absurd rfl h
  | cons v rest ih =>
    cases rest with
    | nil =>
      rw [List.length_singleton, List.replicate_one, String.intercalate_singleton]
      rfl
    | cons w rest =>
      rw [List.length_cons, List.length_cons, List.replicate_succ, List.replicate_succ,
        String.intercalate_cons_cons, ← List.replicate_succ, String.toList_append,
        String.toList_append]
      exact congrArg (Option.map _) (ih (List.cons_ne_nil w rest))

/-- A group is read as one, with the values of its marks. -/
theorem readGroup?_groupText (column : String) (excluded : Bool) {group : List Value}
    (hgroup : group ≠ []) (vs : List Value) (cs : List Char) :
    readGroup? column (group ++ vs) ((groupText column excluded group.length).toList ++ cs) =
      some (⟨excluded, group⟩, vs, cs) := by
  -- The text behind the column starts with an operator and goes on with the marks.
  have htext : column.toList ++ ((operator excluded).toList ++
      ((", ".intercalate (List.replicate group.length "?")).toList ++ ')' :: cs)) =
        (groupText column excluded group.length).toList ++ cs := by
    simp only [groupText, String.toList_append, List.append_assoc]
    rfl
  have hoperator : ∀ cs,
      readOperator? ((operator excluded).toList ++ cs) = some (excluded, cs) := by
    intro cs
    cases excluded <;> rfl
  rw [readGroup?, List.isPrefixOf?_eq_some_iff_append_eq.2 htext]
  dsimp only [bind, Option.bind]
  rw [hoperator]
  dsimp only
  rw [readMarks?_marks hgroup]
  rfl

/-- Groups that are joined are read as such, up to the parenthesis behind them. -/
theorem readJoined?_groups (column : String) (excluded : Bool) {groups : List (List Value)}
    (hgroups : groups ≠ []) (hmem : ∀ group ∈ groups, group ≠ []) :
    readJoined? column groups.flatten (((joiner excluded).intercalate
      ((groups.map List.length).map (groupText column excluded))).toList ++ [')']) =
        some (joinAll excluded (groups.map (⟨excluded, ·⟩)), [], [')']) := by
  have hjoiner : ∀ cs, readJoiner? ((joiner excluded).toList ++ cs) = some (excluded, cs) := by
    intro cs
    cases excluded <;> rfl
  induction groups with
  | nil => exact absurd rfl hgroups
  | cons group rest ih =>
    obtain ⟨hgroup, hrest⟩ := List.forall_mem_cons.1 hmem
    -- The last group ends the list, and behind any other one stands a joiner.
    cases rest with
    | nil =>
      rw [List.map_singleton, List.map_singleton, String.intercalate_singleton, List.flatten_cons,
        readJoined?_eq (readGroup?_groupText column excluded hgroup _ _)]
      cases excluded <;> rfl
    | cons next rest =>
      have hnext := ih (List.cons_ne_nil next rest) hrest
      simp only [List.map_cons] at hnext ⊢
      rw [String.intercalate_cons_cons, String.toList_append, String.toList_append,
        List.append_assoc, List.append_assoc, List.flatten_cons,
        readJoined?_eq (readGroup?_groupText column excluded hgroup _ _), hjoiner]
      dsimp only
      rw [hnext]
      simp only [Option.map_some, Prod.map_apply, join_joinAll, id]

/-- Groups in parentheses are no group by themselves, whatever the column is. -/
theorem readGroup?_parenthesis (column : String) (vs : List Value) (cs : List Char) :
    readGroup? column vs ('(' :: (column.toList ++ cs)) = none := by
  -- A column that started with the parenthesis would end behind its own end.
  have hshift : ∀ {start cs rest : List Char}, '(' :: (start ++ cs) = start ++ rest →
      rest = '(' :: cs := by
    intro start cs rest h
    induction start with
    | nil => exact h.symm
    | cons c start ih =>
      obtain ⟨rfl, htail⟩ := List.cons.inj h
      exact ih htail
  rw [readGroup?]
  cases hprefix : column.toList.isPrefixOf? ('(' :: (column.toList ++ cs)) with
  | none => rfl
  | some rest =>
    rw [hshift (List.isPrefixOf?_eq_some_iff_append_eq.1 hprefix).symm]
    rfl

/-- What is written of groups of values is read as the condition that they make together. -/
theorem read?_splitText (column : String) (excluded : Bool) {groups : List (List Value)}
    (hgroups : groups ≠ []) (hmem : ∀ group ∈ groups, group ≠ []) :
    read? column groups.flatten (splitText column excluded (groups.map List.length)).toList =
      some (joinAll excluded (groups.map (⟨excluded, ·⟩))) := by
  match groups with
  | [] => exact absurd rfl hgroups
  | [group] =>
    have hread := readGroup?_groupText column excluded (hmem group List.mem_cons_self) [] []
    rw [List.append_nil, List.append_nil] at hread
    rw [List.map_singleton, splitText, List.flatten_singleton, read?, hread]
    cases excluded <;> rfl
  | group :: next :: rest =>
    have hread := readJoined?_groups column excluded hgroups hmem
    simp only [List.map_cons] at hread ⊢
    rw [splitText_cons_cons]
    -- The text behind the parenthesis starts with the column.
    have hstart : ∃ cs, ((joiner excluded).intercalate (groupText column excluded group.length ::
        groupText column excluded next.length :: (rest.map List.length).map
          (groupText column excluded))).toList ++ [')'] = column.toList ++ cs := by
      rw [String.intercalate_cons_cons, groupText]
      simp only [String.toList_append, List.append_assoc]
      exact ⟨_, rfl⟩
    obtain ⟨cs, hcs⟩ := hstart
    rw [hcs] at hread ⊢
    rw [read?, readGroup?_parenthesis, readParenthesized?, hread]
    rfl

/-- Conditions on the groups mean what the condition on all values does. -/
theorem truth_joinAll (same : α → Value → Truth) (x : α) (excluded : Bool)
    (groups : List (List Value)) :
    truth same x (joinAll excluded (groups.map (⟨excluded, ·⟩))) =
      Inclusion.truth same x ⟨excluded, groups.flatten⟩ := by
  cases excluded with
  | false =>
    calc truth same x (joinAll false (groups.map (⟨false, ·⟩)))
      _ = Truth.any ((groups.map (List.map (same x))).map Truth.any) := by
        simp only [truth, joinAll, Inclusion.truth, List.map_map, Function.comp_def,
          List.map_singleton, Truth.all_singleton, Bool.false_eq_true, if_false]
      _ = Truth.any (groups.flatten.map (same x)) := by rw [Truth.any_flatten, List.map_flatten]
  | true =>
    calc truth same x (joinAll true (groups.map (⟨true, ·⟩)))
      _ = Truth.all ((groups.map (List.map (same x))).map fun part => (Truth.any part).not) := by
        simp only [truth, joinAll, Inclusion.truth, List.map_map, Function.comp_def,
          List.map_singleton, Truth.any_singleton, if_true]
      _ = (Truth.any (groups.flatten.map (same x))).not := by
        rw [Truth.all_not_any, List.map_flatten]

end ListCondition

/-! ## What a registration writes -/

namespace Registration

variable {r : Registration} {limit : Option Nat} {count : Nat}

/-- A list is split into groups up to the limit. -/
theorem isSplit_groupSizes (hlimit : limit ≠ some 0) (hcount : 0 < count) :
    IsSplit limit count (groupSizes limit count) := by
  have hsum := sum_groupSizes limit count
  cases limit with
  | none =>
    -- Without a limit there is one group of all.
    have hone : groupSizes none count = [count] := if_pos (le_max_left count 1)
    rw [hone] at hsum ⊢
    exact ⟨hsum, by simpa using hcount, nofun, nofun⟩
  | some size =>
    have hsize : 0 < size := Nat.pos_of_ne_zero fun hzero => hlimit (congrArg some hzero)
    have hmax : max size 1 = size := max_eq_left hsize
    unfold groupSizes at hsum ⊢
    simp only [Option.getD_some, hmax] at hsum ⊢
    split_ifs at hsum ⊢ with hone hrest
    · exact isSplit_replicate 0 hcount hone hsum
    · -- The last of the full groups is the last of all.
      obtain ⟨full, hfull⟩ : ∃ full, count / size = full + 1 :=
        Nat.exists_eq_add_one.2 (Nat.div_pos (Nat.le_of_not_le hone) hsize)
      rw [List.append_nil, hfull, List.replicate_succ'] at hsum ⊢
      exact isSplit_replicate full hsize le_rfl hsum
    · exact isSplit_replicate _ (Nat.pos_of_ne_zero hrest) (Nat.mod_lt count hsize).le hsum

/-- The clause of a list is the text of its groups. -/
theorem listSql_eq (hkey : r.key = .inScope ∨ r.key = .notInScope) (limit : Option Nat)
    (count : Nat) :
    r.listSql limit count =
      ListCondition.splitText r.column (r.key = .notInScope) (groupSizes limit count) := by
  -- The two spell out groups and joiners alike, and so any number of groups.
  have hgroup : r.group = ListCondition.groupText r.column (r.key = .notInScope) := by
    funext size
    rw [group, ListCondition.groupText]
    rcases hkey with hkey | hkey <;> rw [hkey] <;>
      simp [ConditionKey.operand, String.append_assoc, ListCondition.operator]
  have hjoiner : (if r.key = .notInScope then " and " else " or ") =
      ListCondition.joiner (r.key = .notInScope) := by
    simp only [ListCondition.joiner, decide_eq_true_eq]
  have hseveral (sizes : List Nat) :=
    congrArg (fun joiner : String => "(" ++ joiner.intercalate (sizes.map r.group) ++ ")") hjoiner
  rw [hgroup] at hseveral
  rw [listSql, hgroup]
  rcases groupSizes limit count with _ | ⟨size, _ | ⟨next, rest⟩⟩
  · exact hseveral []
  · rfl
  · exact hseveral (size :: next :: rest)

/-- The clause of a list has a mark for each value, besides those of its column. -/
theorem le_count_listSql (hkey : r.key = .inScope ∨ r.key = .notInScope) (limit : Option Nat)
    (count : Nat) : count ≤ (r.listSql limit count).toList.count '?' := by
  rw [listSql_eq hkey, ListCondition.count_splitText, sum_groupSizes]
  exact Nat.le_add_left count _

/-- The clause of a list has no other marks if its column has none. -/
theorem count_listSql (hkey : r.key = .inScope ∨ r.key = .notInScope)
    (hcolumn : '?' ∉ r.column.toList) (limit : Option Nat) (count : Nat) :
    (r.listSql limit count).toList.count '?' = count := by
  rw [listSql_eq hkey, ListCondition.count_splitText, sum_groupSizes,
    List.count_eq_zero_of_not_mem hcolumn, Nat.mul_zero, Nat.zero_add]

/-- The clause of a list. -/
theorem clause_list (hkey : r.key = .inScope ∨ r.key = .notInScope) (limit : Option Nat)
    (items : List Value) :
    r.clause limit (.list items) =
      ⟨r.column, r.key, r.listSql limit items.length, items.map r.toBind⟩ := by
  unfold clause
  rcases hkey with hkey | hkey <;> rw [hkey]

/-- The clause of a list is read as a condition that means what it does for the list as a whole. -/
theorem listTruth?_clause (hkey : r.key = .inScope ∨ r.key = .notInScope) {items : List Value}
    (hitems : items ≠ []) (hlimit : limit ≠ some 0) (same : α → Value → Truth) (x : α) :
    (r.clause limit (.list items)).listTruth? same x =
      some (Inclusion.truth same x ⟨r.key = .notInScope, items⟩) := by
  obtain ⟨hsum, hpos, -, -⟩ := isSplit_groupSizes hlimit (List.length_pos_iff.2 hitems)
  -- The values are dealt out to the groups from the left.
  set sizes := groupSizes limit items.length
  have hlength : (sizes.splitLengths items).map List.length = sizes :=
    List.map_splitLengths_length items sizes hsum.le
  have hflatten : (sizes.splitLengths items).flatten = items :=
    List.flatten_splitLengths items sizes hsum.ge
  have hvalues : (items.map r.toBind).map Bind.value = items := by
    rw [List.map_map]
    exact List.map_id items
  have hgroups : sizes.splitLengths items ≠ [] := by
    intro hnil
    rw [hnil] at hflatten
    exact hitems hflatten.symm
  have hmem : ∀ group ∈ sizes.splitLengths items, group ≠ [] := by
    rintro group hgroup rfl
    have hzero : [].length ∈ sizes := hlength ▸ List.mem_map_of_mem hgroup
    exact (hpos _ hzero).ne rfl
  have hread := ListCondition.read?_splitText r.column (r.key = .notInScope) hgroups hmem
  rw [hflatten, hlength] at hread
  rw [clause_list hkey, Clause.listTruth?, hvalues, listSql_eq hkey, hread, Option.map_some,
    ListCondition.truth_joinAll, hflatten]

/-- A list is split into groups that are as full as the limit allows, with a mark for each value,
and the clause means what it would without a limit: that the column is among the values, or among
none of them. -/
theorem clause_list_split (hkey : r.key = .inScope ∨ r.key = .notInScope)
    (hcolumn : '?' ∉ r.column.toList) {items : List Value} (hitems : items ≠ [])
    (hlimit : limit ≠ some 0) :
    (∃ sizes, IsSplit limit items.length sizes ∧
      (r.clause limit (.list items)).sql =
        ListCondition.splitText r.column (r.key = .notInScope) sizes) ∧
    (r.clause limit (.list items)).sql.toList.count '?' = items.length ∧
    (r.clause limit (.list items)).binds = items.map r.toBind ∧
    ∀ {α : Type} (same : α → Value → Truth) (x : α), ∃ t,
      (r.clause limit (.list items)).listTruth? same x = some t ∧
      (r.clause none (.list items)).listTruth? same x = some t ∧
      (r.key = .inScope → (t = .holds ↔ ∃ v ∈ items, same x v = .holds)) ∧
      (r.key = .notInScope → (t = .holds ↔ ∀ v ∈ items, same x v = .fails)) := by
  have hsplit := isSplit_groupSizes hlimit (List.length_pos_iff.2 hitems)
  refine ⟨⟨_, hsplit, ?_⟩, ?_, ?_, ?_⟩
  · rw [clause_list hkey, listSql_eq hkey]
  · rw [clause_list hkey, count_listSql hkey hcolumn]
  · rw [clause_list hkey]
  · intro α same x
    have htruth {limit : Option Nat} (hlimit : limit ≠ some 0) :=
      listTruth?_clause hkey hitems hlimit same x
    refine ⟨_, htruth hlimit, htruth (Option.some_ne_none 0).symm, fun hin => ?_, fun hout => ?_⟩
    · simp [Inclusion.truth, hin, Truth.any_eq_holds_iff]
    · simp [Inclusion.truth, hout, Truth.not_eq_holds_iff, Truth.any_eq_fails_iff]

/-- Five values in groups of two, for a column that may be null. -/
theorem clause_list_split_five :
    let r : Registration := ⟨"id", .notInScope, .null, {}⟩
    let items : List Value := [.integer 1, .integer 2, .integer 3, .integer 4, .integer 5]
    let same (x : Option Int) (v : Value) : Truth :=
      match x, v with
      | some x, .integer i => if x = i.toInt then .holds else .fails
      | _, _ => .unknown
    (r.clause (some 2) (.list items)).sql =
      "(id not in (?, ?) and id not in (?, ?) and id not in (?))" ∧
    (r.clause (some 2) (.list items)).sql.toList.count '?' = 5 ∧
    (r.clause (some 2) (.list items)).listTruth? same (some 6) = some .holds ∧
    (r.clause (some 2) (.list items)).listTruth? same (some 5) ≠ some .holds ∧
    (r.clause (some 2) (.list items)).listTruth? same none ≠ some .holds := by
  intro r items same
  obtain ⟨-, hcount, -, htruth⟩ :=
    clause_list_split (r := r) (.inr rfl) (by decide) (List.cons_ne_nil _ _ : items ≠ [])
      (by decide : some 2 ≠ some 0)
  refine ⟨by decide, hcount, ?_, ?_, ?_⟩
  · obtain ⟨t, hread, -, -, hholds⟩ := htruth same (some 6)
    rw [hread, (hholds rfl).2 (by decide)]
  · obtain ⟨t, hread, -, -, hholds⟩ := htruth same (some 5)
    rw [hread]
    exact fun h => absurd ((hholds rfl).1 (Option.some.inj h)) (by decide)
  · obtain ⟨t, hread, -, -, hholds⟩ := htruth same none
    rw [hread]
    exact fun h => absurd ((hholds rfl).1 (Option.some.inj h)) (by decide)

end Registration

end SqlTemplate
