import SqlTemplate.Proofs.Query.Splitting
import SqlTemplate.Proofs.Query.Writers

/-!
# Columns with marks

The marks of a clause are looked for in its whole text, so that a mark in the column is taken for
that of the first bind. Where the placeholder is the mark itself nothing comes of this; where it is
numbered the column loses its mark (`Registration.rendered_ne`).
`ConditionQuery.toStatement_columns` is what this means for the statement of a query: no bind is
ever left out, and the text is the one that the conditions mean exactly if the dialect does not
number its placeholders, or no column of a condition with values has a mark.
-/

namespace SqlTemplate

/-- A text that is joined with others comes first. -/
theorem Text.prefix_intercalate (joiner text : String) (rest : List String) :
    text.toList <+: (joiner.intercalate (text :: rest)).toList := by
  cases rest with
  | nil =>
    refine ⟨[], ?_⟩
    rw [String.intercalate_singleton, List.append_nil]
  | cons next rest =>
    rw [String.intercalate_cons_cons, String.toList_append, String.toList_append, List.append_assoc]
    exact List.prefix_append _ _

namespace Registration

variable {d : Dialect} {r : Registration}

/-- No mark of the column is taken for that of a bind: the placeholders are not numbered, nothing is
bound, or the column has no mark. -/
def KeepsColumn (d : Dialect) (r : Registration) : Prop :=
  d.kind = .postgres → r.bound ≠ [] → '?' ∉ r.column.toList

/-! ## Where the placeholder is the mark -/

/-- The clause has a mark for each bind, whatever its column is. -/
theorem le_count_finalClause (heffect : r.takesEffect = true) (d : Dialect) :
    (r.finalClause d).binds.length ≤ (r.finalClause d).sql.toList.count '?' := by
  have hclause := isClause_finalClause heffect d
  generalize r.finalClause d = clause at hclause ⊢
  cases hclause with
  | valueless => exact Nat.zero_le _
  | like =>
    refine List.count_pos_iff.2 ?_
    simp [LikeOption.clause]
  | @list items hkey =>
    rw [List.length_map]
    exact le_count_listSql hkey _ _
  | scalar =>
    refine List.count_pos_iff.2 ?_
    simp

/-- A group is rendered with its marks. -/
theorem renderedGroup_of_ne_postgres (h : d.kind ≠ .postgres) (position size : Nat) :
    r.renderedGroup d position size = r.group size := by
  have hmarks : (List.range' position size).map d.placeholder = List.replicate size "?" := by
    refine List.eq_replicate_iff.2 ⟨?_, fun text htext => ?_⟩
    · rw [List.length_map, List.length_range']
    · obtain ⟨n, -, rfl⟩ := List.mem_map.1 htext
      exact Dialect.placeholder_of_ne_postgres h n
  rw [renderedGroup, hmarks, group]

/-- So are all groups of a list. -/
theorem renderedList_of_ne_postgres (h : d.kind ≠ .postgres) (position count : Nat) :
    r.renderedList d position count = r.listSql d.inListLimit count := by
  -- The position counts for nothing, so it may be another one for each group.
  have hgroups : ∀ (sizes : List Nat) (position : Nat),
      r.renderedGroups d position sizes = sizes.map r.group := by
    intro sizes
    induction sizes with
    | nil => exact fun _ => rfl
    | cons size rest ih =>
      intro position
      rw [renderedGroups, renderedGroup_of_ne_postgres h, ih, List.map_cons]
  unfold renderedList listSql
  rcases groupSizes d.inListLimit count with _ | ⟨size, _ | ⟨next, rest⟩⟩
  · rfl
  · exact renderedGroup_of_ne_postgres h position size
  · dsimp only
    rw [hgroups]

/-- A condition is rendered as its clause. -/
theorem rendered_of_ne_postgres (h : d.kind ≠ .postgres) (heffect : r.takesEffect = true)
    (position : Nat) : r.rendered d position = (r.finalClause d).sql := by
  have hmark := Dialect.placeholder_of_ne_postgres h position
  have hclause := isClause_finalClause heffect d
  generalize r.finalClause d = clause at hclause ⊢
  cases hclause with
  | valueless _ _ hrendered => exact hrendered position
  | like _ _ _ _ hrendered => rw [hrendered, hmark, LikeOption.clause_eq]
  | list _ _ _ _ hrendered => rw [hrendered, renderedList_of_ne_postgres h]
  | scalar _ _ _ _ hrendered =>
    rw [hrendered, hmark, show " ?" = " " ++ "?" from rfl, ← String.append_assoc]

/-! ## Where the placeholder is numbered -/

/-- A group starts with the column, before and after its marks are numbered. -/
theorem column_prefix_group (r : Registration) (d : Dialect) (position size : Nat) :
    r.column.toList <+: (r.group size).toList ∧
      r.column.toList <+: (r.renderedGroup d position size).toList := by
  unfold group renderedGroup
  simp only [String.toList_append, List.append_assoc]
  exact ⟨List.prefix_append _ _, List.prefix_append _ _⟩

/-- So does a list, behind the parenthesis around several groups. -/
theorem exists_start_list (r : Registration) (d : Dialect) {count : Nat} (hcount : 0 < count) :
    ∃ start : List Char, '?' ∉ start ∧
      start ++ r.column.toList <+: (r.listSql d.inListLimit count).toList ∧
      ∀ position, start ++ r.column.toList <+: (r.renderedList d position count).toList := by
  have hsum := sum_groupSizes d.inListLimit count
  unfold listSql renderedList
  generalize groupSizes d.inListLimit count = sizes at hsum ⊢
  rcases sizes with _ | ⟨size, _ | ⟨next, rest⟩⟩
  · rw [List.sum_nil] at hsum
    exact absurd hsum hcount.ne
  · exact ⟨[], List.not_mem_nil, (r.column_prefix_group d 1 size).1,
      fun position => (r.column_prefix_group d position size).2⟩
  · have hgroup := r.column_prefix_group d
    -- Several groups stand in parentheses, and the column behind the opening one.
    have hseveral : ∀ {text joiner : String} {texts : List String},
        r.column.toList <+: text.toList →
        ['('] ++ r.column.toList <+: ("(" ++ joiner.intercalate (text :: texts) ++ ")").toList := by
      intro text joiner texts h
      rw [String.toList_append, String.toList_append, List.append_assoc]
      refine (List.prefix_append_right_inj _).2 (h.trans ?_)
      exact (Text.prefix_intercalate joiner text texts).trans (List.prefix_append _ _)
    exact ⟨['('], by decide, hseveral (hgroup 1 size).1, fun position =>
      hseveral (hgroup position size).2⟩

/-- A clause and what it is rendered as start with the column, but for a parenthesis. -/
theorem exists_start (heffect : r.takesEffect = true) (d : Dialect) :
    ∃ start : List Char, '?' ∉ start ∧
      start ++ r.column.toList <+: (r.finalClause d).sql.toList ∧
      ∀ position, start ++ r.column.toList <+: (r.rendered d position).toList := by
  have hclause := isClause_finalClause heffect d
  generalize r.finalClause d = clause at hclause ⊢
  -- All clauses start with the column, but for the split list.
  have hprefix : ∀ text : String, r.column.toList <+: (r.column ++ text).toList := by
    intro text
    rw [String.toList_append]
    exact List.prefix_append _ _
  cases hclause with
  | valueless _ _ hrendered =>
    refine ⟨[], List.not_mem_nil, ?_, fun position => ?_⟩
    · rw [String.append_assoc]
      exact hprefix _
    · rw [hrendered, String.append_assoc]
      exact hprefix _
  | like _ _ _ _ hrendered =>
    refine ⟨[], List.not_mem_nil, ?_, fun position => ?_⟩
    · rw [LikeOption.clause, String.append_assoc]
      exact hprefix _
    · simp only [hrendered, String.append_assoc]
      exact hprefix _
  | @list items _ _ hitems _ hrendered =>
    simp only [hrendered]
    exact r.exists_start_list d (List.length_pos_iff.2 hitems)
  | scalar _ _ _ _ hrendered =>
    refine ⟨[], List.not_mem_nil, ?_, fun position => ?_⟩
    · simp only [String.append_assoc]
      exact hprefix _
    · simp only [hrendered, String.append_assoc]
      exact hprefix _

/-- A column that is not kept has a placeholder where the rendered condition has its mark. -/
theorem rendered_ne (heffect : r.takesEffect = true) (h : ¬KeepsColumn d r) (position : Nat) :
    ∃ start numbered meant : List Char,
      (numberMarks d position (r.finalClause d).binds (r.finalClause d).sql.toList).1 =
        start ++ '$' :: numbered ∧
      (r.rendered d position).toList = start ++ '?' :: meant := by
  obtain ⟨hkind, hbound, hmem⟩ : d.kind = .postgres ∧ r.bound ≠ [] ∧ '?' ∈ r.column.toList := by
    simpa [KeepsColumn] using h
  obtain ⟨start, hstart, ⟨behind, hsql⟩, hrendered⟩ := exists_start heffect d
  obtain ⟨meant, hmeant⟩ := hrendered position
  -- The first mark of all stands in the column, and the first bind is numbered there.
  obtain ⟨before, after, hcolumn, hbefore⟩ := List.eq_append_cons_of_mem hmem
  obtain ⟨v, values, hvalues⟩ := List.exists_cons_of_ne_nil hbound
  have hplaceholder : (d.placeholder position).toList = '$' :: (toString position).toList := by
    rw [Dialect.placeholder, hkind]
    simp
  have hnone : '?' ∉ start ++ before := List.not_mem_append hstart hbefore
  have htext : (r.finalClause d).sql.toList = start ++ before ++ '?' :: (after ++ behind) := by
    rw [← hsql, hcolumn]
    simp only [List.append_assoc, List.cons_append]
  refine ⟨start ++ before, (toString position).toList ++
    (numberMarks d (position + 1) (values.map r.toBind) (after ++ behind)).1, after ++ meant,
    ?_, ?_⟩
  · rw [binds_finalClause heffect, hvalues, List.map_cons, htext, numberMarks_mark hnone,
      hplaceholder, List.append_assoc, List.cons_append]
  · rw [← hmeant, hcolumn]
    simp only [List.append_assoc, List.cons_append]

/-! ## Conditions one after the other -/

/-- No clause leaves out a bind. -/
theorem numberMarks_binds_finalClause (heffect : r.takesEffect = true) (d : Dialect)
    (position : Nat) :
    (numberMarks d position (r.finalClause d).binds (r.finalClause d).sql.toList).2 =
      r.bound.map r.toBind := by
  rw [numberMarks_binds (le_count_finalClause heffect d), binds_finalClause heffect]

/-- A clause whose column is kept becomes the rendered condition. -/
theorem numberMarks_of_keepsColumn (heffect : r.takesEffect = true) (h : KeepsColumn d r)
    (position : Nat) :
    (numberMarks d position (r.finalClause d).binds (r.finalClause d).sql.toList).1 =
      (r.rendered d position).toList := by
  by_cases hkind : d.kind = .postgres
  · rw [numberMarks_finalClause heffect (h hkind)]
  · rw [numberMarks_text (Dialect.placeholder_of_ne_postgres hkind),
      rendered_of_ne_postgres hkind heffect]

/-- The clauses of conditions, from the first one on. -/
theorem numberClauses_finalClause (heffect : r.takesEffect = true) (d : Dialect) (position : Nat)
    (rest : List Registration) :
    numberClauses d position ((r :: rest).map (finalClause d)) =
      let others := numberClauses d (position + r.bound.length) (rest.map (finalClause d))
      (String.ofList (numberMarks d position (r.finalClause d).binds
        (r.finalClause d).sql.toList).1 :: others.1, r.bound.map r.toBind ++ others.2) := by
  rw [List.map_cons, numberClauses]
  dsimp only
  rw [numberMarks_binds_finalClause heffect, List.length_map]

variable {rs : List Registration}

/-- No clause of a statement leaves out a bind. -/
theorem numberClauses_binds (h : ∀ r ∈ rs, r.takesEffect = true) (d : Dialect) (position : Nat) :
    (numberClauses d position (rs.map (finalClause d))).2 =
      rs.flatMap fun r => r.bound.map r.toBind := by
  induction rs generalizing position with
  | nil => rfl
  | cons r rest ih =>
    obtain ⟨heffect, hrest⟩ := List.forall_mem_cons.1 h
    rw [numberClauses_finalClause heffect]
    dsimp only
    rw [ih hrest, List.flatMap_cons]

/-- Joined, the clauses are the rendered conditions exactly if all columns are kept. -/
theorem intercalate_numberClauses_iff (h : ∀ r ∈ rs, r.takesEffect = true) (d : Dialect)
    (position : Nat) (joiner : String) :
    joiner.intercalate (numberClauses d position (rs.map (finalClause d))).1 =
      joiner.intercalate (renderedAll d position rs) ↔ ∀ r ∈ rs, KeepsColumn d r := by
  induction rs generalizing position with
  | nil => exact iff_of_true rfl nofun
  | cons r rest ih =>
    obtain ⟨heffect, hrest⟩ := List.forall_mem_cons.1 h
    have hlast := ih hrest (position + r.bound.length)
    rw [numberClauses_finalClause heffect, renderedAll, List.forall_mem_cons]
    dsimp only
    by_cases hkeeps : KeepsColumn d r
    · -- The two texts start alike, and go on with what is behind the first condition.
      rw [numberMarks_of_keepsColumn heffect hkeeps, String.ofList_toList, and_iff_right hkeeps,
        ← hlast]
      cases rest with
      | nil => exact iff_of_true rfl rfl
      | cons next rest =>
        rw [numberClauses_finalClause (hrest next List.mem_cons_self), renderedAll]
        dsimp only
        rw [String.intercalate_cons_cons, String.intercalate_cons_cons]
        exact String.append_right_inj _
    -- The first condition numbers a mark of its column, where the other text has the mark.
    · refine iff_of_false (fun heq => ?_) fun hall => hkeeps hall.1
      obtain ⟨start, numbered, meant, hnumbered, hmeant⟩ := rendered_ne heffect hkeeps position
      obtain ⟨x, hx⟩ := Text.prefix_intercalate joiner (String.ofList (start ++ '$' :: numbered))
        (numberClauses d (position + r.bound.length) (rest.map (finalClause d))).1
      obtain ⟨y, hy⟩ := Text.prefix_intercalate joiner (r.rendered d position)
        (renderedAll d (position + r.bound.length) rest)
      rw [hnumbered] at heq
      rw [heq, ← hy, hmeant, String.toList_ofList, List.append_assoc, List.append_assoc] at hx
      have hcons := List.append_cancel_left hx
      exact absurd (List.cons.inj hcons).1 (by decide)

end Registration

namespace ConditionQuery

open Registration

/-- Every writer that stands was called for and takes effect. -/
theorem mem_standing_writers {d : Dialect} {calls : List Call} :
    ∀ r ∈ standing (writers d calls), .register r ∈ calls ∧ r.takesEffect = true :=
  fun _ hr => mem_writers (mem_of_mem_standing hr)

/-- The statement binds the values of all conditions, in their order. -/
theorem toStatement_binds (d : Dialect) (calls : List Call) :
    (run d calls).toStatement.binds =
      (standing (writers d calls)).flatMap fun r => r.bound.map r.toBind := by
  unfold toStatement
  rw [clauses_run, List.isEmpty_map, dialect_run]
  split_ifs with hempty
  · rw [List.isEmpty_iff.1 hempty]
    rfl
  · exact numberClauses_binds (fun r hr => (mem_standing_writers r hr).2) d 1

/-- The statement after a run binds the values of its conditions in their order, whatever the
columns are. Its text is the one that the conditions mean, with every column as it is and the
placeholders where the values belong, exactly if no mark of a column is taken for that of a bind. -/
theorem toStatement_columns (d : Dialect) (calls : List Call) :
    (run d calls).clauses = (standing (writers d calls)).map (finalClause d) ∧
    (∀ r ∈ standing (writers d calls), .register r ∈ calls ∧ r.takesEffect = true) ∧
    (run d calls).toStatement.binds = (meaning d (writers d calls)).binds ∧
    ((run d calls).toStatement.sql = (meaning d (writers d calls)).sql ↔
      ∀ r ∈ standing (writers d calls), KeepsColumn d r) := by
  refine ⟨clauses_run d calls, mem_standing_writers, ?_⟩
  rw [toStatement_binds]
  unfold toStatement meaning
  rw [clauses_run, List.isEmpty_map, isEmpty_standing, dialect_run]
  cases hempty : (writers d calls).isEmpty with
  | true =>
    rw [List.isEmpty_iff.1 hempty]
    exact ⟨rfl, iff_of_true rfl nofun⟩
  | false =>
    refine ⟨rfl, ?_⟩
    rw [← intercalate_numberClauses_iff (fun r hr => (mem_standing_writers r hr).2) d 1 " and "]
    exact String.append_right_inj "where "

/-- Where placeholders are numbered, a mark in the column becomes one, and the mark of the bind
stays. -/
theorem toStatement_columns_numbered :
    let d : Dialect := { kind := .postgres }
    let r : Registration := ⟨"tags ? 'x'", .equal, .bool true, {}⟩
    (run d [.register r]).toStatement.sql = "where tags $1 'x' = ?" ∧
    (meaning d (writers d [.register r])).sql = "where tags ? 'x' = $1" := by
  exact ⟨by decide +kernel, by decide +kernel⟩

end ConditionQuery

end SqlTemplate
