import SqlTemplate.Proofs.Query.Escape

/-!
# Like conditions taken for duplicates

A condition is a duplicate if its value is the one that is recorded. Of a like condition this is the
pattern, while its clause depends on the escape character too, and one pattern may come from two
texts with two escape characters. `ConditionQuery.register_likeSearch` is how far the clause behind
a like condition is the one that it asks for: always where it adds or overrides a condition, and
where it is taken for a duplicate exactly if the last writer of the clause had its escape character.
-/

namespace SqlTemplate

open Registration

/-- Like clauses on a column differ in their escape characters. -/
theorem LikeOption.clause_inj {o o' : LikeOption} {column : String} :
    o.clause column = o'.clause column ↔ o.escape = o'.escape := by
  constructor
  · intro h
    have hliteral : o.escapeLiteral = o'.escapeLiteral := (String.append_right_inj _).1 h
    -- A dialect without escapes reads both escape characters from the one literal.
    have hread : ∀ o : LikeOption, ({} : Dialect).IsLiteral (String.singleton o.escape)
        o.escapeLiteral.toList := fun o => isLiteral_escapeLiteral_iff.2 nofun
    have ho := (hread o).reads [] (by simp)
    rw [hliteral, (hread o').reads [] (by simp)] at ho
    have hsingleton := congrArg String.toList (Prod.mk.inj (Option.some.inj ho)).1
    rw [String.toList_singleton, String.toList_singleton] at hsingleton
    exact (List.singleton_inj.1 hsingleton).symm
  · intro h
    rw [clause, clause, escapeLiteral, escapeLiteral, h]

namespace ConditionQuery

variable {d : Dialect} {calls : List Call} {r : Registration} {decision : Decision}
  {q' : ConditionQuery}

/-- A registration is a duplicate exactly if the last writer of its column and kind recorded the
same value. -/
theorem eq_duplicate_iff (h : (run d calls).register r = .ok (decision, q'))
    (hignore : decision ≠ .ignore) (htakes : r.key.takesValue = true) :
    decision = .duplicate ↔ ∃ last, lastOf (writers d calls) r.pair = some last ∧
      last.recordedValue.same r.recordedValue = true := by
  have hsettled := settled_writers d calls
  have hregistered := registered_register (run d calls) r
  rw [h] at hregistered
  -- A repeated call has the value of the last writer; the other kinds of calls have not.
  cases hregistered with
  | ignored => exact absurd rfl hignore
  | repeated hvalue _ hfixed hsame =>
    obtain ⟨last, hlast, hrecorded, -⟩ := hsettled.exists_lastOf hfixed
    refine iff_of_true rfl ⟨last, hlast, ?_⟩
    rw [hrecorded, recordedValue_eq hvalue]
    exact hsame htakes
  | overridden hvalue _ _ hfixed hsame =>
    obtain ⟨last, hlast, hrecorded, -⟩ := hsettled.exists_lastOf hfixed
    refine iff_of_false nofun ?_
    rintro ⟨last', hlast', hsame'⟩
    obtain rfl := Option.some.inj (hlast.symm.trans hlast')
    rw [hrecorded, recordedValue_eq hvalue, hsame] at hsame'
    exact Bool.false_ne_true hsame'
  | added _ _ hfixed =>
    refine iff_of_false nofun ?_
    rintro ⟨last, hlast, -⟩
    rw [hsettled.fixed, hlast] at hfixed
    exact nomatch hfixed

/-- A duplicate leaves the clauses alone. -/
theorem clauses_of_duplicate {q : ConditionQuery} (h : q.register r = .ok (.duplicate, q')) :
    q'.clauses = q.clauses := by
  have hregistered := registered_register q r
  rw [h] at hregistered
  cases hregistered with
  | repeated => rfl

/-- By itself a registration that takes effect has its own clause alone. -/
theorem clauses_after_empty (d : Dialect) (heffect : r.takesEffect = true) :
    (({ dialect := d } : ConditionQuery).after (.register r)).clauses = [r.finalClause d] := by
  obtain ⟨decision, q', h, hignore⟩ := exists_register heffect { dialect := d }
  have hregistered := registered_register { dialect := d } r
  rw [h] at hregistered
  rw [after_register, h]
  cases hregistered with
  | ignored => exact absurd rfl hignore
  | repeated _ _ hfixed | overridden _ _ _ hfixed => exact nomatch hfixed
  | added hvalue => rw [finalClause, recordedValue_eq hvalue]; rfl

/-- A like condition that is neither refused nor ignored has one clause on its column, and this
binds the pattern that the condition would bind by itself. It is taken for a duplicate exactly if
the last writer of the clause had this pattern, and then no clause changes. The clause is the one
that the condition would have by itself, except that a duplicate leaves in it the escape character
of its last writer. -/
theorem register_likeSearch (d : Dialect) (calls : List Call) {r : Registration}
    (hlike : r.key = .likeSearch) {decision : Decision} {q' : ConditionQuery}
    (h : (run d calls).register r = .ok (decision, q')) (hignore : decision ≠ .ignore) :
    ∃ clause alone : Clause,
      (∀ other : Clause, other ∈ q'.clauses ∧ other.pair = r.pair ↔ other = clause) ∧
      (({ dialect := d } : ConditionQuery).after (.register r)).clauses = [alone] ∧
      clause.binds = alone.binds ∧
      (decision = .duplicate ↔ ∃ last, lastOf (writers d calls) r.pair = some last ∧
        last.bound = r.bound) ∧
      (decision ≠ .duplicate → clause = alone) ∧
      (decision = .duplicate → q'.clauses = (run d calls).clauses ∧
        ∀ last, lastOf (writers d calls) r.pair = some last →
          clause.sql = last.like.clause r.column ∧
          (clause = alone ↔ last.like.escape = r.like.escape)) := by
  have heffect := takesEffect_of_register h hignore
  have htakes : r.key.takesValue = true := by rw [hlike]; rfl
  obtain ⟨s, -, hrecorded, hbound, hclause⟩ := exists_text hlike heffect d
  -- The last writer, if there is one, is a like condition on the same column.
  have hwriter : ∀ last, lastOf (writers d calls) r.pair = some last →
      ∃ s', last.bound = [.string (last.like.apply s')] ∧
        last.recordedValue = .string (last.like.apply s') ∧
        last.finalClause d = ⟨r.column, .likeSearch, last.like.clause r.column,
          [r.toBind (.string (last.like.apply s'))]⟩ := by
    intro last hlast
    obtain ⟨hmem, hpair⟩ := mem_of_lastOf hlast
    obtain ⟨hcolumn, hkey⟩ := Prod.mk.inj hpair
    obtain ⟨s', -, hrecorded', hbound', hclause'⟩ :=
      exists_text (hkey.trans hlike) (mem_writers hmem).2 d
    refine ⟨s', hbound', hrecorded', ?_⟩
    rw [hclause', hcolumn, toBind, hcolumn]
    rfl
  have hduplicate : decision = .duplicate ↔ ∃ last,
      lastOf (writers d calls) r.pair = some last ∧ last.bound = r.bound := by
    rw [eq_duplicate_iff h hignore htakes]
    refine exists_congr fun last => and_congr_right fun hlast => ?_
    obtain ⟨s', hbound', hrecorded', -⟩ := hwriter last hlast
    rw [hrecorded, hrecorded', hbound, hbound', List.singleton_inj, Value.string.injEq]
    exact beq_iff_eq
  have halone := clauses_after_empty d heffect
  by_cases hrepeats : decision = .duplicate
  · subst hrepeats
    obtain ⟨last, hlast, hsame⟩ := hduplicate.1 rfl
    obtain ⟨s', hbound', -, hclause'⟩ := hwriter last hlast
    have hpattern : Value.string (last.like.apply s') = .string (r.like.apply s) := by
      rw [hbound, hbound'] at hsame
      exact List.singleton_inj.1 hsame
    rw [hpattern] at hclause'
    have hclauses := clauses_of_duplicate h
    refine ⟨last.finalClause d, r.finalClause d, ?_, halone, ?_, hduplicate,
      fun hnot => absurd rfl hnot, fun _ => ⟨hclauses, ?_⟩⟩
    · intro other
      rw [hclauses]
      exact mem_clauses_iff hlast other
    · rw [hclause, hclause']
    · intro last' hlast'
      obtain rfl := Option.some.inj (hlast.symm.trans hlast')
      rw [hclause, hclause']
      simp only [Clause.mk.injEq, true_and, and_true, LikeOption.clause_inj]
  · exact ⟨r.finalClause d, r.finalClause d, mem_clauses_of_register h hignore hrepeats, halone,
      rfl, hduplicate, fun _ => rfl, fun hrepeat => absurd hrepeat hrepeats⟩

/-- A like condition is taken for a duplicate of one with the same escape character, which has
overridden another, and the clause is the one that it asks for. -/
theorem register_likeSearch_repeated :
    let calls : List Call := [.register ⟨"NAME", .likeSearch, .string "a|", ⟨.startsWith, '!'⟩⟩,
      .register ⟨"NAME", .likeSearch, .string "b", {}⟩,
      .register ⟨"NAME", .likeSearch, .string "a%", {}⟩]
    let r : Registration := ⟨"NAME", .likeSearch, .string "a%", {}⟩
    ∃ q', (run {} calls).register r = .ok (.duplicate, q') ∧
      ∃ clause alone : Clause,
        (∀ other : Clause, other ∈ q'.clauses ∧ other.pair = r.pair ↔ other = clause) ∧
        (({} : ConditionQuery).after (.register r)).clauses = [alone] ∧ clause = alone := by
  intro calls r
  have hdecision : ((run {} calls).register r).toOption.map Prod.fst = some .duplicate := by
    decide +kernel
  obtain ⟨⟨decision, q'⟩, h, rfl⟩ := Outcome.exists_of_toOption_map hdecision
  obtain ⟨clause, alone, hclause, halone, -, hduplicate, -, hsame⟩ :=
    register_likeSearch {} calls (r := r) rfl h nofun
  obtain ⟨last, hlast, -⟩ := hduplicate.1 rfl
  -- The pattern of the first condition is the same, but its escape character is another one.
  have hescape : (lastOf (writers {} calls) r.pair).map (·.like.escape) = some '|' := by
    decide +kernel
  rw [hlast, Option.map_some] at hescape
  exact ⟨q', h, clause, alone, hclause, halone,
    (((hsame rfl).2 last hlast).2).2 (Option.some.inj hescape)⟩

/-- One pattern of two texts: the second condition is taken for a duplicate, and the clause keeps
the escape character of the first, so that it asks for another text. -/
theorem register_likeSearch_other :
    let first : Registration := ⟨"NAME", .likeSearch, .string "a%", {}⟩
    let second : Registration := ⟨"NAME", .likeSearch, .string "a|", ⟨.startsWith, '!'⟩⟩
    first.like.apply "a%" = second.like.apply "a|" ∧
    (((({} : ConditionQuery).after (.register first)).register second).toOption.map
      fun outcome => (outcome.1, outcome.2.clauses.map Clause.sql)) =
        some (.duplicate, ["NAME like ? escape '|'"]) ∧
    (({} : ConditionQuery).after (.register second)).clauses.map Clause.sql =
      ["NAME like ? escape '!'"] := by
  refine ⟨by decide, by decide +kernel, by decide +kernel⟩

end ConditionQuery

end SqlTemplate
