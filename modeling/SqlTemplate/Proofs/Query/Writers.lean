import SqlTemplate.Proofs.Query.Meaning

/-!
# Who wrote the clauses

A registration writes a clause where it adds a condition or overrides one; where it repeats a
condition the clause stays the one of an earlier registration. `writers` lists the registrations
since the last reset that wrote a clause, and the query is settled by them after every run of calls,
whatever its values and its like options are (`settled_writers`): each clause is that of the last
writer of its column and kind (`mem_clauses_iff`).
-/

namespace SqlTemplate

open Registration

/-- A registration stands in the end exactly if it is the last one of its column and kind. -/
theorem Registration.mem_standing_iff {rs : List Registration} {r : Registration} :
    r ∈ standing rs ↔ lastOf rs r.pair = some r := by
  constructor
  · intro h
    obtain ⟨p, -, hp⟩ := List.mem_filterMap.1 h
    rwa [(mem_of_lastOf hp).2]
  · intro h
    exact List.mem_filterMap.2 ⟨r.pair, mem_pairs_of_lastOf h, h⟩

namespace ConditionQuery

/-- The writers of the clauses of a query after a further call, where `rs` are those before it. -/
def writersAfter (q : ConditionQuery) (rs : List Registration) : Call → List Registration
  | .register r =>
    match q.register r with
    | .ok (.emit, _) | .ok (.override _, _) => rs ++ [r]
    | _ => rs
  | .reset => []

/-- The registrations since the last reset that wrote a clause, in their order. -/
def writers (d : Dialect) (calls : List Call) : List Registration :=
  (calls.foldl (fun s call => (s.1.after call, writersAfter s.1 s.2 call))
    (({ dialect := d } : ConditionQuery), [])).2

variable {d : Dialect} {calls : List Call} {r : Registration}

/-- The last call of a run finds the query as the calls before it left it. -/
theorem writers_concat (d : Dialect) (calls : List Call) (call : Call) :
    writers d (calls ++ [call]) = writersAfter (run d calls) (writers d calls) call := by
  have hrun : ∀ calls : List Call, (calls.foldl (fun s call =>
      (s.1.after call, writersAfter s.1 s.2 call)) (({ dialect := d } : ConditionQuery), [])).1 =
        run d calls := by
    intro calls
    induction calls using List.reverseRecOn with
    | nil => rfl
    | append_singleton calls call ih => rw [List.foldl_append, run_concat, ← ih]; rfl
  rw [writers, List.foldl_append, ← hrun calls]
  rfl

/-- A registration writes a clause exactly if it adds or overrides a condition. -/
theorem writersAfter_register {q q' : ConditionQuery} {decision : Decision}
    (h : q.register r = .ok (decision, q')) (rs : List Registration) :
    writersAfter q rs (.register r) =
      if decision = .ignore ∨ decision = .duplicate then rs else rs ++ [r] := by
  rw [writersAfter, h]
  cases decision <;> rfl

/-- A writer was called for and takes effect. -/
theorem mem_writers (h : r ∈ writers d calls) : .register r ∈ calls ∧ r.takesEffect = true := by
  induction calls using List.reverseRecOn with
  | nil => exact absurd h List.not_mem_nil
  | append_singleton calls call ih =>
    rw [writers_concat] at h
    have hbefore : r ∈ writers d calls →
        .register r ∈ calls ++ [call] ∧ r.takesEffect = true :=
      fun hr => ⟨List.mem_append_left _ (ih hr).1, (ih hr).2⟩
    cases call with
    | reset => exact absurd h List.not_mem_nil
    | register r' =>
      -- The further registration is a writer only if it adds or overrides a condition.
      have hfurther : r'.takesEffect = true → r ∈ writers d calls ++ [r'] →
          .register r ∈ calls ++ [.register r'] ∧ r.takesEffect = true := by
        intro heffect hr
        rcases List.mem_append.1 hr with hr | hr
        · exact hbefore hr
        · obtain rfl := List.mem_singleton.1 hr
          exact ⟨List.mem_append_right _ List.mem_cons_self, heffect⟩
      have hregistered := registered_register (run d calls) r'
      rw [writersAfter] at h
      generalize (run d calls).register r' = outcome at hregistered h
      cases hregistered with
      | failed | ignored | repeated => exact hbefore h
      | overridden hvalue _ hignores =>
        exact hfurther (r'.takesEffect_iff.2 ⟨_, hvalue, fun _ => hignores⟩) h
      | added hvalue hignores =>
        exact hfurther (r'.takesEffect_iff.2 ⟨_, hvalue, hignores⟩) h

/-- After a run the query has the conditions of the writers. -/
theorem settled_writers (d : Dialect) (calls : List Call) :
    Settled d (writers d calls) (run d calls) := by
  induction calls using List.reverseRecOn with
  | nil => exact .empty d d
  | append_singleton calls call ih =>
    rw [run_concat, writers_concat]
    cases call with
    | reset => exact .reset _
    | register r =>
      have hdialect := dialect_run d calls
      have hregistered := registered_register (run d calls) r
      rw [after_register, writersAfter]
      -- Each kind of outcome of a registration keeps the record settled.
      generalize (run d calls).register r = outcome at hregistered ⊢
      cases hregistered with
      | failed => exact ih
      | ignored => exact ih.of_eq rfl fun _ => fixed?_ignore
      | repeated => exact ih.of_eq rfl fun _ => fixed?_duplicate
      | overridden hvalue _ _ hfixed => exact ih.override hdialect hvalue hfixed
      | added hvalue _ hfixed => exact ih.emit hdialect hvalue hfixed

/-- The clauses are those of the writers that stand. -/
theorem clauses_run (d : Dialect) (calls : List Call) :
    (run d calls).clauses = (standing (writers d calls)).map (finalClause d) :=
  (settled_writers d calls).clauses_eq

/-- The clause of a column and a kind is that of their last writer. -/
theorem mem_clauses_iff {p : String × ConditionKey} {last : Registration}
    (hlast : lastOf (writers d calls) p = some last) (clause : Clause) :
    clause ∈ (run d calls).clauses ∧ clause.pair = p ↔ clause = last.finalClause d := by
  obtain ⟨-, hpair⟩ := mem_of_lastOf hlast
  rw [clauses_run]
  constructor
  · rintro ⟨hmem, rfl⟩
    obtain ⟨r, hr, rfl⟩ := List.mem_map.1 hmem
    have hsame : lastOf (writers d calls) r.pair = some r := mem_standing_iff.1 hr
    rw [finalClause, pair_clause, hsame] at hlast
    rw [Option.some.inj hlast]
  · rintro rfl
    refine ⟨List.mem_map_of_mem (mem_standing_iff.2 ?_), ?_⟩
    · rw [hpair, hlast]
    · rw [finalClause, pair_clause, hpair]

/-! ## One further registration -/

section Register

variable {q q' : ConditionQuery} {decision : Decision}

/-- A registration that is neither refused nor ignored takes effect. -/
theorem takesEffect_of_register (h : q.register r = .ok (decision, q'))
    (hignore : decision ≠ .ignore) : r.takesEffect = true := by
  by_contra heffect
  rcases (takesEffect_eq_false_iff q r).1 (eq_false_of_ne_true heffect) with ⟨e, he⟩ | ⟨q'', hq''⟩
  · rw [he] at h
    exact nomatch h
  · rw [hq''] at h
    exact hignore (Prod.mk.inj (Except.ok.inj h)).1.symm

/-- A registration that takes effect is neither refused nor ignored. -/
theorem exists_register (heffect : r.takesEffect = true) (q : ConditionQuery) :
    ∃ decision q', q.register r = .ok (decision, q') ∧ decision ≠ .ignore := by
  have hnone := mt (takesEffect_eq_false_iff q r).2 (by rw [heffect]; nofun)
  rw [not_or] at hnone
  cases h : q.register r with
  | error e => exact absurd ⟨e, h⟩ hnone.1
  | ok outcome =>
    refine ⟨outcome.1, outcome.2, rfl, fun hignore => hnone.2 ⟨outcome.2, ?_⟩⟩
    rw [h, ← hignore]

/-- A registration that succeeds is the last call of a longer run. -/
theorem run_concat_of_register (h : (run d calls).register r = .ok (decision, q')) :
    run d (calls ++ [.register r]) = q' := by
  rw [run_concat, after_register, h]

/-- A registration that adds or overrides a condition is the last writer of its column and kind. -/
theorem lastOf_writers_concat (h : (run d calls).register r = .ok (decision, q'))
    (hignore : decision ≠ .ignore) (hduplicate : decision ≠ .duplicate) :
    lastOf (writers d (calls ++ [.register r])) r.pair = some r := by
  rw [writers_concat, writersAfter_register h, if_neg (not_or.2 ⟨hignore, hduplicate⟩),
    lastOf_concat, Function.update_self]

/-- The clause of its column and kind is then its own. -/
theorem mem_clauses_of_register (h : (run d calls).register r = .ok (decision, q'))
    (hignore : decision ≠ .ignore) (hduplicate : decision ≠ .duplicate) (clause : Clause) :
    clause ∈ q'.clauses ∧ clause.pair = r.pair ↔ clause = r.finalClause d := by
  rw [← run_concat_of_register h]
  exact mem_clauses_iff (lastOf_writers_concat h hignore hduplicate) clause

end Register

end ConditionQuery

end SqlTemplate
