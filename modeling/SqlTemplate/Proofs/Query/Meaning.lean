import Mathlib.Data.List.Nodup
import SqlTemplate.Proofs.Query.History
import SqlTemplate.Proofs.Query.Rendering
import SqlTemplate.Proofs.Value.Same

/-!
# The meaning of a run of calls

What a query comes to after a run of calls depends on the registrations since the last reset that
take effect: each column and kind of condition has one condition, in the place of its first
registration and with the value of its last one. `toStatement_run` states this of the statement of
the query, text and binds.

`Settled` compares a query with such a list of registrations. Registering one more either adds its
column and kind at the end or gives the condition there another last registration
(`lastOf_concat`), which is what the query does to its clauses and to its recorded conditions
(`Settled.register`).
-/

namespace SqlTemplate

/-! ## The registrations that count -/

/-- The registrations since the last reset that take effect, in their order. -/
def ConditionQuery.effective (calls : List ConditionQuery.Call) : List Registration :=
  calls.foldl (fun kept call =>
    match call with
    | .register r => if r.takesEffect then kept ++ [r] else kept
    | .reset => []) []

namespace Registration

/-- The columns and kinds that are registered, each once and in the order of their first
registrations. -/
def pairs (rs : List Registration) : List (String × ConditionKey) :=
  (rs.map pair).eraseDups

/-- The last registration of a column and a kind. -/
def lastOf (rs : List Registration) (p : String × ConditionKey) : Option Registration :=
  rs.reverse.find? fun r => r.pair == p

/-- The registrations that stand in the end: the last one of each column and kind, in the order of
the first ones. -/
def standing (rs : List Registration) : List Registration :=
  (pairs rs).filterMap (lastOf rs)

/-- The conditions one after the other, with placeholders counted on from `position`. -/
def renderedAll (d : Dialect) : Nat → List Registration → List String
  | _, [] => []
  | position, r :: rest => r.rendered d position :: renderedAll d (position + r.bound.length) rest

/-- The binds of a registration: each of its values with the type of this value, from its column. -/
def binds (r : Registration) : List Bind :=
  r.bound.map fun value =>
    { value, sqlType := SqlType.ofValue value, source := some r.column }

/-- The statement that registrations mean: the conditions that stand in the end, of which all must
hold. Without registrations it is empty. -/
def meaning (d : Dialect) (rs : List Registration) : Statement :=
  if rs.isEmpty then ⟨"", []⟩
  else ⟨"where " ++ " and ".intercalate (renderedAll d 1 (standing rs)),
    (standing rs).flatMap binds⟩

variable {rs : List Registration} {r : Registration} {p : String × ConditionKey}

/-- A column and a kind are registered if some registration is theirs. -/
theorem mem_pairs : p ∈ pairs rs ↔ ∃ r ∈ rs, r.pair = p := by
  rw [pairs, List.mem_eraseDups, List.mem_map]

/-- A further registration of a column and a kind adds nothing, and one of others comes last. -/
theorem pairs_concat (rs : List Registration) (r : Registration) :
    pairs (rs ++ [r]) = if r.pair ∈ pairs rs then pairs rs else pairs rs ++ [r.pair] := by
  have hmem : r.pair ∈ pairs rs ↔ r.pair ∈ rs.map pair := List.mem_eraseDups
  rw [pairs, List.map_append, List.map_singleton, List.eraseDups_append, List.cons_removeAll,
    List.nil_removeAll, List.contains_eq_mem]
  by_cases h : r.pair ∈ rs.map pair
  · rw [if_pos (hmem.2 h), if_neg (ne_false_of_eq_true (decide_eq_true h)), List.eraseDups_nil,
      List.append_nil]
    rfl
  · rw [if_neg (mt hmem.1 h), if_pos (decide_eq_false h)]
    rfl

/-- No column and kind stands twice. -/
theorem nodup_pairs (rs : List Registration) : (pairs rs).Nodup := by
  -- Registration by registration, the last one at the end.
  induction rs using List.reverseRecOn with
  | nil => exact List.nodup_nil
  | append_singleton rs r ih =>
    rw [pairs_concat]
    split
    · exact ih
    · next h =>
      rw [← List.concat_eq_append]
      exact ih.concat h

/-- A further registration is the last one of its column and kind. -/
theorem lastOf_concat (rs : List Registration) (r : Registration) :
    lastOf (rs ++ [r]) = Function.update (lastOf rs) r.pair (some r) := by
  funext p
  rw [lastOf, List.reverse_append, List.reverse_singleton, List.singleton_append, List.find?_cons]
  by_cases h : p = r.pair
  · rw [h, Function.update_self, beq_self_eq_true]
  · rw [Function.update_of_ne h, beq_false_of_ne (Ne.symm h), lastOf]

/-- The last registration of a column and a kind is one of theirs. -/
theorem mem_of_lastOf (h : lastOf rs p = some r) : r ∈ rs ∧ r.pair = p := by
  have hpair : (r.pair == p) = true := List.find?_some (p := fun r : Registration => r.pair == p) h
  exact ⟨List.mem_reverse.1 (List.mem_of_find?_eq_some h), eq_of_beq hpair⟩

/-- What has a last registration is registered. -/
theorem mem_pairs_of_lastOf (h : lastOf rs p = some r) : p ∈ pairs rs :=
  mem_pairs.2 ⟨r, mem_of_lastOf h⟩

/-- A registration that stands is one of the given ones. -/
theorem mem_of_mem_standing (h : r ∈ standing rs) : r ∈ rs := by
  obtain ⟨p, -, hp⟩ := List.mem_filterMap.1 h
  exact (mem_of_lastOf hp).1

/-- There is a last registration of what is registered only. -/
theorem lastOf_eq_none : lastOf rs p = none ↔ p ∉ pairs rs := by
  rw [lastOf, List.find?_eq_none, mem_pairs]
  simp only [List.mem_reverse, beq_iff_eq, not_exists, not_and]

/-- Something stands in the end exactly if something was registered. -/
theorem isEmpty_standing (rs : List Registration) : (standing rs).isEmpty = rs.isEmpty := by
  cases rs with
  | nil => rfl
  | cons r rest =>
    have hmem : r.pair ∈ pairs (r :: rest) := mem_pairs.2 ⟨r, List.mem_cons_self, rfl⟩
    obtain ⟨last, hlast⟩ := Option.ne_none_iff_exists'.1 (mt lastOf_eq_none.1 (not_not.2 hmem))
    have hstands : last ∈ standing (r :: rest) := List.mem_filterMap.2 ⟨r.pair, hmem, hlast⟩
    exact List.isEmpty_eq_false_iff_exists_mem.2 ⟨last, hstands⟩

end Registration

open Registration

namespace ConditionQuery

/-! ## Queries and their registrations -/

/-- The query has the clauses and the recorded conditions of these registrations. -/
structure Settled (d : Dialect) (rs : List Registration) (q : ConditionQuery) : Prop where
  /-- The clauses are those of the last registrations, in the order of the first ones. -/
  clauses : q.clauses.map some = (pairs rs).map fun p => (lastOf rs p).map (finalClause d)
  /-- The recorded value is that of the last registration, and the place that of the first one. -/
  fixed : ∀ p, q.fixed? p =
    (lastOf rs p).map fun r => ⟨r.recordedValue, (pairs rs).idxOf p⟩

namespace Settled

variable {d : Dialect} {rs : List Registration} {q : ConditionQuery} {r : Registration}

/-- There are as many clauses as columns and kinds. -/
theorem length_clauses (h : Settled d rs q) : q.clauses.length = (pairs rs).length := by
  have hlength := congrArg List.length h.clauses
  rwa [List.length_map, List.length_map] at hlength

/-- A query without registrations has no clauses. -/
theorem empty (d d' : Dialect) : Settled d [] { dialect := d' } :=
  ⟨rfl, fun _ => rfl⟩

/-- What is carried over to the clause, or to the record, of a last registration is carried over to
that of the further one. -/
theorem map_lastOf_concat {α : Type} (f : String × ConditionKey → Registration → α)
    (rs : List Registration) (r : Registration) :
    (fun p => (lastOf (rs ++ [r]) p).map (f p)) =
      Function.update (fun p => (lastOf rs p).map (f p)) r.pair (some (f r.pair r)) := by
  funext p
  rw [lastOf_concat]
  by_cases h : p = r.pair
  · rw [h, Function.update_self, Function.update_self, Option.map_some]
  · rw [Function.update_of_ne h, Function.update_of_ne h]

/-- What leaves the clauses and the recorded conditions alone leaves them settled. -/
theorem of_eq (h : Settled d rs q) {q' : ConditionQuery} (hclauses : q'.clauses = q.clauses)
    (hfixed : ∀ p, q'.fixed? p = q.fixed? p) : Settled d rs q' :=
  ⟨hclauses ▸ h.clauses, fun p => (hfixed p).trans (h.fixed p)⟩

/-- What is recorded comes from a last registration. -/
theorem exists_lastOf (h : Settled d rs q) {fixed : FixedCondition}
    (hfixed : q.fixed? r.pair = some fixed) :
    ∃ last, lastOf rs r.pair = some last ∧ last.recordedValue = fixed.value ∧
      fixed.location = (pairs rs).idxOf r.pair := by
  rw [h.fixed] at hfixed
  obtain ⟨last, hlast, rfl⟩ := Option.map_eq_some_iff.1 hfixed
  exact ⟨last, hlast, rfl, rfl⟩

/-- A condition that is added comes last. -/
theorem emit (h : Settled d rs q) (hdialect : q.dialect = d) {value : Value}
    (hvalue : r.boundValue = .ok value) (hfixed : q.fixed? r.pair = none) :
    Settled d (rs ++ [r]) (q.carryOut r value .emit) := by
  have hnone : lastOf rs r.pair = none := by
    rw [h.fixed] at hfixed
    exact Option.map_eq_none_iff.1 hfixed
  have hmem : r.pair ∉ pairs rs := lastOf_eq_none.1 hnone
  have hpairs : pairs (rs ++ [r]) = pairs rs ++ [r.pair] := by
    rw [pairs_concat, if_neg hmem]
  refine ⟨?_, ?_⟩
  -- No other last registration changes, and the further one has the clause that is added.
  · show (q.clauses ++ [r.clause q.dialect.inListLimit value]).map some = _
    rw [hpairs, map_lastOf_concat (fun _ => finalClause d), List.map_append, List.map_append,
      h.clauses, List.map_singleton, List.map_singleton, Function.update_self, hdialect,
      finalClause, recordedValue_eq hvalue]
    congr 1
    refine List.map_congr_left fun p hp => ?_
    rw [Function.update_of_ne (ne_of_mem_of_not_mem hp hmem)]
  · intro p
    rw [fixed?_emit, hpairs, lastOf_concat]
    split_ifs with hp
    · rw [hp, Function.update_self, Option.map_some, recordedValue_eq hvalue, h.length_clauses,
        List.idxOf_append_of_notMem hmem, List.idxOf_cons_self, Nat.add_zero]
    · rw [Function.update_of_ne hp, h.fixed]
      by_cases hmem' : p ∈ pairs rs
      · rw [List.idxOf_append_of_mem hmem']
      · rw [lastOf_eq_none.2 hmem']
        rfl

/-- A condition that is overridden keeps its place. -/
theorem override (h : Settled d rs q) (hdialect : q.dialect = d) {value : Value}
    {fixed : FixedCondition} (hvalue : r.boundValue = .ok value)
    (hfixed : q.fixed? r.pair = some fixed) :
    Settled d (rs ++ [r]) (q.carryOut r value (.override fixed.location)) := by
  obtain ⟨last, hlast, -, hlocation⟩ := h.exists_lastOf hfixed
  have hmem := mem_pairs_of_lastOf hlast
  have hpairs : pairs (rs ++ [r]) = pairs rs := by
    rw [pairs_concat, if_pos hmem]
  refine ⟨?_, ?_⟩
  -- The clause is rewritten at the place of its pair, which occurs once.
  · show (q.clauses.set fixed.location (r.clause q.dialect.inListLimit value)).map some = _
    rw [hpairs, map_lastOf_concat (fun _ => finalClause d), (nodup_pairs rs).map_update,
      if_pos hmem, List.map_set, h.clauses, hlocation, hdialect, finalClause,
      recordedValue_eq hvalue, lawful_beq_subsingleton instBEqOfDecidableEq instBEqProd]
  · intro p
    rw [fixed?_override, hpairs, lastOf_concat]
    split_ifs with hp
    · rw [hp, Function.update_self, hfixed, Option.map_some, Option.map_some, hlocation,
        recordedValue_eq hvalue]
    · rw [Function.update_of_ne hp, h.fixed]

/-- A registration that changes neither the clauses nor the records settles them no less, if its
clause and its value are those that are there. -/
theorem duplicate (h : Settled d rs q) {q' : ConditionQuery} {last : Registration}
    (hclauses : q'.clauses = q.clauses) (hrecords : ∀ p, q'.fixed? p = q.fixed? p)
    (hlast : lastOf rs r.pair = some last) (hvalue : r.recordedValue = last.recordedValue)
    (hclause : finalClause d r = finalClause d last) : Settled d (rs ++ [r]) q' := by
  have hpairs : pairs (rs ++ [r]) = pairs rs := by
    rw [pairs_concat, if_pos (mem_pairs_of_lastOf hlast)]
  refine ⟨?_, ?_⟩
  · rw [hclauses, hpairs, map_lastOf_concat (fun _ => finalClause d), h.clauses, hclause]
    -- The further registration has the clause of the one before it.
    rw [Function.update_eq_self_iff.2]
    rw [hlast, Option.map_some]
  · intro p
    rw [hrecords, h.fixed, hpairs, lastOf_concat]
    by_cases hp : p = r.pair
    · rw [hp, Function.update_self, hlast, Option.map_some, Option.map_some, hvalue]
    · rw [Function.update_of_ne hp]

/-- Forgetting every condition forgets every registration. -/
theorem reset (q : ConditionQuery) : Settled d [] q.reset :=
  empty d q.dialect

end Settled

/-! ## One further registration -/

/-- A registration takes no effect exactly if it fails or is ignored. -/
theorem takesEffect_eq_false_iff (q : ConditionQuery) (r : Registration) :
    r.takesEffect = false ↔
      (∃ e, q.register r = .error e) ∨ ∃ q', q.register r = .ok (.ignore, q') := by
  have hregistered := registered_register q r
  generalize q.register r = outcome at hregistered ⊢
  rw [← Bool.not_eq_true, r.takesEffect_iff]
  cases hregistered with
  | failed hvalue => simp [hvalue]
  | ignored hvalue htakes hignores => simp [hvalue, htakes, hignores]
  | repeated hvalue hignores => simpa [hvalue] using hignores
  | overridden hvalue _ hignores => simp [hvalue, hignores]
  | added hvalue hignores => simpa [hvalue] using hignores

/-- A registration without effect changes neither the clauses nor the recorded conditions. -/
theorem after_of_takesEffect_eq_false {r : Registration} (h : r.takesEffect = false)
    (q : ConditionQuery) :
    (q.after (.register r)).clauses = q.clauses ∧
    ∀ p, (q.after (.register r)).fixed? p = q.fixed? p := by
  rw [after_register]
  rcases (takesEffect_eq_false_iff q r).1 h with ⟨e, he⟩ | ⟨q', hq'⟩
  · rw [he]
    exact ⟨rfl, fun _ => rfl⟩
  · have hregistered := registered_register q r
    rw [hq'] at hregistered ⊢
    cases hregistered with
    | ignored => exact ⟨rfl, fun _ => fixed?_ignore⟩

end ConditionQuery

namespace Registration

/-- The clause depends on the registration by its column and its kind, and by the escape character
where it is a like condition. -/
theorem clause_congr {r r' : Registration} (hpair : r.pair = r'.pair)
    (hescape : r.key = .likeSearch → r.like.escape = r'.like.escape) (limit : Option Nat)
    (value : Value) : r.clause limit value = r'.clause limit value := by
  obtain ⟨column, key, given, like⟩ := r
  obtain ⟨column', key', given', like'⟩ := r'
  simp only [pair, Prod.mk.injEq] at hpair
  obtain ⟨rfl, rfl⟩ := hpair
  cases key with
  | likeSearch =>
    have hliteral : like.escapeLiteral = like'.escapeLiteral := by
      rw [LikeOption.escapeLiteral, LikeOption.escapeLiteral, hescape rfl]
    simp only [clause, LikeOption.clause, hliteral]
    rfl
  | _ => cases value <;> rfl

/-- The recorded value holds no decimal if the registered one holds none. -/
theorem decimalFree_recordedValue {r : Registration} (h : r.value.decimalFree = true) :
    r.recordedValue.decimalFree = true := by
  obtain ⟨column, key, value, like⟩ := r
  cases key with
  | isNull | isNotNull => rfl
  | likeSearch => cases value <;> rfl
  | inScope | notInScope => cases value <;> first | rfl | exact h
  | _ => cases value <;> first | rfl | exact h

/-- A condition that takes no value records none. -/
theorem recordedValue_of_takesValue {r : Registration} (h : r.key.takesValue = false) :
    r.recordedValue = .null := by
  obtain ⟨column, key, value, like⟩ := r
  cases key <;> first | rfl | exact absurd h Bool.false_ne_true.symm

end Registration

namespace ConditionQuery

/-- A registration that takes effect settles the query one further. -/
theorem Settled.register {d : Dialect} {rs : List Registration} {q : ConditionQuery}
    {r : Registration} (h : Settled d rs q) (hdialect : q.dialect = d)
    (heffect : r.takesEffect = true)
    (hfree : ∀ last ∈ rs, last.value.decimalFree = true)
    (hescape : ∀ last ∈ rs, last.pair = r.pair → r.key = .likeSearch →
      last.like.escape = r.like.escape) :
    Settled d (rs ++ [r]) (q.after (.register r)) := by
  obtain ⟨value, hvalue, hignores⟩ := r.takesEffect_iff.1 heffect
  have hregistered := registered_register q r
  rw [after_register]
  generalize q.register r = outcome at hregistered ⊢
  -- It neither fails nor is ignored; the three other cases are those of the lemmas above.
  cases hregistered with
  | failed hvalue' =>
    rw [hvalue] at hvalue'
    exact absurd hvalue' (by simp)
  | ignored hvalue' htakes hignored =>
    rw [hvalue] at hvalue'
    obtain rfl := Except.ok.inj hvalue'
    rw [hignores htakes] at hignored
    exact absurd hignored Bool.false_ne_true
  | repeated hvalue' _ hfixed hsame =>
    obtain ⟨last, hlast, hrecorded, -⟩ := h.exists_lastOf hfixed
    obtain ⟨hmem, hpair⟩ := mem_of_lastOf hlast
    have hkey : last.key = r.key := congrArg Prod.snd hpair
    -- The repeated value is the recorded one, since neither holds a decimal.
    have hrepeated : r.recordedValue = last.recordedValue := by
      cases htakes : r.key.takesValue with
      | false =>
        rw [recordedValue_of_takesValue htakes, recordedValue_of_takesValue (hkey ▸ htakes)]
      | true =>
        have hequal := hsame htakes
        rw [← hrecorded, ← recordedValue_eq hvalue'] at hequal
        exact (Value.eq_of_same _ _ (decimalFree_recordedValue (hfree last hmem)) hequal).symm
    refine h.duplicate rfl (fun _ => fixed?_duplicate) hlast hrepeated ?_
    rw [finalClause, finalClause, hrepeated]
    exact clause_congr hpair.symm (fun hlike => (hescape last hmem hpair hlike).symm) _ _
  | overridden hvalue' _ _ hfixed => exact h.override hdialect hvalue' hfixed
  | added hvalue' _ hfixed => exact h.emit hdialect hvalue' hfixed

/-! ## Whole runs -/

/-- One more registration counts if it takes effect. -/
theorem effective_concat_register (calls : List Call) (r : Registration) :
    effective (calls ++ [.register r]) =
      if r.takesEffect then effective calls ++ [r] else effective calls := by
  rw [effective, List.foldl_append]
  rfl

/-- A registration that counts was called for and takes effect. -/
theorem mem_effective {calls : List Call} {r : Registration} (h : r ∈ effective calls) :
    .register r ∈ calls ∧ r.takesEffect = true := by
  induction calls using List.reverseRecOn with
  | nil => exact absurd h List.not_mem_nil
  | append_singleton calls call ih =>
    cases call with
    | reset =>
      -- Nothing is left of what a reset has cleared.
      rw [effective, List.foldl_append] at h
      exact absurd h List.not_mem_nil
    | register r' =>
      rw [effective_concat_register] at h
      split_ifs at h with heffect
      · rcases List.mem_append.1 h with h | h
        · exact ⟨List.mem_append_left _ (ih h).1, (ih h).2⟩
        · obtain rfl := List.mem_singleton.1 h
          exact ⟨List.mem_append_right _ (List.mem_singleton_self _), heffect⟩
      · exact ⟨List.mem_append_left _ (ih h).1, (ih h).2⟩

/-- After a run the query has the conditions of the registrations that count. -/
theorem Settled.run (d : Dialect) {calls : List Call}
    (hvalues : ∀ r, .register r ∈ calls → r.value.decimalFree = true)
    (hescapes : ∀ r r', .register r ∈ calls → .register r' ∈ calls → r.key = .likeSearch →
      r'.key = .likeSearch → r.column = r'.column → r.like.escape = r'.like.escape) :
    Settled d (effective calls) (run d calls) := by
  induction calls using List.reverseRecOn with
  | nil => exact .empty d d
  | append_singleton calls call ih =>
    have hbefore : ∀ {r}, .register r ∈ calls → .register r ∈ calls ++ [call] :=
      fun h => List.mem_append_left _ h
    have hsettled := ih (fun r h => hvalues r (hbefore h))
      fun r r' h h' => hescapes r r' (hbefore h) (hbefore h')
    rw [run_concat]
    cases call with
    | reset =>
      rw [effective, List.foldl_append]
      exact .reset _
    | register r =>
      rw [effective_concat_register]
      split_ifs with heffect
      -- The earlier writer of the pair is a call of the run, so what is asked of calls holds of it.
      · refine hsettled.register (dialect_run d calls) heffect ?_ ?_
        · intro last hlast
          exact hvalues last (hbefore (mem_effective hlast).1)
        · intro last hlast hpair hlike
          have hcalled : Call.register r ∈ calls ++ [.register r] :=
            List.mem_append_right _ (List.mem_singleton_self _)
          have hkey : last.key = r.key := congrArg Prod.snd hpair
          have hcolumn : last.column = r.column := congrArg Prod.fst hpair
          exact hescapes last r (hbefore (mem_effective hlast).1) hcalled (hkey.trans hlike) hlike
            hcolumn
      · obtain ⟨hclauses, hfixed⟩ := after_of_takesEffect_eq_false (eq_false_of_ne_true heffect)
          (ConditionQuery.run d calls)
        exact hsettled.of_eq hclauses hfixed

/-- The clauses of a query are those of the registrations that stand. -/
theorem Settled.clauses_eq {d : Dialect} {rs : List Registration} {q : ConditionQuery}
    (h : Settled d rs q) : q.clauses = (standing rs).map (finalClause d) := by
  calc q.clauses
    _ = (q.clauses.map some).filterMap id := by
      rw [List.filterMap_map]
      exact List.filterMap_some.symm
    _ = (pairs rs).filterMap fun p => (lastOf rs p).map (finalClause d) := by
      rw [h.clauses, List.filterMap_map]
      rfl
    _ = (standing rs).map (finalClause d) := by rw [standing, List.map_filterMap]

/-- The clauses of registrations become the rendered conditions. -/
theorem numberClauses_map {d : Dialect} {position : Nat} {rs : List Registration}
    (h : ∀ r ∈ rs, r.takesEffect = true ∧ '?' ∉ r.column.toList) :
    numberClauses d position (rs.map (finalClause d)) =
      (renderedAll d position rs, rs.flatMap binds) := by
  induction rs generalizing position with
  | nil => rfl
  | cons r rest ih =>
    obtain ⟨heffect, hcolumn⟩ := h r List.mem_cons_self
    have hbinds : (finalClause d r).binds = r.binds := binds_finalClause heffect d
    have hlength : r.binds.length = r.bound.length := List.length_map _
    have hmarks := numberMarks_finalClause heffect (fun _ => hcolumn) d position
    have hrest : numberClauses d (position + r.bound.length) _ = _ :=
      ih fun r' hr' => h r' (List.mem_cons_of_mem _ hr')
    rw [List.map_cons, numberClauses, hmarks]
    dsimp only
    rw [hbinds, hlength, hrest, String.ofList_toList]
    rfl

/-- The statement after a run has one condition for each column and kind that a registration since
the last reset put a condition on, in the order of the first such registrations. It is rendered from
the last one, its placeholders go on from those before it, and its values are bound in this order.
A registration that fails or is ignored takes no effect, and changes neither the clauses nor the
recorded conditions. -/
theorem toStatement_run (d : Dialect) {calls : List Call}
    (hcolumns : ∀ r, .register r ∈ calls → '?' ∉ r.column.toList)
    (hvalues : ∀ r, .register r ∈ calls → r.value.decimalFree = true)
    (hescapes : ∀ r r', .register r ∈ calls → .register r' ∈ calls → r.key = .likeSearch →
      r'.key = .likeSearch → r.column = r'.column → r.like.escape = r'.like.escape) :
    (run d calls).toStatement = meaning d (effective calls) ∧
    ∀ (q : ConditionQuery) (r : Registration),
      (r.takesEffect = false ↔
        (∃ e, q.register r = .error e) ∨ ∃ q', q.register r = .ok (.ignore, q')) ∧
      (r.takesEffect = false →
        (q.after (.register r)).clauses = q.clauses ∧
        ∀ p, (q.after (.register r)).fixed? p = q.fixed? p) := by
  refine ⟨?_, fun q r => ⟨takesEffect_eq_false_iff q r, fun h =>
    after_of_takesEffect_eq_false h q⟩⟩
  have hclauses := (Settled.run d hvalues hescapes).clauses_eq
  have hstanding : ∀ r ∈ standing (effective calls),
      r.takesEffect = true ∧ '?' ∉ r.column.toList := by
    intro r hr
    obtain ⟨hcalled, heffect⟩ := mem_effective (mem_of_mem_standing hr)
    exact ⟨heffect, hcolumns r hcalled⟩
  unfold toStatement meaning
  rw [hclauses, List.isEmpty_map, isEmpty_standing, dialect_run, numberClauses_map hstanding]

/-- A condition is overridden by a shorter list in its own place, and the one behind it is numbered
anew; a value that is null and a list for a scalar change nothing. The binds are the element of the
shorter list and the pattern. -/
theorem toStatement_run_overridden :
    let one : Value := .integer 1
    let two : Value := .integer 2
    let d : Dialect := { kind := .postgres }
    let calls : List Call :=
      [.register ⟨"X", .equal, one, {}⟩, .reset, .register ⟨"A", .inScope, .list [one, two], {}⟩,
        .register ⟨"B", .likeSearch, .string "x%", {}⟩, .register ⟨"A", .equal, .null, {}⟩,
        .register ⟨"A", .inScope, .list [two], {}⟩, .register ⟨"B", .equal, .list [one], {}⟩,
        .register ⟨"B", .likeSearch, .string "x%", {}⟩]
    (run d calls).toStatement = meaning d (effective calls) ∧
    (run d calls).toStatement.sql = "where A in ($1) and B like $2 escape '|'" ∧
    (run d calls).toStatement.binds =
      [⟨two, .numeric, some "A"⟩, ⟨.string "x|%", .string, some "B"⟩] := by
  intro one two d calls
  have hcalls : ∀ {r}, .register r ∈ calls →
      '?' ∉ r.column.toList ∧ r.value.decimalFree = true ∧ r.like.escape = '|' := by
    intro r h
    simp only [calls, List.mem_cons, Call.register.injEq, reduceCtorEq, List.not_mem_nil, or_false,
      false_or] at h
    rcases h with rfl | rfl | rfl | rfl | rfl | rfl | rfl <;>
      exact ⟨by decide, rfl, rfl⟩
  have hmeaning : (run d calls).toStatement = meaning d (effective calls) := by
    refine (toStatement_run d ?_ ?_ ?_).1
    · exact fun r h => (hcalls h).1
    · exact fun r h => (hcalls h).2.1
    · intro r r' h h' _ _ _
      exact (hcalls h).2.2.trans (hcalls h').2.2.symm
  refine ⟨hmeaning, by decide +kernel, ?_⟩
  rw [hmeaning]
  rfl

end ConditionQuery

end SqlTemplate
