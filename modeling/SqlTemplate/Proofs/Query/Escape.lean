import SqlTemplate.Proofs.Dialect.Literal
import SqlTemplate.Proofs.Query.Writers

/-!
# The escape character of a like clause

A like clause names its escape character in a literal of its own. A quote is doubled there as in
every dialect, and a backslash is written as it is. So the literal is the dialect's own and is read
back as the escape character, save for a backslash where a backslash escapes: there it takes the
closing quote for a part of the string, and the literal is not closed
(`LikeOption.readLiteral?_backslash`). `ConditionQuery.register_escapeLiteral` states this of the
clause that a registration writes.
-/

namespace SqlTemplate

namespace LikeOption

variable {d : Dialect} {o : LikeOption}

/-- The escape character is a backslash, and the dialect escapes with it. -/
def Clashes (d : Dialect) (o : LikeOption) : Prop :=
  d.kind = .mysql ∧ o.escape = '\\'

/-- The literal of the escape character is the dialect's own otherwise. -/
theorem escapeLiteral_eq_quote (h : ¬Clashes d o) :
    o.escapeLiteral = d.quote (String.singleton o.escape) := by
  have hescape : ¬(o.escape = '\\' ∧ d.kind = .mysql) := fun hclash => h hclash.symm
  rw [escapeLiteral, Dialect.quote, String.toList_singleton, List.flatMap_singleton,
    Dialect.escapeChar, if_neg hescape]
  split_ifs with hquote
  · rfl
  · refine String.toList_inj.1 ?_
    simp [Char.toString]

/-- Where a backslash escapes, the literal of a backslash is not closed by its own quote. -/
theorem readLiteral?_backslash (h : Clashes d o) (behind : List Char) :
    d.readLiteral? (o.escapeLiteral.toList ++ behind) =
      (d.literalTail? behind).map
        (Prod.map (fun more => String.ofList ('\'' :: more)) id) := by
  obtain ⟨hkind, hescape⟩ := h
  have hliteral : o.escapeLiteral = "'\\'" := by
    rw [escapeLiteral, hescape]
    rfl
  have htail : d.literalTail? ('\\' :: '\'' :: behind) =
      (d.literalTail? behind).map (Prod.map ('\'' :: ·) id) := by
    rw [Dialect.literalTail?, if_pos hkind]
  rw [hliteral]
  show (d.literalTail? ('\\' :: '\'' :: behind)).map (Prod.map String.ofList id) = _
  rw [htail, Option.map_map]
  rfl

/-- The literal is read back as the escape character exactly if the two do not clash. -/
theorem isLiteral_escapeLiteral_iff :
    d.IsLiteral (String.singleton o.escape) o.escapeLiteral.toList ↔ ¬Clashes d o := by
  constructor
  · intro hliteral hclash
    have hread := hliteral.reads [] (by simp)
    rw [readLiteral?_backslash hclash, Dialect.literalTail?, Option.map_none] at hread
    exact absurd hread.symm (Option.some_ne_none _)
  · intro h
    rw [escapeLiteral_eq_quote h]
    exact Dialect.isLiteral_quote d _

/-- The literal is the dialect's own exactly if the two do not clash. -/
theorem escapeLiteral_eq_quote_iff :
    o.escapeLiteral = d.quote (String.singleton o.escape) ↔ ¬Clashes d o := by
  refine ⟨fun heq => isLiteral_escapeLiteral_iff.1 ?_, escapeLiteral_eq_quote⟩
  rw [heq]
  exact Dialect.isLiteral_quote d _

end LikeOption

/-- A like condition that takes effect is on a text, and its clause binds the pattern of this. -/
theorem Registration.exists_text {r : Registration} (hlike : r.key = .likeSearch)
    (heffect : r.takesEffect = true) (d : Dialect) :
    ∃ s : String, r.value = .string s ∧ r.recordedValue = .string (r.like.apply s) ∧
      r.bound = [.string (r.like.apply s)] ∧
      r.finalClause d = ⟨r.column, .likeSearch, r.like.clause r.column,
        [r.toBind (.string (r.like.apply s))]⟩ := by
  have hclause := isClause_finalClause heffect d
  generalize r.finalClause d = clause at hclause ⊢
  cases hclause with
  | like _ hvalue hrecorded hbound =>
    rw [hlike]
    exact ⟨_, hvalue, hrecorded, hbound, rfl⟩
  | valueless hkey | list hkey =>
    rw [hlike] at hkey
    exact nomatch hkey
  | scalar _ hnot => exact absurd hlike hnot

namespace ConditionQuery

open LikeOption

/-- The clause that a like condition writes binds the pattern of the text and ends with a literal
for the escape character of this pattern. The literal is the dialect's own, and is read back as the
escape character, exactly if the escape character is no backslash that escapes in the dialect. A
backslash that does leaves the literal open: what is read goes on behind the clause and starts with
the quote that was to close it. -/
theorem register_escapeLiteral (d : Dialect) (calls : List Call) {r : Registration}
    (hlike : r.key = .likeSearch) {decision : Decision} {q' : ConditionQuery}
    (h : (run d calls).register r = .ok (decision, q')) (hignore : decision ≠ .ignore)
    (hduplicate : decision ≠ .duplicate) :
    ∃ s literal : String, r.value = .string s ∧
      (∀ clause : Clause, clause ∈ q'.clauses ∧ clause.pair = r.pair ↔
        clause = ⟨r.column, .likeSearch, r.column ++ " like ? escape " ++ literal,
          [r.toBind (.string (r.like.apply s))]⟩) ∧
      (literal = d.quote (String.singleton r.like.escape) ↔ ¬Clashes d r.like) ∧
      (d.IsLiteral (String.singleton r.like.escape) literal.toList ↔ ¬Clashes d r.like) ∧
      (Clashes d r.like → d.readLiteral? literal.toList = none ∧
        ∀ (behind : List Char) (found : String) (rest : List Char),
          d.readLiteral? (literal.toList ++ behind) = some (found, rest) →
            found.toList.head? = some '\'' ∧ rest <:+ behind.tail) := by
  obtain ⟨s, hvalue, -, -, hclause⟩ :=
    Registration.exists_text hlike (takesEffect_of_register h hignore) d
  refine ⟨s, r.like.escapeLiteral, hvalue, fun clause => ?_, escapeLiteral_eq_quote_iff,
    isLiteral_escapeLiteral_iff, fun hclash => ⟨?_, fun behind found rest hread => ?_⟩⟩
  · rw [mem_clauses_of_register h hignore hduplicate, hclause]
    rfl
  · have hread := readLiteral?_backslash hclash []
    rwa [List.append_nil] at hread
  · rw [readLiteral?_backslash hclash] at hread
    obtain ⟨more, htail, rfl⟩ := Dialect.exists_of_map_fst hread
    refine ⟨?_, Dialect.suffix_of_literalTail? htail⟩
    rw [String.toList_ofList]
    rfl

/-- A quote is the escape character, in place of another one. -/
theorem register_escapeLiteral_override :
    let d : Dialect := { kind := .mysql }
    let calls : List Call := [.register ⟨"NAME", .likeSearch, .string "5%", {}⟩]
    let r : Registration := ⟨"NAME", .likeSearch, .string "5%", ⟨.contains, '\''⟩⟩
    ∃ (q' : ConditionQuery) (literal : String),
      (run d calls).register r = .ok (.override 0, q') ∧
      (∀ clause : Clause, clause ∈ q'.clauses ∧ clause.pair = r.pair ↔
        clause = ⟨"NAME", .likeSearch, "NAME like ? escape " ++ literal,
          [r.toBind (.string "%5'%%")]⟩) ∧
      literal = d.quote "'" ∧
      d.readLiteral? (literal.toList ++ " and".toList) = some ("'", " and".toList) := by
  intro d calls r
  have hdecision : ((run d calls).register r).toOption.map Prod.fst = some (.override 0) := by
    decide +kernel
  obtain ⟨⟨decision, q'⟩, h, rfl⟩ := Outcome.exists_of_toOption_map hdecision
  obtain ⟨s, literal, hvalue, hclause, hquote, hliteral, -⟩ :=
    register_escapeLiteral d calls (r := r) rfl h nofun nofun
  obtain rfl : s = "5%" := (Value.string.inj hvalue).symm
  have hpattern : r.like.apply "5%" = "%5'%%" := by decide
  have hclash : ¬Clashes d r.like := fun hclash => absurd hclash.2 (by decide)
  rw [hpattern] at hclause
  exact ⟨q', literal, h, hclause, hquote.2 hclash, (hliteral.2 hclash).reads _ (by decide)⟩

/-- Where a backslash escapes, the literal of a backslash is not the dialect's own, and it is left
open. -/
theorem register_escapeLiteral_backslash :
    let d : Dialect := { kind := .mysql }
    let r : Registration := ⟨"NAME", .likeSearch, .string "5%", ⟨.contains, '\\'⟩⟩
    (((run d []).register r).toOption.map fun outcome =>
      (outcome.1, outcome.2.clauses.map Clause.sql)) =
        some (.emit, ["NAME like ? escape '\\'"]) ∧
    d.quote "\\" = "'\\\\'" ∧ d.readLiteral? "'\\'".toList = none := by
  refine ⟨by decide +kernel, by decide, by decide⟩

end ConditionQuery

end SqlTemplate
