import SqlTemplate.Proofs.Engine.Session
import SqlTemplate.Proofs.Render.Placeholders

/-!
# Counting the placeholders of a rendered text

A text without question marks that embeds no value is rendered with as many placeholders as binds,
for every dialect whose placeholder is a question mark (`Session.countPlaceholders_rendered`). This
asks three things of the text, none of which follows from the others
(`Session.countPlaceholders_rendered_ne`): the connectors end outside strings and comments, no
comment opens in the statement between two texts of the template, and no comment that stays in the
SQL has another one inside, since the reading nests comments and the count does not.
-/

namespace SqlTemplate.Session

/-- A rendered text has a placeholder for each bind. -/
theorem countPlaceholders_rendered {config : Config} {calls : List Engine.Call} {text : String}
    {parameters : Parameters} {t : Template} {statement : Statement}
    (hdialect : config.dialect ≠ .postgres) (hquestion : '?' ∉ text.toList)
    (hparse : Template.parse (config.nullPolicy == .reject) text = .ok t)
    (hembeds : t.embeds = false)
    (hrendered : rendered config calls text parameters = .ok statement)
    (hinner : ∀ body ∈ Token.comments text.toList, Variable.holdsComment body = false)
    (hconnectors : ∀ connector ∈ t.connectors,
      (Mode.code.after connector.toList).isOutside = true)
    (hseam : ¬Mode.code.HasSeam (t.fragments config.rootAlias parameters)) :
    Statement.countPlaceholders statement.sql = statement.binds.length := by
  have hevaluate : t.evaluate config.toDialect config.rootAlias parameters = .ok statement := by
    rw [rendered_eq, hparse] at hrendered
    exact hrendered
  have harranged := Template.arranged_of_parse hparse hquestion hembeds hinner hconnectors
  exact Template.countPlaceholders_of_arranged hdialect hembeds harranged hevaluate hseam

/-- A text is rendered if it is parsed and evaluated. -/
theorem exists_rendered (calls : List Engine.Call) (text : String) (parameters : Parameters)
    (P : Template → Statement → Prop) [∀ t statement, Decidable (P t statement)]
    (h : ((Template.parse false text).toOption.bind fun t =>
      (t.evaluate {} "pmb" parameters).toOption.map fun statement => decide (P t statement)) =
        some true) :
    ∃ t statement, Template.parse false text = .ok t ∧
      rendered {} calls text parameters = .ok statement ∧ P t statement := by
  obtain ⟨t, hparse, h⟩ := Option.bind_eq_some_iff.1 h
  obtain ⟨statement, hevaluate, hP⟩ := Outcome.exists_of_toOption_map h
  have hparse : Template.parse false text = .ok t := by
    cases houtcome : Template.parse false text with
    | error e => simp [houtcome, Except.toOption] at hparse
    | ok t' => simpa [houtcome, Except.toOption] using hparse
  refine ⟨t, statement, hparse, ?_, of_decide_eq_true hP⟩
  rw [rendered_eq]
  show (Template.parse false text).mapError RenderError.parse >>= _ = _
  rw [hparse]
  exact hevaluate

/-- Quotes in comments, a separating line that separates nothing, a scope that loses its "and",
and dashes that are no comments between the binds of a loop. -/
theorem countPlaceholders_rendered_quotes :
    let text := "select * /* don't */ from t -- it's\n/*BEGIN*/where /*a*/0 and (/*FOR ids*/" ++
      "/*NEXT ' or '*/id -/*#current*/'1'-/*#current*/1/*END*/)/*END*/ -- ELSE\n -- don't"
    let ids : Value := .list [.integer 1, .integer 2]
    let parameters : Parameters := { properties := [("a", .null), ("ids", ids)] }
    let sql := "select * /* don't */ from t -- it's\n" ++
      "where (id -?-? or id -?-?) -- ELSE\n -- don't"
    ∃ statement : Statement, rendered {} [.clear] text parameters = .ok statement ∧
      statement.sql = sql ∧
      Statement.countPlaceholders statement.sql = statement.binds.length := by
  intro text ids parameters sql
  obtain ⟨t, statement, hparse, hrendered, hsql, hembeds, hconnectors, hseam⟩ :=
    exists_rendered [.clear] text parameters (fun t statement =>
      statement.sql = sql ∧ t.embeds = false ∧
        (∀ connector ∈ t.connectors, (Mode.code.after connector.toList).isOutside = true) ∧
        ¬Mode.code.HasSeam (t.fragments "pmb" parameters)) (by decide +kernel)
  have hdialect : ({} : Config).dialect ≠ .postgres := by decide
  have hquestion : '?' ∉ text.toList := by decide +kernel
  have hinner : ∀ body ∈ Token.comments text.toList, Variable.holdsComment body = false := by
    decide +kernel
  exact ⟨statement, hrendered, hsql, countPlaceholders_rendered hdialect hquestion hparse hembeds
    hrendered hinner hconnectors hseam⟩

/-- Each of the three conditions is needed, whatever else holds of the text: a placeholder behind an
inner comment with a quote, one behind a connector with a quote, and one behind two dashes that come
together is not counted. -/
theorem countPlaceholders_rendered_ne :
    let nested := "/* a /* b */ ' */ id = /*x*/1"
    let quoting := "id in (0/*FOR x*//*NEXT ' '' '*/, /*#current*/1/*END*/)"
    let meeting := "a = -/*y*/(1)-/*x*/1"
    let one : Parameters := { properties := [("x", .integer 1)] }
    let list : Parameters := { properties := [("x", .list [.integer 1, .integer 2])] }
    let pair : Parameters := { properties := [("x", .integer 1), ("y", .null)] }
    ('?' ∉ nested.toList ∧ ∃ (t : Template) (statement : Statement),
      Template.parse false nested = .ok t ∧
      rendered {} [] nested one = .ok statement ∧
      statement.sql = "/* a /* b */ ' */ id = ?" ∧ t.embeds = false ∧
      (∀ connector ∈ t.connectors, (Mode.code.after connector.toList).isOutside = true) ∧
      ¬Mode.code.HasSeam (t.fragments "pmb" one) ∧
      statement.binds.length = 1 ∧ Statement.countPlaceholders statement.sql = 0) ∧
    ('?' ∉ quoting.toList ∧ ∃ (t : Template) (statement : Statement),
      Template.parse false quoting = .ok t ∧
      rendered {} [] quoting list = .ok statement ∧
      statement.sql = "id in (0, ? ' , ?)" ∧ t.embeds = false ∧
      (∀ body ∈ Token.comments quoting.toList, Variable.holdsComment body = false) ∧
      ¬Mode.code.HasSeam (t.fragments "pmb" list) ∧
      statement.binds.length = 2 ∧ Statement.countPlaceholders statement.sql = 1) ∧
    ('?' ∉ meeting.toList ∧ ∃ (t : Template) (statement : Statement),
      Template.parse false meeting = .ok t ∧
      rendered {} [] meeting pair = .ok statement ∧
      statement.sql = "a = --?" ∧ t.embeds = false ∧
      (∀ body ∈ Token.comments meeting.toList, Variable.holdsComment body = false) ∧
      (∀ connector ∈ t.connectors, (Mode.code.after connector.toList).isOutside = true) ∧
      statement.binds.length = 1 ∧ Statement.countPlaceholders statement.sql = 0) := by
  intro nested quoting meeting one list pair
  refine ⟨⟨by decide, ?_⟩, ⟨by decide +kernel, ?_⟩, ⟨by decide, ?_⟩⟩
  · exact exists_rendered [] nested _ _ (by decide +kernel)
  · exact exists_rendered [] quoting _ _ (by decide +kernel)
  · exact exists_rendered [] meeting _ _ (by decide +kernel)

end SqlTemplate.Session
