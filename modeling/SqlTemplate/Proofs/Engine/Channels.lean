import SqlTemplate.Proofs.Dialect.Inlining
import SqlTemplate.Proofs.Dialect.Literal
import SqlTemplate.Proofs.Engine.TestValues

/-!
# Embedded and bound

A variable in quotes may be embedded or bound, and its value is then written by two different parts
of the program: as text, or as placeholders whose binds may be inlined for display.
`Session.rendered_channels` compares the two for null, for a string and for a list of strings and
nulls: they fail together, and what is embedded is what the binds show with the word null in quotes
for each null among them. So both show the same exactly if no element of a list is null.

A template that is one variable has one token (`Token.ofText_variableText`) and one node. What this
node writes is compared for any buffer (`Variable.agree_channels`), and for a null element the two
texts differ by the two quotes around its word (`Dialect.length_intercalate_spelled`).
-/

namespace SqlTemplate

open Outcome (Agree)

namespace Value

/-- The value, with the word null for null. -/
def spelled : Value → Value
  | .null => .string Value.null.display
  | value => value

/-- What a test value in quotes asks for: null, and a string or a list of strings and nulls. -/
inductive TextOf : (inList : Bool) → Value → Prop
  /-- Null, whatever the form. -/
  | null (inList : Bool) : TextOf inList .null
  /-- A string for a string. -/
  | string (s : String) : TextOf false (.string s)
  /-- A list of strings and nulls for a list. -/
  | list {items : List Value} (h : ∀ item ∈ items, TextOf false item) : TextOf true (.list items)

/-- Outside a list the value is neither a list nor an object. -/
theorem TextOf.isCompound_eq_false {value : Value} (h : TextOf false value) :
    value.isCompound = false := by
  cases h <;> rfl

end Value

/-- The statement, with the word null for each bound null. -/
def Statement.spelled (s : Statement) : Statement :=
  { s with binds := s.binds.map fun bind => { bind with value := bind.value.spelled } }

/-- The values of a statement are spelled one by one. -/
theorem Statement.values_spelled (s : Statement) :
    s.spelled.values = s.values.map Value.spelled := by
  rw [spelled, values, values, List.map_map, List.map_map]
  rfl

/-- The empty text changes nothing. -/
theorem Buffer.push_empty (b : Buffer) : b.push "" = b := by
  rw [push, String.append_empty]

/-- What is embedded reads as the value with the word null for each null, and what is bound as the
value. -/
def Buffer.BothShow (d : Dialect) (b : Buffer) (value : Value) (embedded bound : Buffer) : Prop :=
  embedded = b.push (d.shown Value.spelled value) ∧ ∀ f, b.Shows d f bound (d.shown f value)

/-! ## The two texts -/

namespace Dialect

variable {d : Dialect}

/-- The word null has two quotes more than null, and nothing else changes. -/
theorem length_literal_spelled (d : Dialect) (value : Value) :
    (d.literal value.spelled).length =
      (d.literal value).length + if value.isNull then 2 else 0 := by
  cases value with
  | null =>
    show (d.quote "null").length = ("null" : String).length + 2
    have hquote : d.quote "null" = "'null'" := by simp [quote, escapeChar]
    rw [hquote]
    decide
  | _ => exact (Nat.add_zero _).symm

/-- In a list there are two quotes more for each null. -/
theorem length_intercalate_spelled (d : Dialect) (items : List Value) :
    (", ".intercalate (items.map fun item => d.literal item.spelled)).length =
      (", ".intercalate (items.map d.literal)).length + 2 * items.countP Value.isNull := by
  -- On the elements; each null is longer by two quotes.
  induction items with
  | nil => rfl
  | cons item rest ih =>
    have hitem := d.length_literal_spelled item
    rw [List.countP_cons]
    cases rest with
    | nil =>
      rw [List.map_singleton, List.map_singleton, String.intercalate_singleton,
        String.intercalate_singleton, hitem]
      simp
    | cons next rest =>
      simp only [List.map_cons, String.intercalate_cons_cons, String.length_append] at ih ⊢
      rw [hitem, ih]
      split <;> omega

/-- The two texts are the same exactly if no element of a list is null. -/
theorem shown_spelled_eq_iff {inList : Bool} {value : Value} (h : value.TextOf inList) :
    d.shown Value.spelled value = d.shown id value ↔
      ∀ items, value = .list items → Value.null ∉ items := by
  cases h with
  | null | string => exact ⟨fun _ => nofun, fun _ => rfl⟩
  | @list items _ =>
    -- With a null in the list the texts differ in length, and without one in no element.
    have hlength : (", ".intercalate (items.map fun item => d.literal item.spelled)).length =
        (", ".intercalate (items.map fun item => d.literal (id item))).length +
          2 * items.countP Value.isNull := d.length_intercalate_spelled items
    have hnone : (∀ others, Value.list items = .list others → Value.null ∉ others) ↔
        items.countP Value.isNull = 0 := by
      rw [List.countP_eq_zero]
      constructor
      · rintro h item hitem hnull
        cases item with
        | null => exact h items rfl hitem
        | _ => exact absurd hnull Bool.false_ne_true
      · rintro h _ ⟨⟩ hmem
        exact h _ hmem rfl
    rw [hnone]
    constructor
    · intro h
      by_cases hempty : items = []
      · rw [hempty, List.countP_nil]
      · rw [shown_list hempty, shown_list hempty] at h
        have h := congrArg String.length h
        simp only [String.length_append] at h
        omega
    · intro h
      rw [List.countP_eq_zero] at h
      by_cases hempty : items = []
      · rw [hempty]
        rfl
      · have hsame : ∀ item ∈ items, d.literal item.spelled = d.literal (id item) := by
          intro item hitem
          cases item with
          | null => exact absurd rfl (h _ hitem)
          | _ => rfl
        rw [shown_list hempty, shown_list hempty, List.map_congr_left hsame]

end Dialect

namespace Variable

variable {v : Variable} {d : Dialect} {value : Value} {items : List Value}

/-- In quotes, null and a string are embedded as what they show with the word null. -/
theorem embeddedText_of_textOf (hquoted : v.test.quoted = true) (h : value.TextOf false) :
    v.embeddedText d value = .ok (d.literal value.spelled) := by
  cases h with
  | null | string => exact if_pos hquoted

/-- So are the elements of a list. -/
theorem mapM_embeddedText_of_textOf (hquoted : v.test.quoted = true)
    (h : ∀ item ∈ items, item.TextOf false) :
    items.mapM (v.embeddedText d) = .ok (items.map fun item => d.literal item.spelled) := by
  induction items with
  | nil => rfl
  | cons item rest ih =>
    rw [List.forall_mem_cons] at h
    rw [List.mapM_cons, embeddedText_of_textOf hquoted h.1, ih h.2]
    rfl

/-- Elements that are no compounds can be bound. -/
theorem exists_pushItems (h : ∀ item ∈ items, item.isCompound = false) (index : Nat) (b : Buffer) :
    ∃ b', v.pushItems d index items b = .ok b' := by
  induction items generalizing index b with
  | nil => exact ⟨b, rfl⟩
  | cons item rest ih =>
    rw [List.forall_mem_cons] at h
    obtain ⟨b', hrest⟩ := ih h.2 (index + 1) _
    exact ⟨b', pushItems_cons_eq_ok.2 ⟨h.1, hrest⟩⟩

/-- Embedded and bound, a list in quotes fails with the same fault or is shown by both. -/
theorem agree_channels_list (hquoted : v.test.quoted = true) (hlist : v.test.inList = true)
    (hitems : ∀ item ∈ items, item.TextOf false) (expand : String → Step) (b : Buffer) :
    Agree RenderError.kind (b.BothShow d (.list items)) (v.pushEmbedded d expand (.list items) b)
      (v.pushBound d (.list items) b) := by
  have hdemand : v.demand (.list items) = .ok (.items items) := by
    unfold demand
    rw [hlist]
  -- Both refuse the same sizes, write an empty list alike, and go through the elements.
  cases hsize : v.checkSize d items.length with
  | error e =>
    simp only [pushEmbedded, pushBound, hdemand, Outcome.ok_bind, hsize]
    exact .error rfl
  | ok =>
    by_cases hempty : items = []
    · subst hempty
      have hbound : v.pushBound d (.list []) b = .ok (b.push "(null)") := by
        simp only [pushBound, hdemand, Outcome.ok_bind, hsize]
        rfl
      have hembedded : v.pushEmbedded d expand (.list []) b = .ok (b.push "(null)") := by
        simp only [pushEmbedded, hdemand, Outcome.ok_bind, hsize]
        rfl
      rw [hembedded, hbound]
      exact .ok ⟨rfl, fun f => shows_of_pushBound hbound⟩
    · have hnonempty : ¬ items.isEmpty = true := by rwa [List.isEmpty_iff]
      obtain ⟨inner, hinner⟩ := v.exists_pushItems (d := d)
        (fun item hitem => (hitems item hitem).isCompound_eq_false) 0 (b.push "(")
      have hbound : v.pushBound d (.list items) b = .ok (inner.push ")") := by
        simp only [pushBound, hdemand, Outcome.ok_bind, hsize, if_neg hnonempty, hinner]
        rfl
      have hembedded : v.pushEmbedded d expand (.list items) b =
          .ok (b.push (d.shown Value.spelled (.list items))) := by
        simp only [pushEmbedded, hdemand, Outcome.ok_bind, hsize, if_neg hnonempty,
          mapM_embeddedText_of_textOf hquoted hitems, Dialect.shown_list hempty]
        rfl
      rw [hembedded, hbound]
      exact .ok ⟨rfl, fun f => shows_of_pushBound hbound⟩

/-- So is every value that a test value in quotes asks for. -/
theorem agree_channels (hquoted : v.test.quoted = true) (h : value.TextOf v.test.inList)
    (expand : String → Step) (b : Buffer) :
    Agree RenderError.kind (b.BothShow d value) (v.pushEmbedded d expand value b)
      (v.pushBound d value b) := by
  generalize hlist : v.test.inList = inList at h
  cases h with
  | list hitems => exact agree_channels_list hquoted hlist hitems expand b
  | string s =>
    have hdemand : v.demand (.string s) = .ok (.scalar (.string s)) := by
      unfold demand
      rw [hlist]
    have hbound : v.pushBound d (.string s) b = .ok (b.pushBind d (v.toBind (.string s))) := by
      rw [pushBound, hdemand]
      rfl
    rw [pushEmbedded_string hquoted hlist, hbound]
    exact .ok ⟨rfl, fun f => shows_of_pushBound hbound⟩
  -- Null is refused by both, or writes nothing in both.
  | null =>
    cases hdemand : v.demand .null with
    | error e =>
      rw [pushEmbedded, pushBound, hdemand]
      exact .error rfl
    | ok demanded =>
      obtain rfl : demanded = .nothing := by
        rcases demand_eq_ok hdemand with ⟨-, -, h⟩ | ⟨hnull, -⟩ | ⟨_, hvalue, -⟩
        · exact h
        · exact absurd hnull (by decide)
        · cases hvalue
      have hbound : v.pushBound d .null b = .ok b := by
        rw [pushBound, hdemand]
        rfl
      have hembedded : v.pushEmbedded d expand .null b = .ok (b.push "") := by
        rw [Buffer.push_empty, pushEmbedded, hdemand]
        rfl
      rw [hembedded, hbound]
      exact .ok ⟨rfl, fun f => shows_of_pushBound hbound⟩

end Variable

/-! ## A template that is one variable -/

namespace Template

/-- A comment that holds neither slashes nor stars nor quotes ends where it is closed. -/
theorem commentBody?_of_forall_ne {body : List Char} (h : ∀ c ∈ body, c ≠ '/' ∧ c ≠ '*' ∧ c ≠ '\'')
    (withStrings : Bool) (rest : List Char) :
    commentBody? withStrings 0 (body ++ '*' :: '/' :: rest) = some (body, rest) := by
  induction body with
  | nil => rw [List.nil_append, commentBody?]
  | cons c body ih =>
    obtain ⟨⟨hslash, hstar, hquote⟩, hbody⟩ := List.forall_mem_cons.1 h
    rw [List.cons_append, commentBody?, if_neg (by simp [hquote]), ih hbody]
    · rfl
    · exact fun _ hc => absurd hc hslash
    · exact fun _ hc => absurd hc hstar

end Template

namespace Directive

/-- A variable with a dollar sign before it is embedded. -/
theorem classify?_embedded {path : List Char} (h : isVariable path = true) :
    classify? ('$' :: path) = some (.reference true path) := by
  simp [classify?, keyword?, withPayload?, payload?, reference?, h]

/-- The characters of a variable open and close neither comments nor strings. -/
theorem forall_ne_of_isVariable {path : List Char} (h : isVariable path = true) :
    ∀ c ∈ path, c ≠ '/' ∧ c ≠ '*' ∧ c ≠ '\'' := by
  intro c hc
  have hallowed := forall_of_isVariable h c hc
  refine ⟨?_, ?_, ?_⟩ <;> rintro rfl <;> exact absurd hallowed (by decide)

end Directive

namespace Token

open Directive

variable {expression value : String} {test : TestValue}

/-- The only token of a text that is one variable. -/
theorem ofText_variableText
    (hvariable : classify? expression.toList = some (.reference false expression.toList))
    (htest : TestValue.read? value.toList = some (test, [])) (embedded : Bool) :
    ofText (variableText embedded expression value) =
      .ok [⟨Piece.variableKind embedded expression test, 0⟩] := by
  obtain ⟨hpath, -⟩ := eq_of_classify?_reference hvariable
  let body := if embedded then '$' :: expression.toList else expression.toList
  have hclassify : classify? body = some (.reference embedded expression.toList) := by
    cases embedded with
    | false => exact hvariable
    | true => exact classify?_embedded hpath
  -- Nothing in the comment could end it early or open another one.
  have hbody : ∀ c ∈ body, c ≠ '/' ∧ c ≠ '*' ∧ c ≠ '\'' := by
    cases embedded with
    | false => exact forall_ne_of_isVariable hpath
    | true => exact List.forall_mem_cons.2 ⟨by decide, forall_ne_of_isVariable hpath⟩
  have hfirst : Piece.first (variableText embedded expression value).toList =
      .stretch (some (Piece.variableKind embedded expression test))
        (comment body ++ test.text.toList) [] := by
    rw [toList_variableText, variableComment,
      Piece.first_comment (Template.commentBody?_of_forall_ne hbody _ value.toList) Iff.rfl,
      Piece.ofComment, hclassify]
    dsimp only
    rw [htest, String.ofList_toList]
  rw [ofText, scan_eq, hfirst, scanPiece]
  dsimp only
  rw [scan_eq]
  rfl

end Token

/-- The tree of such a text is the one variable. -/
theorem Template.parse_variableText {expression value : String} {test : TestValue} {path : Path}
    (hvariable : Directive.classify? expression.toList =
      some (.reference false expression.toList))
    (htest : TestValue.read? value.toList = some (test, []))
    (hpath : Path.parse? expression = some path) (embedded nullDisallowed : Bool) :
    parse nullDisallowed (Token.variableText embedded expression value) =
      .ok ⟨[if embedded then .embedded ⟨path, test, nullDisallowed⟩
        else .bind ⟨path, test, nullDisallowed⟩]⟩ := by
  rw [parse_eq_ofTokens (Token.ofText_variableText hvariable htest embedded), ofTokens,
    Builder.acceptAll]
  have hreference : Builder.reference { nullDisallowed } expression test 0 =
      .ok ⟨path, test, nullDisallowed⟩ := by
    rw [Builder.reference, Builder.path, hpath]
    rfl
  -- Either notation makes one node of the one token.
  cases embedded with
  | true =>
    show (((Builder.reference _ expression test 0).map _).bind _).bind _ = _
    rw [hreference]
    rfl
  | false =>
    show (((Builder.reference _ expression test 0).map _).bind _).bind _ = _
    rw [hreference]
    rfl

/-- A template of one node is rendered by walking this node. -/
theorem Template.evaluate_singleton (node : Node) (d : Dialect) (rootAlias : String)
    (parameters : Parameters) :
    evaluate ⟨[node]⟩ d rootAlias parameters =
      (node.walk d (expansion d maxDepth) ⟨rootAlias, parameters, []⟩ {}).map
        Buffer.toStatement := by
  rw [evaluate, Node.walkAll_singleton]
  cases node.walk d (expansion d maxDepth) ⟨rootAlias, parameters, []⟩ {} <;> rfl

namespace Session

open Directive (classify?)

variable {config : Config} {expression value : String} {test : TestValue} {path : Path}
  {parameters : Parameters} {v : Value}

/-- A variable in quotes that is null, a string or a list of strings and nulls is rendered embedded
and bound: both fail with faults of one kind, or the embedded text is the bound statement inlined
with the word null for each bound null. It is the bound statement as it is inlined exactly if no
element of the list is null, since inlining writes null without quotes. -/
theorem rendered_channels
    (hvariable : classify? expression.toList = some (.reference false expression.toList))
    (hpath : Path.parse? expression = some path)
    (htest : TestValue.read? value.toList = some (test, [])) (hquoted : test.quoted = true)
    (hvalue : Scope.resolve ⟨config.rootAlias, parameters, []⟩ path = .ok v)
    (htext : v.TextOf test.inList) (calls calls' : List Engine.Call) :
    Agree RenderError.kind
      (fun embedded bound : Statement => embedded.binds = [] ∧
        embedded.sql = config.toDialect.inline bound.spelled ∧
        (embedded.sql = config.toDialect.inline bound ↔
          ∀ items, v = .list items → Value.null ∉ items))
      (rendered config calls (Token.variableText true expression value) parameters)
      (rendered config calls' (Token.variableText false expression value) parameters) := by
  let s : Scope := ⟨config.rootAlias, parameters, []⟩
  let d := config.toDialect
  let x : Variable := ⟨path, test, config.nullPolicy == .reject⟩
  have hparse := fun embedded => Template.parse_variableText hvariable htest hpath embedded
    (config.nullPolicy == .reject)
  -- The two templates are one node each, so that their walks are single steps.
  have hwalk : Agree RenderError.kind (Buffer.BothShow d {} v)
      ((Node.embedded x).walk d (expansion d maxDepth) s {})
      ((Node.bind x).walk d (expansion d maxDepth) s {}) := by
    rw [Node.walk, Node.walk, Scope.valueOf_eq_ok.2 hvalue]
    exact x.agree_channels hquoted htext _ {}
  rw [rendered_eq, rendered_eq, hparse true, hparse false]
  show Agree _ _ (Template.evaluate ⟨[.embedded x]⟩ d config.rootAlias parameters)
    (Template.evaluate ⟨[.bind x]⟩ d config.rootAlias parameters)
  rw [Template.evaluate_singleton, Template.evaluate_singleton]
  refine hwalk.map fun {embedded bound} h => ?_
  obtain ⟨rfl, hshows⟩ := h
  -- What the bound variable shows inlined is what the embedded one writes.
  have hspelled : d.inline bound.toStatement.spelled = d.shown Value.spelled v := by
    rw [← (hshows Value.spelled).inline_eq, Dialect.inline, Statement.values_spelled]
    rfl
  have hplain : d.inline bound.toStatement = d.shown id v := by
    rw [← (hshows id).inline_eq, Dialect.inline, List.map_id]
  have hsql : (Buffer.push {} (d.shown Value.spelled v)).toStatement.sql =
      d.shown Value.spelled v := String.empty_append
  exact ⟨rfl, hsql.trans hspelled.symm, by rw [hsql, hplain, Dialect.shown_spelled_eq_iff htext]⟩

/-- A list of two, of which one holds quotes and a placeholder and the other is null. -/
theorem rendered_channels_list :
    let config : Config := { dialect := .postgres, nullPolicy := .reject, inListLimit := some 2 }
    let v : Value := .list [.string "it's $2", .null]
    let parameters : Parameters := { properties := [("x", v)] }
    Scope.resolve ⟨config.rootAlias, parameters, []⟩ ⟨"x", []⟩ = .ok v ∧ v.TextOf true ∧
      ∀ calls calls', Agree RenderError.kind
        (fun embedded bound : Statement => embedded.binds = [] ∧
          embedded.sql = config.toDialect.inline bound.spelled ∧
          (embedded.sql = config.toDialect.inline bound ↔
            ∀ items, v = .list items → Value.null ∉ items))
        (rendered config calls (Token.variableText true "x" "('a', 'b')") parameters)
        (rendered config calls' (Token.variableText false "x" "('a', 'b')") parameters) := by
  intro config v parameters
  have hvalue : Scope.resolve ⟨config.rootAlias, parameters, []⟩ ⟨"x", []⟩ = .ok v := rfl
  have htext : v.TextOf true :=
    .list (List.forall_mem_cons.2 ⟨.string _, List.forall_mem_singleton.2 (.null false)⟩)
  have htest : TestValue.read? "('a', 'b')".toList = some (⟨"('a', 'b')", true, true⟩, []) := by
    decide +kernel
  exact ⟨hvalue, htext, rendered_channels (by decide) (by decide) htest rfl hvalue htext⟩

/-- The null of a list is embedded in quotes and bound without. -/
theorem rendered_channels_null :
    let parameters : Parameters := { properties := [("x", .list [.string "a", .null])] }
    ∃ embedded bound : Statement,
      rendered {} [] (Token.variableText true "x" "('a')") parameters = .ok embedded ∧
      rendered {} [] (Token.variableText false "x" "('a')") parameters = .ok bound ∧
      embedded.sql = "('a', 'null')" ∧ Dialect.inline {} bound = "('a', null)" ∧
      embedded.sql ≠ Dialect.inline {} bound := by
  intro parameters
  have htest : TestValue.read? "('a')".toList = some (⟨"('a')", true, true⟩, []) := by
    decide +kernel
  have hpath : Path.parse? "x" = some ⟨"x", []⟩ := by decide
  have hparse := fun embedded =>
    Template.parse_variableText (by decide) htest hpath embedded false
  -- The embedded null is a quoted word, the bound one is a bare word.
  refine ⟨⟨"('a', 'null')", []⟩, ⟨"(?, ?)", [.ofValue (.string "a") "x", .ofValue .null "x"]⟩,
    ?_, ?_, rfl, rfl, by decide⟩
  · rw [rendered_eq]
    show ((Template.parse false _).mapError RenderError.parse >>= _) = _
    rw [hparse]
    rfl
  · rw [rendered_eq]
    show ((Template.parse false _).mapError RenderError.parse >>= _) = _
    rw [hparse]
    rfl

end Session

end SqlTemplate
