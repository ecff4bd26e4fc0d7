import SqlTemplate.Proofs.Render.Embedded
import SqlTemplate.Proofs.Render.Steps
import SqlTemplate.Proofs.Template.Texts

/-!
# The binds of a template and their placeholders

`Template.binds` collects the binds of a template by a walk that knows of values only: it writes no
text, counts no placeholder and prunes no scope. The main statement, `evaluate_woven`, is that a
statement has exactly these binds, in this order, and one placeholder for each of them, numbered
from 1 without a gap, wherever neither the template's own texts nor the strings of the parameter
object hold the mark of a placeholder.

The proof goes from the buffer up. `Buffer.Extends` says that a step has added binds together with
their placeholders; steps compose (`Extends.trans`), and a pruned scope adds what its own buffer
holds (`Extends.mergePruned`). One lemma each shows it for a bound variable, an embedded one and a
loop, and `extends_of_walk` puts them together over the tree. Templates in embedded values are then
taken one level at a time (`extends_expansion`).
-/

namespace SqlTemplate

/-! ## The walk that knows of values only -/

/-- The binds of a value at a variable: one for each element of a list, none for null, and one for
every other value. Each has the type of its own value and comes from the path of the variable. -/
def Variable.bindsOf (v : Variable) : Value → List Bind
  | .null => []
  | .list items => items.map fun item =>
    { value := item, sqlType := SqlType.ofValue item, source := some v.path.text }
  | value => [{ value, sqlType := SqlType.ofValue value, source := some v.path.text }]

/-- The binds of a value that is a template of its own, by the variable that embeds it and in the
scope of that variable. -/
abbrev BindExpansion := Variable → Scope → String → List Bind

mutual

/-- The binds of a part of a template in a scope; a part with a fault has none. -/
def Node.binds (expand : BindExpansion) (s : Scope) : Node → List Bind
  | .literal _ | .connector _ => []
  | .bind v =>
    match s.resolve v.path with
    | .ok value => v.bindsOf value
    | .error _ => []
  | .embedded v =>
    match s.resolve v.path with
    | .ok value =>
      match v.dynamicText? value with
      | some text => expand v s text
      | none => []
    | .error _ => []
  | .branch condition _ yes no =>
    match s.holds condition with
    | .ok true => bindsOfAll expand s yes
    | .ok false => bindsOfAll expand s no
    | .error _ => []
  | .scope children => bindsOfAll expand s children
  | .loop path children =>
    match s.resolve path with
    | .ok (.list items) =>
      (LoopFrame.ofItems items).flatMap fun frame => bindsOfAll expand (s.enter frame) children
    | _ => []
  | .first children =>
    if s.current?.any LoopFrame.isFirst then bindsOfAll expand s children else []
  | .last children =>
    if s.current?.any LoopFrame.isLast then bindsOfAll expand s children else []

/-- The binds of parts of a template, one after the other. -/
def Node.bindsOfAll (expand : BindExpansion) (s : Scope) : List Node → List Bind
  | [] => []
  | node :: rest => node.binds expand s ++ bindsOfAll expand s rest

end

/-- The binds of a value that is a template of its own, where `room` levels of such templates are
left. -/
def bindExpansion : Nat → BindExpansion
  | 0, _, _, _ => []
  | room + 1, v, s, text =>
    match Template.parse v.nullDisallowed text with
    | .ok t => Node.bindsOfAll (bindExpansion room) s t.nodes
    | .error _ => []

/-- The binds of a template for a parameter object that is reached under an alias. -/
def Template.binds (t : Template) (rootAlias : String) (parameters : Parameters) : List Bind :=
  Node.bindsOfAll (bindExpansion maxDepth) ⟨rootAlias, parameters, []⟩ t.nodes

/-! ## What a step adds to a buffer -/

/-- A step has added these binds, none of them a list or an object, with their placeholders. -/
structure Buffer.Extends (d : Dialect) (b b' : Buffer) (added : List Bind) : Prop where
  /-- The buffers around it are the same. -/
  base : b'.base = b.base
  /-- The binds come behind those that were there. -/
  binds : b'.binds = b.binds ++ added
  /-- So does the text, woven with their placeholders. -/
  sql : ∃ text : String, b'.sql = b.sql ++ text ∧ Woven d (b.position + 1) added.length text.toList
  /-- Each value is a scalar or null. -/
  scalar : ∀ bind ∈ added, bind.value.isCompound = false

namespace Buffer.Extends

variable {d : Dialect} {b b₁ b₂ : Buffer} {added added₁ added₂ : List Bind}

/-- The placeholders are counted on by the number of binds. -/
theorem position (h : Extends d b b₁ added) : b₁.position = b.position + added.length := by
  rw [Buffer.position, Buffer.position, h.base, h.binds, List.length_append, Nat.add_assoc]

/-- A step that does nothing adds nothing. -/
theorem refl (d : Dialect) (b : Buffer) : Extends d b b [] := by
  refine ⟨rfl, (List.append_nil _).symm, ⟨"", ?_, .text ?_⟩, ?_⟩
  · rw [String.append_empty]
  · exact List.not_mem_nil
  · intro bind hbind
    exact absurd hbind List.not_mem_nil

/-- Steps one after the other. -/
theorem trans (h₁ : Extends d b b₁ added₁) (h₂ : Extends d b₁ b₂ added₂) :
    Extends d b b₂ (added₁ ++ added₂) := by
  obtain ⟨text₁, hsql₁, hwoven₁⟩ := h₁.sql
  obtain ⟨text₂, hsql₂, hwoven₂⟩ := h₂.sql
  refine ⟨h₂.base.trans h₁.base, ?_, ⟨text₁ ++ text₂, ?_, ?_⟩, ?_⟩
  · rw [h₂.binds, h₁.binds, List.append_assoc]
  · rw [hsql₂, hsql₁, String.append_assoc]
  · rw [List.length_append, String.toList_append]
    rw [h₁.position, Nat.add_right_comm] at hwoven₂
    exact hwoven₁.append hwoven₂
  · exact List.forall_mem_append.2 ⟨h₁.scalar, h₂.scalar⟩

/-- A text without the mark adds no bind. -/
theorem push (b : Buffer) {text : String} (h : d.marker ∉ text.toList) :
    Extends d b (b.push text) [] :=
  ⟨rfl, (List.append_nil _).symm, ⟨text, rfl, .text h⟩, fun _ hbind =>
    absurd hbind List.not_mem_nil⟩

/-- A bind of a scalar comes with its placeholder. -/
theorem pushBind (b : Buffer) {bind : Bind} (h : bind.value.isCompound = false) :
    Extends d b (b.pushBind d bind) [bind] := by
  refine ⟨rfl, rfl, ⟨d.placeholder (b.position + 1), rfl, Woven.placeholder d _⟩, ?_⟩
  intro other hother
  rw [List.mem_singleton.1 hother]
  exact h

/-- A pruned scope adds what its own buffer holds: one that vanishes holds no bind. -/
theorem mergePruned {child : Buffer} (h : Extends d b.fork child added) :
    Extends d b (b.mergePruned child) added := by
  obtain ⟨text, hsql, hwoven⟩ := h.sql
  have hchild : child.sql = text := hsql.trans (String.empty_append ..)
  have hbinds : child.binds = added := h.binds.trans (List.nil_append _)
  -- The inner buffer counts on from the outer one, so its text fits in as it is numbered.
  rw [Buffer.position_fork] at hwoven
  unfold Buffer.mergePruned
  split
  · next out hprune =>
    rw [hchild] at hprune
    exact ⟨rfl, by rw [Buffer.merge, hbinds], ⟨out, rfl, hwoven.of_prune hprune⟩, h.scalar⟩
  · next hprune =>
    -- The buffer is dropped with its binds, of which there are none.
    rw [hchild] at hprune
    have hcount := hwoven.eq_zero_of_prune_eq_none hprune
    have hnone : added = [] := List.eq_nil_of_length_eq_zero hcount
    rw [hnone]
    exact refl d b

end Buffer.Extends

/-! ## One variable -/

open Dialect

namespace Variable

variable {v : Variable} {d : Dialect} {b b' : Buffer}

/-- An in-list adds a bind for each element. -/
theorem extends_of_pushItems {index : Nat} {items : List Value}
    (h : v.pushItems d index items b = .ok b') : b.Extends d b' (items.map v.toBind) := by
  -- On the elements; the buffer is the one that those before have been written into.
  induction items generalizing index b with
  | nil =>
    obtain rfl := Except.ok.inj h
    exact .refl d b
  | cons item rest ih =>
    unfold pushItems at h
    split_ifs at h with hcompound hindex
    · have hitem := eq_false_of_ne_true hcompound
      exact (Buffer.Extends.pushBind b hitem).trans (ih h)
    · have hitem := eq_false_of_ne_true hcompound
      have hcomma : b.Extends d (b.push ", ") [] := .push b (marker_notMem (by decide))
      exact (hcomma.trans (.pushBind _ hitem)).trans (ih h)

/-- A scalar has one bind. -/
theorem bindsOf_scalar {value : Value} (hnull : value.isNull = false)
    (hcompound : value.isCompound = false) : v.bindsOf value = [v.toBind value] := by
  cases value with
  | null => simp [Value.isNull] at hnull
  | list items => simp [Value.isCompound] at hcompound
  | _ => rfl

/-- A variable that is bound adds its binds. -/
theorem extends_of_pushBound {value : Value} (h : v.pushBound d value b = .ok b') :
    b.Extends d b' (v.bindsOf value) := by
  rcases pushBound_eq_ok h with ⟨rfl, rfl⟩ | ⟨hnull, hcompound, rfl⟩ | ⟨rfl, rfl⟩ |
    ⟨items, inner, rfl, -, -, hitems, rfl⟩
  · exact .refl d b'
  · rw [bindsOf_scalar hnull hcompound]
    exact .pushBind b hcompound
  · exact .push b (marker_notMem (by decide))
  · have hopen : b.Extends d (b.push "(") [] := .push b (marker_notMem (by decide))
    have hclose : inner.Extends d (inner.push ")") [] := .push inner (marker_notMem (by decide))
    have hall := (hopen.trans (extends_of_pushItems hitems)).trans hclose
    rwa [List.nil_append, List.append_nil] at hall

/-- A variable that is embedded adds the binds of its value where that is a template, and none where
it is not. -/
theorem extends_of_pushEmbedded {value : Value} {expand : String → Step}
    {expandBinds : String → List Bind}
    (hstrings : ∀ s ∈ value.strings, d.marker ∉ s.toList)
    (hexpand : ∀ text ∈ value.strings, ∀ {b b' : Buffer}, expand text b = .ok b' →
      b.Extends d b' (expandBinds text))
    (h : v.pushEmbedded d expand value b = .ok b') :
    b.Extends d b' (match v.dynamicText? value with
      | some text => expandBinds text
      | none => []) := by
  -- On what is written: nothing, an expansion, a text, null or a list of texts.
  rcases pushEmbedded_eq_ok h with ⟨rfl, rfl⟩ | ⟨text, htext, hb'⟩ | ⟨text, htext, hembedded, rfl⟩ |
    ⟨rfl, rfl⟩ | ⟨items, texts, rfl, -, -, htexts, rfl⟩
  · exact .refl d b'
  · have hmem : text ∈ value.strings := by
      rw [eq_string_of_dynamicText? htext]
      exact List.mem_singleton_self text
    rw [htext]
    exact hexpand text hmem hb'
  · rw [htext]
    exact .push b (marker_notMem_embeddedText hstrings hembedded)
  · exact .push b (marker_notMem (by decide))
  · refine .push b (marker_notMem_append (marker_notMem_append (marker_notMem (by decide)) ?_)
      (marker_notMem (by decide)))
    refine marker_notMem_intercalate ?_
    intro text htext
    obtain ⟨item, hitem, hembedded⟩ := Outcome.exists_of_mem_mapM htexts htext
    refine marker_notMem_embeddedText ?_ hembedded
    intro s hs
    exact hstrings s (Value.strings_subset_of_mem hitem hs)

end Variable

/-! ## The tree -/

/-- The element of a round is an element of the list. -/
theorem LoopFrame.element_mem {items : List Value} {frame : LoopFrame}
    (h : frame ∈ ofItems items) : frame.element ∈ items := by
  obtain ⟨⟨element, index⟩, hmem, rfl⟩ := List.mem_map.1 h
  exact List.fst_mem_of_mem_zipIdx hmem

/-- Embedded templates that are strings of `texts` are written with their binds. -/
def Expansion.Extends (d : Dialect) (texts : List String) (expand : Expansion)
    (expandBinds : BindExpansion) : Prop :=
  ∀ (v : Variable) (s : Scope) (text : String) (b b' : Buffer), s.Holds texts → text ∈ texts →
    expand v s text b = .ok b' → b.Extends d b' (expandBinds v s text)

namespace Node

variable {d : Dialect} {texts : List String} {expand : Expansion} {expandBinds : BindExpansion}

mutual

/-- A part of a template adds its binds. -/
theorem extends_of_walk (htexts : ∀ text ∈ texts, d.marker ∉ text.toList)
    (hexpand : expand.Extends d texts expandBinds) {s : Scope} (hs : s.Holds texts)
    {b b' : Buffer} : (node : Node) → (∀ text ∈ node.texts, d.marker ∉ text.toList) →
    node.walk d expand s b = .ok b' → b.Extends d b' (node.binds expandBinds s)
  | .literal text, hnode, h => by
    obtain rfl := Except.ok.inj h
    exact .push b (hnode text (List.mem_singleton_self text))
  | .bind v, _, h => by
    obtain ⟨value, hvalue, h⟩ := Outcome.bind_eq_ok.1 h
    rw [Scope.valueOf_eq_ok] at hvalue
    simp only [Node.binds, hvalue]
    exact Variable.extends_of_pushBound h
  | .embedded v, _, h => by
    obtain ⟨value, hvalue, h⟩ := Outcome.bind_eq_ok.1 h
    rw [Scope.valueOf_eq_ok] at hvalue
    have hstrings := Scope.strings_resolve_subset hs hvalue
    simp only [Node.binds, hvalue]
    refine Variable.extends_of_pushEmbedded ?_ ?_ h
    · intro text htext
      exact htexts text (hstrings htext)
    · intro text htext b b' hwritten
      exact hexpand v s text b b' hs (hstrings htext) hwritten
  | .branch condition _ yes no, hnode, h => by
    rw [Node.texts, List.forall_mem_append] at hnode
    obtain ⟨holds, hcondition, h⟩ := Outcome.bind_eq_ok.1 h
    rw [Outcome.mapError_eq_ok] at hcondition
    simp only [Node.binds, hcondition]
    cases holds with
    | true => exact extends_of_walkAll htexts hexpand hs yes hnode.1 h
    | false => exact extends_of_walkAll htexts hexpand hs no hnode.2 h
  | .scope children, hnode, h => by
    obtain ⟨child, hchild, h⟩ := Outcome.bind_eq_ok.1 h
    obtain rfl := Except.ok.inj h
    exact (extends_of_walkAll htexts hexpand hs children hnode hchild).mergePruned
  | .loop path children, hnode, h => by
    obtain ⟨items, hitems, h⟩ := Outcome.bind_eq_ok.1 h
    rcases Scope.loopItems_eq_ok hitems with ⟨hresolve, rfl⟩ | hresolve
    · obtain rfl := Except.ok.inj h
      simp only [Node.binds, hresolve]
      exact .refl d b
    · simp only [Node.binds, hresolve]
      refine Outcome.foldlM_flatMap (R := fun b added b' => b.Extends d b' added) (.refl d) .trans
        ?_ h
      intro frame hframe _ _ hround
      -- The elements of the list hold strings of the list only, so the scope stays within `texts`.
      have helement := Value.strings_subset_of_mem (LoopFrame.element_mem hframe)
      have hlist := Scope.strings_resolve_subset hs hresolve
      have hinner := hs.enter (List.Subset.trans helement hlist)
      exact extends_of_walkAll htexts hexpand hinner children hnode hround
  | .connector text, hnode, h => by
    obtain rfl := Except.ok.inj h
    split
    · exact .push b (hnode text (List.mem_singleton_self text))
    · exact .refl d b
  | .first children, hnode, h | .last children, hnode, h => by
    rw [Node.walk] at h
    rw [Node.binds]
    split_ifs at h ⊢
    · exact extends_of_walkAll htexts hexpand hs children hnode h
    · obtain rfl := Except.ok.inj h
      exact .refl d b

/-- Parts of a template add their binds. -/
theorem extends_of_walkAll (htexts : ∀ text ∈ texts, d.marker ∉ text.toList)
    (hexpand : expand.Extends d texts expandBinds) {s : Scope} (hs : s.Holds texts)
    {b b' : Buffer} : (nodes : List Node) → (∀ text ∈ textsOfAll nodes, d.marker ∉ text.toList) →
    walkAll d expand s nodes b = .ok b' → b.Extends d b' (bindsOfAll expandBinds s nodes)
  | [], _, h => by
    obtain rfl := Except.ok.inj h
    exact .refl d b
  | node :: rest, hnodes, h => by
    rw [textsOfAll, List.forall_mem_append] at hnodes
    obtain ⟨next, hfirst, hrest⟩ := Outcome.bind_eq_ok.1 h
    have hnode := extends_of_walk htexts hexpand hs node hnodes.1 hfirst
    exact hnode.trans (extends_of_walkAll htexts hexpand hs rest hnodes.2 hrest)

end

end Node

/-- Templates in embedded values add their binds: each has no characters but those of the value. -/
theorem extends_expansion {d : Dialect} {texts : List String}
    (htexts : ∀ text ∈ texts, d.marker ∉ text.toList) (room : Nat) :
    (expansion d room).Extends d texts (bindExpansion room) := by
  induction room with
  | zero =>
    intro v s text b b' hs htext h
    simp [expansion] at h
  | succ room ih =>
    -- The template is parsed and walked in the same scope, with one level less for those in it.
    intro v s text b b' hs htext h
    obtain ⟨t, hparse, h⟩ := Outcome.bind_eq_ok.1 h
    rw [Outcome.mapError_eq_ok] at hparse
    simp only [bindExpansion, hparse]
    refine Node.extends_of_walkAll htexts ih hs t.nodes ?_ h
    intro inner hinner hmarker
    exact htexts text htext (Template.texts_subset_of_parse hparse hinner hmarker)

/-- A statement has the binds of its template and, where neither the template's own texts nor the
strings of the parameter object hold the mark, one placeholder for each of them, numbered from 1
without a gap, with texts without the mark around them. No bind is a list or an object. -/
theorem Template.evaluate_woven {t : Template} {d : Dialect} {rootAlias : String}
    {parameters : Parameters} {statement : Statement}
    (htexts : ∀ text ∈ t.texts, d.marker ∉ text.toList)
    (hstrings : ∀ text ∈ parameters.strings, d.marker ∉ text.toList)
    (h : t.evaluate d rootAlias parameters = .ok statement) :
    (∃ head texts, texts.length = statement.binds.length ∧
      (∀ text ∈ head :: texts, d.marker ∉ text.toList) ∧
      statement.sql = d.weave 1 head texts) ∧
    statement.binds = t.binds rootAlias parameters ∧
    ∀ bind ∈ statement.binds, bind.value.isCompound = false := by
  obtain ⟨b, hwalk, hb⟩ := Outcome.bind_eq_ok.1 h
  obtain rfl := Except.ok.inj hb
  -- At the start no loop is open, and paths lead to strings of the parameter object only.
  have hscope : Scope.Holds ⟨rootAlias, parameters, []⟩ parameters.strings :=
    ⟨List.Subset.refl _, fun frame hframe => absurd hframe List.not_mem_nil⟩
  have hexpand := extends_expansion hstrings maxDepth
  have hall : Buffer.Extends d {} b (t.binds rootAlias parameters) :=
    Node.extends_of_walkAll hstrings hexpand hscope t.nodes htexts hwalk
  have hbinds : b.binds = t.binds rootAlias parameters := hall.binds.trans (List.nil_append _)
  obtain ⟨text, hsql, hwoven⟩ := hall.sql
  have htext : b.sql = text := hsql.trans (String.empty_append ..)
  rw [← hbinds] at hwoven
  refine ⟨?_, hbinds, ?_⟩
  · obtain ⟨head, texts, hlength, hmarks, hweave⟩ := hwoven.exists_weave
    exact ⟨head, texts, hlength, hmarks, htext.trans hweave⟩
  · rw [show b.toStatement.binds = t.binds rootAlias parameters from hbinds]
    exact hall.scalar

/-- The first scope vanishes, the second loses its "and", and the template in the embedded value
goes on counting behind them. The binds are those of the name, of the two rounds and of the name
again, as the embedded template reaches it. -/
theorem Template.evaluate_woven_pruned :
    let bound (path : Path) : Node := .bind ⟨path, {}, false⟩
    let t : Template := ⟨[.literal "select * from t where a = ", bound ⟨"a", []⟩,
      .scope [.literal " and ", bound ⟨"b", []⟩],
      .scope [.literal " and ", .scope [.literal "and (", .loop ⟨"pmb", ["ids"]⟩
        [.connector " or ", .literal "id = ", bound ⟨"#current", []⟩], .literal ")"]],
      .embedded ⟨⟨"more", []⟩, {}, false⟩]⟩
    let ids : Value := .list [.integer 1, .integer 2]
    let parameters : Parameters :=
      { properties := [("a", .string "Joe"), ("b", .null), ("ids", ids),
          ("more", .string " and c < /*pmb.a*/'z'")] }
    let d : Dialect := { kind := .postgres }
    ∃ statement, t.evaluate d "pmb" parameters = .ok statement ∧
      statement.sql = "select * from t where a = $1 and (id = $2 or id = $3) and c < $4" ∧
      statement.binds = [⟨.string "Joe", .string, some "a"⟩,
        ⟨.integer 1, .numeric, some "#current"⟩, ⟨.integer 2, .numeric, some "#current"⟩,
        ⟨.string "Joe", .string, some "pmb.a"⟩] ∧
      (∃ head texts, texts.length = statement.binds.length ∧
        (∀ text ∈ head :: texts, d.marker ∉ text.toList) ∧
        statement.sql = d.weave 1 head texts) ∧
      statement.binds = t.binds "pmb" parameters ∧
      ∀ bind ∈ statement.binds, bind.value.isCompound = false := by
  intro bound t ids parameters d
  -- The value that is embedded is a template with one bind.
  let more : Variable := ⟨⟨"more", []⟩, {}, false⟩
  let scope : Scope := ⟨"pmb", parameters, []⟩
  have htokens : Token.ofText " and c < /*pmb.a*/'z'" =
      .ok [⟨.sql " and c < ", 0⟩, ⟨.bind "pmb.a" ⟨"'z'", true, false⟩, 9⟩] := by
    decide +kernel
  have hparse : parse false " and c < /*pmb.a*/'z'" = .ok ⟨[.literal " and c < ",
      .bind ⟨⟨"pmb", ["a"]⟩, ⟨"'z'", true, false⟩, false⟩]⟩ := by
    rw [parse_eq_ofTokens htokens]
    rfl
  have hmore : bindExpansion maxDepth more scope " and c < /*pmb.a*/'z'" =
      [⟨.string "Joe", .string, some "pmb.a"⟩] := by
    simp only [maxDepth, bindExpansion, more, hparse]
    rfl
  -- The binds before it come from the name, the empty first scope and the rounds of the loop.
  have hbinds : t.binds "pmb" parameters = [⟨.string "Joe", .string, some "a"⟩,
      ⟨.integer 1, .numeric, some "#current"⟩, ⟨.integer 2, .numeric, some "#current"⟩,
      ⟨.string "Joe", .string, some "pmb.a"⟩] := by
    show _ ++ (_ ++ (_ ++ (_ ++
      (bindExpansion maxDepth more scope " and c < /*pmb.a*/'z'" ++ [])))) = _
    rw [hmore]
    rfl
  have hsql : (t.evaluate d "pmb" parameters).toOption.map Statement.sql =
      some "select * from t where a = $1 and (id = $2 or id = $3) and c < $4" := by decide +kernel
  cases h : t.evaluate d "pmb" parameters with
  | error e =>
    rw [h] at hsql
    exact absurd hsql (Option.some_ne_none _).symm
  | ok statement =>
    rw [h] at hsql
    obtain ⟨hweave, hstatement, hscalar⟩ := Template.evaluate_woven (by decide) (by decide) h
    exact ⟨statement, rfl, Option.some.inj hsql, hstatement.trans hbinds, hweave, hstatement,
      hscalar⟩

end SqlTemplate
