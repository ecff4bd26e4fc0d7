import SqlTemplate.Proofs.Condition.Spelling

/-!
# Conditions and their texts

A text is read as a condition exactly if its tokens derive it, and they derive one condition at
most. The other way round, the tokens of a condition never run together, however they derive it
(`Expr.Derives.isChain`), so that every way to write them is read back as this condition. Written
with parentheses around its parts (`Expr.tokens`), each condition whose names and numbers can be
written at all comes back from its text. `Expr.parse_grammar` puts this together.
-/

namespace SqlTemplate

open ConditionToken

/-! ## Tokens that derive a condition do not run together -/

/-- The two tokens do not run together. -/
abbrev ConditionToken.Adjoins (a b : ConditionToken) : Prop :=
  a.adjoins b = true

namespace Operand

/-- A path and what follows it do not run together, if this does not go on with a word. -/
theorem isChain_pathTokens (root : String) (names : List String) {rest : List ConditionToken}
    (hrest : rest.IsChain Adjoins) (hword : ∀ t ∈ rest.head?, t.isWord = false) :
    (identifier root :: names.flatMap (fun segment => [dot, identifier segment]) ++ rest).IsChain
      Adjoins := by
  induction names generalizing root with
  | nil =>
    refine hrest.cons fun t ht => ?_
    have hword := hword t ht
    cases t <;> first | rfl | exact absurd hword Bool.false_ne_true.symm
  | cons name names ih =>
    have htail := ih name
    exact .cons_cons rfl (.cons_cons rfl htail)

/-- The tokens of an operand do not run together. -/
theorem Derives.isChain {tokens : List ConditionToken} {o : Operand} (h : Derives tokens o) :
    tokens.IsChain Adjoins := by
  cases h with
  | null | bool | number | string => exact .singleton _
  | path p =>
    have hchain : (pathTokens p ++ []).IsChain Adjoins :=
      isChain_pathTokens p.root p.below .nil nofun
    rwa [List.append_nil] at hchain
  | @method receiver name m hname =>
    refine isChain_pathTokens receiver.root receiver.below ?_ (by simp [isWord])
    exact .cons_cons rfl (.cons_cons rfl (.cons_cons rfl (.singleton _)))

/-- Behind each token of an operand a comparison may follow. -/
theorem Derives.adjoins_compare {tokens : List ConditionToken} {o : Operand} (h : Derives tokens o)
    (op : CompareOp) : ∀ t ∈ tokens, t.adjoins (ConditionToken.compare op) = true := by
  have hpath : ∀ p : Path, ∀ t ∈ pathTokens p, t.adjoins (ConditionToken.compare op) = true := by
    refine fun p => List.forall_mem_cons.2 ⟨rfl, fun t ht => ?_⟩
    obtain ⟨segment, -, ht⟩ := List.mem_flatMap.1 ht
    rcases List.mem_cons.1 ht with rfl | ht
    · rfl
    · obtain rfl := List.mem_singleton.1 ht
      rfl
  cases h with
  | null | bool | number | string => simp [adjoins, isWord]
  | path p => exact hpath p
  | method receiver =>
    refine List.forall_mem_append.2 ⟨hpath receiver, ?_⟩
    simp [adjoins, isWord]

end Operand

namespace Expr

/-- A condition starts with no comparison. -/
theorem Derives.exists_cons {rule : Rule} {tokens : List ConditionToken} {e : Expr}
    (h : Derives rule tokens e) :
    ∃ t rest, tokens = t :: rest ∧ ∀ op, t ≠ ConditionToken.compare op := by
  induction h with
  | disjunction _ ih | conjunction _ ih | negation _ ih => exact ih
  | or _ _ ih _ | and _ _ ih _ =>
    obtain ⟨t, rest, rfl, hne⟩ := ih
    exact ⟨t, _, rfl, hne⟩
  | not | group => exact ⟨_, _, rfl, nofun⟩
  | compare op hleft _ =>
    obtain ⟨t, rest, rfl, -, -, hne⟩ := exists_cons_of_operand hleft
    exact ⟨t, _, rfl, hne⟩
  | operand h =>
    obtain ⟨t, rest, rfl, -, -, hne⟩ := exists_cons_of_operand h
    exact ⟨t, rest, rfl, hne⟩

/-- The tokens of a condition do not run together. -/
theorem Derives.isChain {rule : Rule} {tokens : List ConditionToken} {e : Expr}
    (h : Derives rule tokens e) : tokens.IsChain Adjoins := by
  induction h with
  | disjunction _ ih | conjunction _ ih | negation _ ih => exact ih
  | or _ _ ihleft ihright | and _ _ ihleft ihright =>
    refine List.isChain_append.2 ⟨ihleft, ihright.cons fun t _ => ?_, fun t _ next hnext => ?_⟩
    · cases t <;> rfl
    · obtain rfl := Option.some.inj hnext
      cases t <;> rfl
  | not h ih =>
    -- A "not" would run together with a comparison, with which no condition starts.
    obtain ⟨t, rest, rfl, hne⟩ := h.exists_cons
    refine ih.cons fun next hnext => ?_
    obtain rfl := Option.some.inj hnext
    cases t with
    | compare op => exact absurd rfl (hne op)
    | _ => rfl
  | group _ ih =>
    refine List.isChain_append.2 ⟨ih.cons fun t _ => ?_, .singleton _, fun t _ next hnext => ?_⟩
    · cases t <;> rfl
    · obtain rfl := Option.some.inj hnext
      cases t <;> rfl
  | compare op hleft hright =>
    obtain ⟨t, rest, rfl, hne⟩ := (Derives.operand hright).exists_cons
    refine List.isChain_append.2 ⟨hleft.isChain, hright.isChain.cons fun next hnext => ?_,
      fun last hlast next hnext => ?_⟩
    · obtain rfl := Option.some.inj hnext
      cases t with
      | compare op => exact absurd rfl (hne op)
      | _ => rfl
    · obtain rfl := Option.some.inj hnext
      exact hleft.adjoins_compare op last (List.mem_of_getLast? hlast)
  | operand h => exact h.isChain

end Expr

/-! ## Printing -/

/-- The token of a literal. -/
def Literal.token : Literal → ConditionToken
  | null => .null
  | bool b => .bool b
  | number text => .number text
  | string s => .string s

/-- The tokens of an operand. -/
def Operand.tokens : Operand → List ConditionToken
  | literal l => [l.token]
  | path p => pathTokens p
  | method receiver m => pathTokens receiver ++ [dot, identifier m.name, leftParen, rightParen]

/-- Tokens in parentheses. -/
def parenthesized (tokens : List ConditionToken) : List ConditionToken :=
  leftParen :: tokens ++ [rightParen]

/-- The tokens of a condition, with parentheses around its parts. -/
def Expr.tokens : Expr → List ConditionToken
  | compare l op r => l.tokens ++ ConditionToken.compare op :: r.tokens
  | and e f => parenthesized e.tokens ++ ConditionToken.and :: parenthesized f.tokens
  | or e f => parenthesized e.tokens ++ ConditionToken.or :: parenthesized f.tokens
  | not e => ConditionToken.not :: parenthesized e.tokens
  | operand o => o.tokens

/-- A method has a name. -/
theorem Method.mem_methodNames (m : Method) : (m.name, m) ∈ methodNames := by
  cases m <;> decide

/-- An operand is derived from its tokens. -/
theorem Operand.derives_tokens (o : Operand) : o.Derives o.tokens := by
  cases o with
  | literal l => cases l <;> constructor
  | path p => exact .path p
  | method receiver m => exact .method receiver m.mem_methodNames

/-- A condition is derived from its tokens. -/
theorem Expr.derives_tokens (e : Expr) : Derives .disjunction e.tokens e := by
  induction e with
  | compare l op r =>
    exact .disjunction (.conjunction (.negation
      (.compare op l.derives_tokens r.derives_tokens)))
  | and e f ihe ihf =>
    exact .disjunction (.and (.conjunction (.negation (.group ihe))) (.negation (.group ihf)))
  | or e f ihe ihf =>
    exact .or (.disjunction (.conjunction (.negation (.group ihe))))
      (.conjunction (.negation (.group ihf)))
  | not e ih => exact .disjunction (.conjunction (.not (.negation (.group ih))))
  | operand o => exact .disjunction (.conjunction (.negation (.operand o.derives_tokens)))

namespace ConditionToken

/-- The token can be written. -/
def IsLexable : ConditionToken → Prop
  | identifier name => IsName name
  | number text => IsNumber text
  | _ => True

/-- The token as it is written. -/
def spelling : ConditionToken → List Char
  | identifier name => name.toList
  | string s => '\'' :: Text.doubleQuotes s.toList ++ ['\'']
  | number text => text.toList
  | bool b => (if b then "true" else "false").toList
  | null => "null".toList
  | compare op => op.text.toList
  | and => "&&".toList
  | or => "||".toList
  | not => "!".toList
  | dot => ".".toList
  | leftParen => "(".toList
  | rightParen => ")".toList

/-- A token that can be written is spelled by its spelling. -/
theorem spells_spelling {t : ConditionToken} (h : t.IsLexable) : t.Spells t.spelling := by
  cases t with
  | identifier => exact .identifier h
  | number => exact .number h
  | bool b =>
    cases b with
    | true => exact .yes
    | false => exact .no
  | _ => constructor

/-- The tokens as they are written, with a gap before each of them and one at the end. -/
def spread (gap : Nat → List Char) : List ConditionToken → List Char
  | [] => gap 0
  | t :: tokens => gap 0 ++ t.spelling ++ spread (fun i => gap (i + 1)) tokens

/-- Tokens that can be written, with blanks between them, are spread out. -/
theorem spreads_spread {gap : Nat → List Char} (hgap : ∀ i, ∀ c ∈ gap i, Text.isBlank c = true)
    {tokens : List ConditionToken} (h : ∀ t ∈ tokens, t.IsLexable) :
    Spreads tokens (spread gap tokens) := by
  induction tokens generalizing gap with
  | nil => exact .nil (hgap 0)
  | cons t tokens ih =>
    obtain ⟨ht, htokens⟩ := List.forall_mem_cons.1 h
    exact .cons (hgap 0) (spells_spelling ht) (ih (fun i => hgap (i + 1)) htokens)

end ConditionToken

/-! ## What can be written -/

/-- Every segment of the path is a name. -/
def Path.IsLexable (p : Path) : Prop :=
  ∀ segment ∈ p.segments, IsName segment

/-- The names and the number of the operand can be written. -/
def Operand.IsLexable : Operand → Prop
  | literal (.number text) => IsNumber text
  | literal _ => True
  | path p => p.IsLexable
  | method receiver _ => receiver.IsLexable

/-- The names and the numbers of the condition can be written. -/
def Expr.IsLexable : Expr → Prop
  | compare l _ r => l.IsLexable ∧ r.IsLexable
  | and e f | or e f => e.IsLexable ∧ f.IsLexable
  | not e => e.IsLexable
  | operand o => o.IsLexable

/-- The tokens of a path can be written. -/
theorem Path.IsLexable.tokens {p : Path} (h : p.IsLexable) :
    ∀ t ∈ Operand.pathTokens p, t.IsLexable := by
  obtain ⟨hroot, hbelow⟩ := List.forall_mem_cons.1 h
  refine List.forall_mem_cons.2 ⟨hroot, fun t ht => ?_⟩
  obtain ⟨segment, hsegment, ht⟩ := List.mem_flatMap.1 ht
  rcases List.mem_cons.1 ht with rfl | ht
  · exact trivial
  · obtain rfl := List.mem_singleton.1 ht
    exact hbelow segment hsegment

/-- The name of a method can be written. -/
theorem Method.isName (m : Method) : IsName m.name := by
  cases m <;> exact ⟨_, _, rfl, by decide, List.all_eq_true.1 (by decide), by decide⟩

/-- The tokens of an operand can be written. -/
theorem Operand.IsLexable.tokens {o : Operand} (h : o.IsLexable) :
    ∀ t ∈ o.tokens, t.IsLexable := by
  cases o with
  | literal l => cases l <;> exact List.forall_mem_singleton.2 h
  | path p => exact Path.IsLexable.tokens h
  | method receiver m =>
    refine List.forall_mem_append.2 ⟨Path.IsLexable.tokens h, ?_⟩
    simp [ConditionToken.IsLexable, m.isName]

/-- Parentheses can be written. -/
theorem isLexable_parenthesized {tokens : List ConditionToken} (h : ∀ t ∈ tokens, t.IsLexable) :
    ∀ t ∈ parenthesized tokens, t.IsLexable :=
  List.forall_mem_append.2
    ⟨List.forall_mem_cons.2 ⟨trivial, h⟩, List.forall_mem_singleton.2 trivial⟩

/-- The tokens of a condition can be written. -/
theorem Expr.IsLexable.tokens {e : Expr} (h : e.IsLexable) : ∀ t ∈ e.tokens, t.IsLexable := by
  induction e with
  | compare l op r =>
    exact List.forall_mem_append.2 ⟨h.1.tokens, List.forall_mem_cons.2 ⟨trivial, h.2.tokens⟩⟩
  | and e f ihe ihf | or e f ihe ihf =>
    exact List.forall_mem_append.2 ⟨isLexable_parenthesized (ihe h.1),
      List.forall_mem_cons.2 ⟨trivial, isLexable_parenthesized (ihf h.2)⟩⟩
  | not e ih => exact List.forall_mem_cons.2 ⟨trivial, isLexable_parenthesized (ih h)⟩
  | operand o => exact Operand.IsLexable.tokens h

/-! ## The grammar and the texts -/

namespace Expr

/-- A text is read as a condition if its tokens derive it. -/
theorem parse_eq_ok_iff {text : String} {e : Expr} :
    parse text = .ok e ↔
      ∃ tokens, scan text.toList = .ok tokens ∧ Derives .disjunction tokens e := by
  unfold parse
  cases hscan : scan text.toList with
  | error fault => simp
  | ok tokens => simp [ofTokens_eq_ok_iff]

/-- Every way to write the tokens of a condition is read back. -/
theorem Derives.parse {tokens : List ConditionToken} {e : Expr} {source : List Char}
    (h : Derives .disjunction tokens e) (hsource : Spreads tokens source) :
    parse (String.ofList source) = .ok e := by
  refine parse_eq_ok_iff.2 ⟨tokens, ?_, h⟩
  rw [String.toList_ofList]
  exact scan_of_spreads hsource h.isChain

/-- A text is read as a condition exactly if its tokens derive it, and tokens derive one condition
at most. However the tokens of a condition are written, it is read back; and so is every condition
that is printed with parentheses around its parts, quotes doubled and any blanks between the tokens,
if its names and numbers can be written. -/
theorem parse_grammar :
    (∀ text e, parse text = .ok e ↔
      ∃ tokens, scan text.toList = .ok tokens ∧ Derives .disjunction tokens e) ∧
    (∀ tokens e f, Derives .disjunction tokens e → Derives .disjunction tokens f → e = f) ∧
    (∀ tokens e source, Derives .disjunction tokens e → Spreads tokens source →
      parse (String.ofList source) = .ok e) ∧
    ∀ e : Expr, e.IsLexable → ∀ gap : Nat → List Char,
      (∀ i, ∀ c ∈ gap i, Text.isBlank c = true) →
      parse (String.ofList (spread gap e.tokens)) = .ok e := by
  refine ⟨fun _ _ => parse_eq_ok_iff, fun _ _ _ => Derives.unique,
    fun _ _ _ hderives hsource => hderives.parse hsource, fun e he gap hgap => ?_⟩
  exact e.derives_tokens.parse (spreads_spread hgap he.tokens)

end Expr

end SqlTemplate
