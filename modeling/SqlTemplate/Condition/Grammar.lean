import SqlTemplate.Condition.Token

/-!
# Reading a condition

The grammar of conditions over their tokens, the loosest joint first:

* a condition is conjunctions joined by "or";
* a conjunction is negations joined by "and";
* a negation is any number of "not" before a condition in parentheses, a comparison or a bare
  operand;
* an operand is a literal, a path, or a path followed by the name of a method and `()`.

Joints of one kind associate to the left. Each part of the grammar is a function that yields what
it has read and the tokens that are left, which are fewer than before.
-/

namespace SqlTemplate

open ConditionToken

/-- Something read from tokens, with the fewer tokens that are left. -/
abbrev Parsed (α : Type) (tokens : List ConditionToken) :=
  { result : α × List ConditionToken // result.2.length < tokens.length }

namespace Operand

/-- The segments that follow the root of a path, each behind a point. -/
def pathTail : List ConditionToken →
    Except ConditionError (List String × List ConditionToken)
  | dot :: identifier name :: rest =>
    match pathTail rest with
    | .error e => .error e
    | .ok (names, rest) => .ok (name :: names, rest)
  | [dot] => .error .unexpectedEnd
  | dot :: t :: _ => .error (.unexpected .propertyName (.token t))
  | rest => .ok ([], rest)

/-- The names of a path are taken off the tokens. -/
theorem length_pathTail_le {tokens rest : List ConditionToken} {names : List String}
    (h : pathTail tokens = .ok (names, rest)) : rest.length ≤ tokens.length := by
  fun_induction pathTail tokens generalizing names with
  | case1 => simp at h
  | case2 _ _ _ _ hrest ih =>
    simp only [Except.ok.injEq, Prod.mk.injEq] at h
    have := ih (h.2 ▸ hrest)
    simp only [List.length_cons]
    omega
  | case3 => simp at h
  | case4 => simp at h
  | case5 => simp_all

/-- The closing parenthesis that must come next. -/
def closing : List ConditionToken → Except ConditionError (List ConditionToken)
  | [] => .error .unexpectedEnd
  | rightParen :: rest => .ok rest
  | t :: _ => .error (.unexpected (.token rightParen) (.token t))

/-- The parenthesis that closes is taken off the tokens. -/
theorem length_closing_lt {tokens rest : List ConditionToken} (h : closing tokens = .ok rest) :
    rest.length < tokens.length := by
  unfold closing at h
  split at h <;> simp_all

/-- The method call that segments followed by `()` stand for: the last one names the method. -/
def call (root : String) (names : List String) : Except ConditionError Operand :=
  let name := names.getLast?.getD root
  match Method.ofName? name with
  | none => .error (.unknownMethod name)
  | some m =>
    if names.isEmpty then .error (.unexpected .receiver (.call m))
    else .ok (method ⟨root, names.dropLast⟩ m)

/-- The path or method call that starts with an identifier. -/
def ofIdentifier (root : String) (tokens : List ConditionToken) :
    Except ConditionError { r : Operand × List ConditionToken // r.2.length ≤ tokens.length } :=
  match h : pathTail tokens with
  | .error e => .error e
  | .ok (names, leftParen :: rest) =>
    match hc : closing rest with
    | .error e => .error e
    | .ok after =>
      match call root names with
      | .error e => .error e
      | .ok o => .ok ⟨(o, after), by
        have := length_pathTail_le h
        have := length_closing_lt hc
        simp_all
        omega⟩
  | .ok (names, rest) => .ok ⟨(path ⟨root, names⟩, rest), length_pathTail_le h⟩

/-- The operand that comes next. -/
def ofTokens : (tokens : List ConditionToken) → Except ConditionError (Parsed Operand tokens)
  | [] => .error .unexpectedEnd
  | ConditionToken.null :: rest => .ok ⟨(literal .null, rest), by simp⟩
  | ConditionToken.bool b :: rest => .ok ⟨(literal (.bool b), rest), by simp⟩
  | number text :: rest => .ok ⟨(literal (.number text), rest), by simp⟩
  | string s :: rest => .ok ⟨(literal (.string s), rest), by simp⟩
  | identifier root :: rest =>
    match ofIdentifier root rest with
    | .error e => .error e
    | .ok ⟨r, h⟩ => .ok ⟨r, by simp; omega⟩
  | t :: _ => .error (.unexpected .operand (.token t))

end Operand

namespace Expr

/-- A comparison or a bare operand. -/
def ofOperands (tokens : List ConditionToken) : Except ConditionError (Parsed Expr tokens) :=
  match Operand.ofTokens tokens with
  | .error e => .error e
  | .ok ⟨(left, rest), h⟩ =>
    match hr : rest with
    -- Comparisons do not chain: what follows the second operand is left to the caller.
    | ConditionToken.compare op :: rest =>
      match Operand.ofTokens rest with
      | .error e => .error e
      | .ok ⟨(right, after), h'⟩ =>
        .ok ⟨(.compare left op right, after), by simp at h ⊢ h'; omega⟩
    | rest => .ok ⟨(operand left, rest), by simpa [hr] using h⟩

mutual

/-- A condition in parentheses, a comparison or a bare operand. -/
def primary (tokens : List ConditionToken) : Except ConditionError (Parsed Expr tokens) :=
  match tokens with
  | leftParen :: rest =>
    match disjunction rest with
    | .error e => .error e
    | .ok ⟨(e, inner), h⟩ =>
      match hc : Operand.closing inner with
      | .error e => .error e
      | .ok after => .ok ⟨(e, after), by
        have := Operand.length_closing_lt hc
        simp at h ⊢
        omega⟩
  | tokens => ofOperands tokens
termination_by (tokens.length, 0)

/-- A primary condition behind any number of negations. -/
def negation (tokens : List ConditionToken) : Except ConditionError (Parsed Expr tokens) :=
  match tokens with
  | ConditionToken.not :: rest =>
    match negation rest with
    | .error e => .error e
    | .ok ⟨(e, after), h⟩ => .ok ⟨(.not e, after), by simp at h ⊢; omega⟩
  | tokens => primary tokens
termination_by (tokens.length, 1)

/-- Negations joined by "and". -/
def conjunction (tokens : List ConditionToken) : Except ConditionError (Parsed Expr tokens) :=
  match negation tokens with
  | .error e => .error e
  | .ok ⟨(first, rest), h⟩ =>
    have : rest.length < tokens.length := h
    match conjuncts rest with
    | .error e => .error e
    | .ok ⟨(others, after), h'⟩ =>
      .ok ⟨(others.foldl Expr.and first, after), Nat.lt_of_le_of_lt h' h⟩
termination_by (tokens.length, 2)

/-- The further negations, each behind an "and". -/
def conjuncts (tokens : List ConditionToken) : Except ConditionError
    { r : List Expr × List ConditionToken // r.2.length ≤ tokens.length } :=
  match tokens with
  | ConditionToken.and :: rest =>
    match negation rest with
    | .error e => .error e
    | .ok ⟨(first, rest'), h⟩ =>
      have : rest'.length < rest.length := h
      match conjuncts rest' with
      | .error e => .error e
      | .ok ⟨(others, after), h'⟩ => .ok ⟨(first :: others, after), by simp at h' ⊢; omega⟩
  | tokens => .ok ⟨([], tokens), Nat.le_refl _⟩
termination_by (tokens.length, 3)

/-- Conjunctions joined by "or": a whole condition. -/
def disjunction (tokens : List ConditionToken) : Except ConditionError (Parsed Expr tokens) :=
  match conjunction tokens with
  | .error e => .error e
  | .ok ⟨(first, rest), h⟩ =>
    have : rest.length < tokens.length := h
    match disjuncts rest with
    | .error e => .error e
    | .ok ⟨(others, after), h'⟩ =>
      .ok ⟨(others.foldl Expr.or first, after), Nat.lt_of_le_of_lt h' h⟩
termination_by (tokens.length, 4)

/-- The further conjunctions, each behind an "or". -/
def disjuncts (tokens : List ConditionToken) : Except ConditionError
    { r : List Expr × List ConditionToken // r.2.length ≤ tokens.length } :=
  match tokens with
  | ConditionToken.or :: rest =>
    match conjunction rest with
    | .error e => .error e
    | .ok ⟨(first, rest'), h⟩ =>
      have : rest'.length < rest.length := h
      match disjuncts rest' with
      | .error e => .error e
      | .ok ⟨(others, after), h'⟩ => .ok ⟨(first :: others, after), by simp at h' ⊢; omega⟩
  | tokens => .ok ⟨([], tokens), Nat.le_refl _⟩
termination_by (tokens.length, 5)

end

/-- The condition that tokens spell from the first to the last. -/
def ofTokens (tokens : List ConditionToken) : Except ConditionError Expr :=
  match disjunction tokens with
  | .error e => .error e
  | .ok ⟨(e, []), _⟩ => .ok e
  | .ok ⟨(_, t :: _), _⟩ => .error (.unexpected .endOfExpression (.token t))

/-- The condition that a text spells. The whole text is cut into tokens before any of them is
looked at. -/
def parse (text : String) : Except ConditionError Expr :=
  match scan text.toList with
  | .error e => .error e
  | .ok tokens => ofTokens tokens

end Expr

end SqlTemplate
