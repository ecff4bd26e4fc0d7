import Mathlib.Tactic.SplitIfs
import SqlTemplate.Condition.Grammar

/-!
# The grammar of conditions

`Expr.Derives` is the grammar by itself, without a reader: which sequences of tokens derive which
condition, rule by rule. A disjunction is one further to the left and a conjunction, a conjunction
is one further to the left and a negation, so that joints of one kind associate to the left.

The reader agrees with it in both directions. What it reads off the front of the tokens derives
what it yields (`Expr.disjunction_sound`), by induction along its own calls; and tokens that derive
a condition are read off the front of any tokens that do not go on with it
(`Expr.Derives.readsBy`), by induction on the derivation. Where a rule can be repeated, the
induction takes along what the reader makes of the rest. Since the reader is a function, tokens
derive one condition at most.
-/

namespace SqlTemplate

open ConditionToken

/-- The names of the methods. -/
def methodNames : List (String × Method) :=
  [("size", .size), ("length", .size), ("isEmpty", .isEmpty), ("isNotEmpty", .isNotEmpty)]

/-- A method is found by its name exactly if the table has it under this name. -/
theorem Method.ofName?_eq_some_iff {name : String} {m : Method} :
    ofName? name = some m ↔ (name, m) ∈ methodNames := by
  unfold ofName?
  split <;> simp_all [methodNames, eq_comm]

namespace Operand

/-- The tokens of a path. -/
def pathTokens (p : Path) : List ConditionToken :=
  identifier p.root :: p.below.flatMap fun segment => [dot, identifier segment]

/-- The tokens derive the operand. -/
inductive Derives : List ConditionToken → Operand → Prop
  /-- The word for null. -/
  | null : Derives [ConditionToken.null] (literal .null)
  /-- A truth value. -/
  | bool (b : Bool) : Derives [ConditionToken.bool b] (literal (.bool b))
  /-- A number. -/
  | number (text : String) : Derives [ConditionToken.number text] (literal (.number text))
  /-- A string. -/
  | string (s : String) : Derives [ConditionToken.string s] (literal (.string s))
  /-- A path. -/
  | path (p : Path) : Derives (pathTokens p) (path p)
  /-- A method of a path. -/
  | method (receiver : Path) {name : String} {m : Method} (hname : (name, m) ∈ methodNames) :
      Derives (pathTokens receiver ++ [dot, identifier name, leftParen, rightParen])
        (method receiver m)

end Operand

namespace Expr

/-- The rules of the grammar. -/
inductive Rule where
  /-- Conjunctions joined by "or". -/
  | disjunction
  /-- Negations joined by "and". -/
  | conjunction
  /-- A primary condition behind any number of negations. -/
  | negation
  /-- A condition in parentheses, a comparison or a bare operand. -/
  | primary

/-- By this rule the tokens derive the condition. -/
inductive Derives : Rule → List ConditionToken → Expr → Prop
  /-- One conjunction. -/
  | disjunction {tokens : List ConditionToken} {e : Expr} (h : Derives .conjunction tokens e) :
      Derives .disjunction tokens e
  /-- A further conjunction. -/
  | or {left right : List ConditionToken} {e f : Expr} (hleft : Derives .disjunction left e)
      (hright : Derives .conjunction right f) :
      Derives .disjunction (left ++ ConditionToken.or :: right) (.or e f)
  /-- One negation. -/
  | conjunction {tokens : List ConditionToken} {e : Expr} (h : Derives .negation tokens e) :
      Derives .conjunction tokens e
  /-- A further negation. -/
  | and {left right : List ConditionToken} {e f : Expr} (hleft : Derives .conjunction left e)
      (hright : Derives .negation right f) :
      Derives .conjunction (left ++ ConditionToken.and :: right) (.and e f)
  /-- A "not". -/
  | not {tokens : List ConditionToken} {e : Expr} (h : Derives .negation tokens e) :
      Derives .negation (ConditionToken.not :: tokens) (.not e)
  /-- No further "not". -/
  | negation {tokens : List ConditionToken} {e : Expr} (h : Derives .primary tokens e) :
      Derives .negation tokens e
  /-- A condition in parentheses. -/
  | group {tokens : List ConditionToken} {e : Expr} (h : Derives .disjunction tokens e) :
      Derives .primary (leftParen :: tokens ++ [rightParen]) e
  /-- A comparison. -/
  | compare {left right : List ConditionToken} {l r : Operand} (op : CompareOp)
      (hleft : l.Derives left) (hright : r.Derives right) :
      Derives .primary (left ++ ConditionToken.compare op :: right) (.compare l op r)
  /-- A bare operand. -/
  | operand {tokens : List ConditionToken} {o : Operand} (h : o.Derives tokens) :
      Derives .primary tokens (.operand o)

end Expr

/-- Two readings that are equal have read the same and left the same. -/
theorem eq_of_ok_eq {α : Type} {p : α × List ConditionToken → Prop} {a b : α}
    {rest rest' : List ConditionToken} {ha : p (a, rest)} {hb : p (b, rest')}
    (h : (.ok ⟨(a, rest), ha⟩ : Except ConditionError { r // p r }) = .ok ⟨(b, rest'), hb⟩) :
    a = b ∧ rest = rest' :=
  Prod.mk.inj (Subtype.mk.inj (Except.ok.inj h))

/-- What is read is `a`, and `rest` is left. -/
def Reads {α : Type} {p : α × List ConditionToken → Prop}
    (x : Except ConditionError { r : α × List ConditionToken // p r }) (a : α)
    (rest : List ConditionToken) : Prop :=
  ∃ h, x = .ok ⟨(a, rest), h⟩

/-! ## Operands -/

namespace Operand

variable {tokens rest after : List ConditionToken} {names : List String} {o : Operand}

/-- The tokens do not go on with an operand. -/
def Ends (rest : List ConditionToken) : Prop :=
  ∀ t ∈ rest.head?, t ≠ dot ∧ t ≠ leftParen

/-- Behind a root, segments are read. -/
theorem eq_of_pathTail (h : pathTail tokens = .ok (names, rest)) :
    tokens = names.flatMap (fun segment => [dot, identifier segment]) ++ rest := by
  fun_induction pathTail tokens generalizing names with
  | case1 | case3 | case4 => simp at h
  | case2 name tokens below after htail ih =>
    obtain ⟨rfl, rfl⟩ := Prod.mk.inj (Except.ok.inj h)
    rw [ih htail]
    rfl
  | case5 tokens =>
    obtain ⟨rfl, rfl⟩ := Prod.mk.inj (Except.ok.inj h)
    rfl

/-- Segments are read up to the first token that is no point. -/
theorem pathTail_append (names : List String) (hrest : ∀ t ∈ rest.head?, t ≠ dot) :
    pathTail (names.flatMap (fun segment => [dot, identifier segment]) ++ rest) =
      .ok (names, rest) := by
  induction names with
  | nil =>
    rw [List.flatMap_nil, List.nil_append]
    cases rest with
    | nil => rfl
    | cons t rest =>
      cases t with
      | dot => exact absurd rfl (hrest dot rfl)
      | _ => rfl
  | cons name names ih =>
    simp only [List.flatMap_cons, List.cons_append, List.nil_append, pathTail, ih]

/-- A group is closed by a parenthesis and by nothing else. -/
theorem closing_eq_ok_iff : closing tokens = .ok after ↔ tokens = rightParen :: after := by
  unfold closing
  split <;> simp_all

/-- The last segment of a call names the method. -/
theorem call_snoc (root : String) (below : List String) (name : String) :
    call root (below ++ [name]) =
      match Method.ofName? name with
      | none => .error (.unknownMethod name)
      | some m => .ok (method ⟨root, below⟩ m) := by
  cases hmethod : Method.ofName? name <;> simp [call, hmethod]

/-- A call needs the name of a method behind at least one segment. -/
theorem call_eq_ok_iff {root : String} :
    call root names = .ok o ↔ ∃ below name m, names = below ++ [name] ∧
      (name, m) ∈ methodNames ∧ o = method ⟨root, below⟩ m := by
  constructor
  · intro h
    rcases List.eq_nil_or_concat names with rfl | ⟨below, name, rfl⟩
    · simp only [call] at h
      split at h <;> simp at h
    · rw [List.concat_eq_append, call_snoc] at h
      split at h
      · simp at h
      · next m hmethod =>
        have hmem := Method.ofName?_eq_some_iff.1 hmethod
        exact ⟨below, name, m, List.concat_eq_append, hmem, (Except.ok.inj h).symm⟩
  · rintro ⟨below, name, m, rfl, hmem, rfl⟩
    rw [call_snoc, Method.ofName?_eq_some_iff.2 hmem]

/-- What is read behind an identifier is an operand that starts with it. -/
theorem sound_ofIdentifier {root : String} (h : Reads (ofIdentifier root tokens) o rest) :
    ∃ used, tokens = used ++ rest ∧ Derives (identifier root :: used) o := by
  obtain ⟨hlt, h⟩ := h
  unfold ofIdentifier at h
  split at h
  · simp at h
  · next names inner htail =>
    -- Behind the segments comes the parenthesis of a call.
    split at h
    · simp at h
    · next after hclosing =>
      split at h
      · simp at h
      · next hcall =>
        obtain ⟨rfl, rfl⟩ := eq_of_ok_eq h
        obtain ⟨below, name, m, rfl, hname, rfl⟩ := call_eq_ok_iff.1 hcall
        obtain rfl := closing_eq_ok_iff.1 hclosing
        refine ⟨below.flatMap (fun segment => [dot, identifier segment]) ++
          [dot, identifier name, leftParen, rightParen], ?_, .method ⟨root, below⟩ hname⟩
        rw [eq_of_pathTail htail]
        simp
  · next names inner hne htail =>
    obtain ⟨rfl, rfl⟩ := eq_of_ok_eq h
    exact ⟨_, eq_of_pathTail htail, .path ⟨root, names⟩⟩

/-- What is read off the front is an operand. -/
theorem sound_ofTokens (h : Reads (ofTokens tokens) o rest) :
    ∃ used, tokens = used ++ rest ∧ Derives used o := by
  obtain ⟨hlt, h⟩ := h
  unfold ofTokens at h
  split at h
  · simp at h
  · obtain ⟨rfl, rfl⟩ := eq_of_ok_eq h
    exact ⟨_, rfl, .null⟩
  · obtain ⟨rfl, rfl⟩ := eq_of_ok_eq h
    exact ⟨_, rfl, .bool _⟩
  · obtain ⟨rfl, rfl⟩ := eq_of_ok_eq h
    exact ⟨_, rfl, .number _⟩
  · obtain ⟨rfl, rfl⟩ := eq_of_ok_eq h
    exact ⟨_, rfl, .string _⟩
  -- Only a name may need more tokens: it may be the first one of a path or of a call.
  · next root after =>
    split at h
    · simp at h
    · next r hle hidentifier =>
      obtain ⟨rfl⟩ := Subtype.mk.inj (Except.ok.inj h)
      obtain ⟨used, rfl, hderives⟩ := sound_ofIdentifier ⟨_, hidentifier⟩
      exact ⟨_, rfl, hderives⟩
  · simp at h

/-- Segments that no parenthesis follows are a path. -/
theorem reads_ofIdentifier_path {root : String} (htail : pathTail tokens = .ok (names, rest))
    (hrest : ∀ t ∈ rest.head?, t ≠ leftParen) :
    Reads (ofIdentifier root tokens) (path ⟨root, names⟩) rest := by
  unfold ofIdentifier
  split
  · next herror => simp [htail] at herror
  · next inner hcall =>
    obtain ⟨-, rfl⟩ := Prod.mk.inj (Except.ok.inj (htail.symm.trans hcall))
    exact absurd rfl (hrest leftParen rfl)
  · next hpath =>
    obtain ⟨rfl, rfl⟩ := Prod.mk.inj (Except.ok.inj (htail.symm.trans hpath))
    exact ⟨_, rfl⟩

/-- Segments that the parentheses of a call follow are a path and a method. -/
theorem reads_ofIdentifier_call {root : String}
    (htail : pathTail tokens = .ok (names, leftParen :: rightParen :: rest))
    (hcall : call root names = .ok o) : Reads (ofIdentifier root tokens) o rest := by
  unfold ofIdentifier
  split
  · next herror => simp [htail] at herror
  -- The call is closed at once, since no method takes an argument.
  · next inner hok =>
    obtain ⟨rfl, heq⟩ := Prod.mk.inj (Except.ok.inj (htail.symm.trans hok))
    obtain rfl := (List.cons.inj heq).2
    have hclosing : closing (rightParen :: rest) = .ok rest := rfl
    split
    · next herror => simp [hclosing] at herror
    · next after hafter =>
      obtain rfl := Except.ok.inj (hclosing.symm.trans hafter)
      rw [hcall]
      exact ⟨_, rfl⟩
  · next hne hpath =>
    obtain ⟨-, rfl⟩ := Prod.mk.inj (Except.ok.inj (htail.symm.trans hpath))
    exact absurd rfl (hne _)

/-- An identifier is read together with what belongs to it. -/
theorem reads_ofTokens_identifier {root : String} (h : Reads (ofIdentifier root tokens) o rest) :
    Reads (ofTokens (identifier root :: tokens)) o rest := by
  obtain ⟨_, h⟩ := h
  simp only [ofTokens, h]
  exact ⟨_, rfl⟩

/-- An operand is read off the front of tokens that do not go on with it. -/
theorem Derives.reads {used : List ConditionToken} (h : Derives used o) (hrest : Ends rest) :
    Reads (ofTokens (used ++ rest)) o rest := by
  cases h with
  | null | bool | number | string => exact ⟨_, rfl⟩
  | path p =>
    have htail := pathTail_append p.below fun t ht => (hrest t ht).1
    exact reads_ofTokens_identifier (reads_ofIdentifier_path htail fun t ht => (hrest t ht).2)
  | @method receiver name m hname =>
    -- The reader takes the name of the method for a segment before it sees the parenthesis.
    have htail : pathTail ((receiver.below ++ [name]).flatMap
          (fun segment => [dot, identifier segment]) ++ leftParen :: rightParen :: rest) =
        .ok (receiver.below ++ [name], leftParen :: rightParen :: rest) :=
      pathTail_append _ (by simp)
    have hcall : call receiver.root (receiver.below ++ [name]) = .ok (.method receiver m) :=
      call_eq_ok_iff.2 ⟨receiver.below, name, m, rfl, hname, rfl⟩
    have htokens : pathTokens receiver ++ [dot, identifier name, leftParen, rightParen] ++ rest =
        identifier receiver.root :: ((receiver.below ++ [name]).flatMap
          (fun segment => [dot, identifier segment]) ++ leftParen :: rightParen :: rest) := by
      simp [pathTokens]
    rw [htokens]
    exact reads_ofTokens_identifier (reads_ofIdentifier_call htail hcall)

end Operand

/-! ## Soundness -/

namespace Expr

variable {tokens rest : List ConditionToken} {e : Expr}

/-- The tokens that are used extend a conjunction by these negations. -/
def ExtendsConjunction (used : List ConditionToken) (others : List Expr) : Prop :=
  ∀ {left e}, Derives .conjunction left e →
    Derives .conjunction (left ++ used) (others.foldl Expr.and e)

/-- The tokens that are used extend a disjunction by these conjunctions. -/
def ExtendsDisjunction (used : List ConditionToken) (others : List Expr) : Prop :=
  ∀ {left e}, Derives .disjunction left e →
    Derives .disjunction (left ++ used) (others.foldl Expr.or e)

/-- A comparison or a bare operand is read as a primary condition. -/
theorem ofOperands_sound (h : Reads (ofOperands tokens) e rest) :
    ∃ used, tokens = used ++ rest ∧ Derives .primary used e := by
  obtain ⟨_, h⟩ := h
  unfold ofOperands at h
  split at h
  · simp at h
  -- What stands behind the operand is a comparison with another one, or does not belong to it.
  · next l middle hlt hleft =>
    obtain ⟨left, rfl, hl⟩ := Operand.sound_ofTokens ⟨hlt, hleft⟩
    split at h
    · split at h
      · simp at h
      · next r after hlt' hright =>
        obtain ⟨rfl, rfl⟩ := eq_of_ok_eq h
        obtain ⟨used, rfl, hr⟩ := Operand.sound_ofTokens ⟨hlt', hright⟩
        exact ⟨_, (List.append_assoc left (_ :: used) after).symm, .compare _ hl hr⟩
    · obtain ⟨rfl, rfl⟩ := eq_of_ok_eq h
      exact ⟨left, rfl, .operand hl⟩

-- Each reader calls the others on fewer tokens, or on the same ones further down the grammar, and
-- so do the lemmas.
mutual

/-- What is read as a primary condition derives it. -/
theorem primary_sound {tokens rest : List ConditionToken} {e : Expr}
    (h : Reads (primary tokens) e rest) :
    ∃ used, tokens = used ++ rest ∧ Derives .primary used e := by
  obtain ⟨_, h⟩ := h
  unfold primary at h
  split at h
  -- A parenthesis opens a group, which holds a whole condition and has to be closed.
  · next tokens _ =>
    split at h
    · simp at h
    · next inner middle hlt hdisjunction =>
      split at h
      · simp at h
      · next after hclosing =>
        obtain ⟨rfl, rfl⟩ := eq_of_ok_eq h
        obtain ⟨used, rfl, hderives⟩ := disjunction_sound ⟨hlt, hdisjunction⟩
        obtain rfl := Operand.closing_eq_ok_iff.1 hclosing
        exact ⟨_, by simp, .group hderives⟩
  · exact ofOperands_sound ⟨_, h⟩
termination_by (tokens.length, 0)

/-- What is read as a negation derives it. -/
theorem negation_sound {tokens rest : List ConditionToken} {e : Expr}
    (h : Reads (negation tokens) e rest) :
    ∃ used, tokens = used ++ rest ∧ Derives .negation used e := by
  obtain ⟨_, h⟩ := h
  unfold negation at h
  split at h
  · split at h
    · simp at h
    · next inner after hlt hnegation =>
      obtain ⟨rfl, rfl⟩ := eq_of_ok_eq h
      obtain ⟨used, rfl, hderives⟩ := negation_sound ⟨hlt, hnegation⟩
      exact ⟨_, rfl, .not hderives⟩
  · obtain ⟨used, rfl, hderives⟩ := primary_sound ⟨_, h⟩
    exact ⟨used, rfl, .negation hderives⟩
termination_by (tokens.length, 1)

/-- What is read as a conjunction derives it. -/
theorem conjunction_sound {tokens rest : List ConditionToken} {e : Expr}
    (h : Reads (conjunction tokens) e rest) :
    ∃ used, tokens = used ++ rest ∧ Derives .conjunction used e := by
  obtain ⟨_, h⟩ := h
  unfold conjunction at h
  split at h
  · simp at h
  · next first middle hlt hnegation =>
    split at h
    · simp at h
    · next others after hle hconjuncts =>
      obtain ⟨rfl, rfl⟩ := eq_of_ok_eq h
      obtain ⟨used, rfl, hfirst⟩ := negation_sound ⟨hlt, hnegation⟩
      obtain ⟨more, rfl, hmore⟩ := conjuncts_sound ⟨hle, hconjuncts⟩
      exact ⟨used ++ more, by simp, hmore (.conjunction hfirst)⟩
termination_by (tokens.length, 2)

/-- What is read as further negations extends a conjunction by them. -/
theorem conjuncts_sound {tokens rest : List ConditionToken} {others : List Expr}
    (h : Reads (conjuncts tokens) others rest) :
    ∃ used, tokens = used ++ rest ∧ ExtendsConjunction used others := by
  obtain ⟨_, h⟩ := h
  unfold conjuncts at h
  split at h
  · split at h
    · simp at h
    · next first middle hlt hnegation =>
      split at h
      · simp at h
      · next others after hle hconjuncts =>
        obtain ⟨rfl, rfl⟩ := eq_of_ok_eq h
        obtain ⟨used, rfl, hfirst⟩ := negation_sound ⟨hlt, hnegation⟩
        obtain ⟨more, rfl, hmore⟩ := conjuncts_sound ⟨hle, hconjuncts⟩
        -- The first further part is joined to what stands before it, and the others to both.
        refine ⟨ConditionToken.and :: used ++ more, by simp, fun hleft => ?_⟩
        rw [← List.append_assoc]
        exact hmore (.and hleft hfirst)
  · obtain ⟨rfl, rfl⟩ := eq_of_ok_eq h
    exact ⟨[], rfl, fun hleft => by rwa [List.append_nil]⟩
termination_by (tokens.length, 3)

/-- What is read as a disjunction derives it. -/
theorem disjunction_sound {tokens rest : List ConditionToken} {e : Expr}
    (h : Reads (disjunction tokens) e rest) :
    ∃ used, tokens = used ++ rest ∧ Derives .disjunction used e := by
  obtain ⟨_, h⟩ := h
  unfold disjunction at h
  split at h
  · simp at h
  · next first middle hlt hconjunction =>
    split at h
    · simp at h
    · next others after hle hdisjuncts =>
      obtain ⟨rfl, rfl⟩ := eq_of_ok_eq h
      obtain ⟨used, rfl, hfirst⟩ := conjunction_sound ⟨hlt, hconjunction⟩
      obtain ⟨more, rfl, hmore⟩ := disjuncts_sound ⟨hle, hdisjuncts⟩
      exact ⟨used ++ more, by simp, hmore (.disjunction hfirst)⟩
termination_by (tokens.length, 4)

/-- What is read as further conjunctions extends a disjunction by them. -/
theorem disjuncts_sound {tokens rest : List ConditionToken} {others : List Expr}
    (h : Reads (disjuncts tokens) others rest) :
    ∃ used, tokens = used ++ rest ∧ ExtendsDisjunction used others := by
  obtain ⟨_, h⟩ := h
  unfold disjuncts at h
  split at h
  · split at h
    · simp at h
    · next first middle hlt hconjunction =>
      split at h
      · simp at h
      · next others after hle hdisjuncts =>
        obtain ⟨rfl, rfl⟩ := eq_of_ok_eq h
        obtain ⟨used, rfl, hfirst⟩ := conjunction_sound ⟨hlt, hconjunction⟩
        obtain ⟨more, rfl, hmore⟩ := disjuncts_sound ⟨hle, hdisjuncts⟩
        -- The first further part is joined to what stands before it, and the others to both.
        refine ⟨ConditionToken.or :: used ++ more, by simp, fun hleft => ?_⟩
        rw [← List.append_assoc]
        exact hmore (.or hleft hfirst)
  · obtain ⟨rfl, rfl⟩ := eq_of_ok_eq h
    exact ⟨[], rfl, fun hleft => by rwa [List.append_nil]⟩
termination_by (tokens.length, 5)

end

/-! ## Completeness -/

variable {middle after : List ConditionToken} {first : Expr} {others : List Expr}

/-- A comparison is read if both its operands are. -/
theorem reads_compare {l r : Operand} {op : CompareOp}
    (hl : Reads (Operand.ofTokens tokens) l (ConditionToken.compare op :: middle))
    (hr : Reads (Operand.ofTokens middle) r rest) :
    Reads (ofOperands tokens) (.compare l op r) rest := by
  obtain ⟨_, hl⟩ := hl
  obtain ⟨_, hr⟩ := hr
  simp only [ofOperands, hl, hr]
  exact ⟨_, rfl⟩

/-- An operand is read by itself if no comparison follows. -/
theorem reads_operand {o : Operand} (ho : Reads (Operand.ofTokens tokens) o rest)
    (hrest : ∀ op, rest.head? ≠ some (ConditionToken.compare op)) :
    Reads (ofOperands tokens) (.operand o) rest := by
  obtain ⟨_, ho⟩ := ho
  unfold ofOperands
  rw [ho]
  dsimp only
  split
  · exact absurd rfl (hrest _)
  · exact ⟨_, rfl⟩

/-- A condition in parentheses is read if what stands in them is. -/
theorem reads_group (h : Reads (disjunction tokens) e (rightParen :: rest)) :
    Reads (primary (leftParen :: tokens)) e rest := by
  obtain ⟨_, h⟩ := h
  rw [primary]
  simp only [h]
  exact ⟨_, rfl⟩

/-- Without a parenthesis, operands are read. -/
theorem reads_primary (h : Reads (ofOperands tokens) e rest)
    (hstart : tokens.head? ≠ some leftParen) : Reads (primary tokens) e rest := by
  unfold primary
  split
  · exact absurd rfl hstart
  · exact h

/-- A "not" is read before what it negates. -/
theorem reads_not (h : Reads (negation tokens) e rest) :
    Reads (negation (ConditionToken.not :: tokens)) (.not e) rest := by
  obtain ⟨_, h⟩ := h
  rw [negation]
  simp only [h]
  exact ⟨_, rfl⟩

/-- Without a "not", a primary condition is read. -/
theorem reads_negation (h : Reads (primary tokens) e rest)
    (hstart : tokens.head? ≠ some ConditionToken.not) : Reads (negation tokens) e rest := by
  unfold negation
  split
  · exact absurd rfl hstart
  · exact h

/-- A conjunction is read as its first negation and the further ones. -/
theorem reads_conjunction (h : Reads (negation tokens) first middle)
    (h' : Reads (conjuncts middle) others rest) :
    Reads (conjunction tokens) (others.foldl Expr.and first) rest := by
  obtain ⟨_, h⟩ := h
  obtain ⟨_, h'⟩ := h'
  rw [conjunction]
  simp only [h, h']
  exact ⟨_, rfl⟩

/-- A further negation stands behind an "and". -/
theorem reads_conjuncts_and (h : Reads (negation tokens) first middle)
    (h' : Reads (conjuncts middle) others rest) :
    Reads (conjuncts (ConditionToken.and :: tokens)) (first :: others) rest := by
  obtain ⟨_, h⟩ := h
  obtain ⟨_, h'⟩ := h'
  rw [conjuncts]
  simp only [h, h']
  exact ⟨_, rfl⟩

/-- Without an "and", there is no further negation. -/
theorem reads_conjuncts_nil (hrest : rest.head? ≠ some ConditionToken.and) :
    Reads (conjuncts rest) [] rest := by
  unfold conjuncts
  split
  · exact absurd rfl hrest
  · exact ⟨_, rfl⟩

/-- A disjunction is read as its first conjunction and the further ones. -/
theorem reads_disjunction (h : Reads (conjunction tokens) first middle)
    (h' : Reads (disjuncts middle) others rest) :
    Reads (disjunction tokens) (others.foldl Expr.or first) rest := by
  obtain ⟨_, h⟩ := h
  obtain ⟨_, h'⟩ := h'
  rw [disjunction]
  simp only [h, h']
  exact ⟨_, rfl⟩

/-- A further conjunction stands behind an "or". -/
theorem reads_disjuncts_or (h : Reads (conjunction tokens) first middle)
    (h' : Reads (disjuncts middle) others rest) :
    Reads (disjuncts (ConditionToken.or :: tokens)) (first :: others) rest := by
  obtain ⟨_, h⟩ := h
  obtain ⟨_, h'⟩ := h'
  rw [disjuncts]
  simp only [h, h']
  exact ⟨_, rfl⟩

/-- Without an "or", there is no further conjunction. -/
theorem reads_disjuncts_nil (hrest : rest.head? ≠ some ConditionToken.or) :
    Reads (disjuncts rest) [] rest := by
  unfold disjuncts
  split
  · exact absurd rfl hrest
  · exact ⟨_, rfl⟩

/-- An operand starts with a token that starts no other condition, and with no comparison. -/
theorem exists_cons_of_operand {o : Operand} (h : o.Derives tokens) :
    ∃ t rest, tokens = t :: rest ∧ t ≠ leftParen ∧ t ≠ ConditionToken.not ∧
      ∀ op, t ≠ ConditionToken.compare op := by
  cases h <;> exact ⟨_, _, rfl, nofun, nofun, nofun⟩

/-- A primary condition does not start with a "not". -/
theorem head?_ne_not_of_primary (h : Derives .primary tokens e) (rest : List ConditionToken) :
    (tokens ++ rest).head? ≠ some ConditionToken.not := by
  cases h with
  | group => simp
  | compare op hleft =>
    obtain ⟨t, more, rfl, -, hnot, -⟩ := exists_cons_of_operand hleft
    simpa using hnot
  | operand h =>
    obtain ⟨t, more, rfl, -, hnot, -⟩ := exists_cons_of_operand h
    simpa using hnot

/-- The tokens do not go on with a primary condition. -/
def Ends (rest : List ConditionToken) : Prop :=
  Operand.Ends rest ∧ ∀ op, rest.head? ≠ some (ConditionToken.compare op)

/-- By a rule that can be repeated, the reader goes on with what it makes of the rest. -/
def Rule.ReadsBy (tokens : List ConditionToken) (e : Expr) : Rule → Prop
  | disjunction => ∀ {rest others after}, Ends rest → rest.head? ≠ some ConditionToken.and →
    Reads (disjuncts rest) others after →
    Reads (Expr.disjunction (tokens ++ rest)) (others.foldl Expr.or e) after
  | conjunction => ∀ {rest others after}, Ends rest → Reads (conjuncts rest) others after →
    Reads (Expr.conjunction (tokens ++ rest)) (others.foldl Expr.and e) after
  | negation => ∀ {rest}, Ends rest → Reads (Expr.negation (tokens ++ rest)) e rest
  | primary => ∀ {rest}, Ends rest → Reads (Expr.primary (tokens ++ rest)) e rest

/-- Tokens that derive a condition are read as this condition. -/
theorem Derives.readsBy {rule : Rule} (h : Derives rule tokens e) : rule.ReadsBy tokens e := by
  -- A derivation grows to the left, while the reader goes on to the right: what is joined last is
  -- already among the others when the first part is read.
  induction h with
  | disjunction _ ih =>
    intro rest others after hends hand hothers
    exact reads_disjunction (ih hends (reads_conjuncts_nil hand)) hothers
  | @or left right e f _ _ ihleft ihright =>
    intro rest others after hends hand hothers
    have hright := ihright hends (reads_conjuncts_nil hand)
    have hor : Ends (ConditionToken.or :: (right ++ rest)) := ⟨by simp [Operand.Ends], by simp⟩
    rw [List.append_assoc]
    exact ihleft hor (by simp) (reads_disjuncts_or hright hothers)
  | conjunction _ ih =>
    intro rest others after hends hothers
    exact reads_conjunction (ih hends) hothers
  | @and left right e f _ _ ihleft ihright =>
    intro rest others after hends hothers
    have hand : Ends (ConditionToken.and :: (right ++ rest)) := ⟨by simp [Operand.Ends], by simp⟩
    rw [List.append_assoc]
    exact ihleft hand (reads_conjuncts_and (ihright hends) hothers)
  | not _ ih => exact fun hends => reads_not (ih hends)
  | negation h ih =>
    exact fun hends => reads_negation (ih hends) (head?_ne_not_of_primary h _)
  | @group tokens e _ ih =>
    intro rest hends
    have hclosing : Ends (rightParen :: rest) := ⟨by simp [Operand.Ends], by simp⟩
    have hor : (rightParen :: rest).head? ≠ some ConditionToken.or := by simp
    have hinner := ih hclosing (by simp) (reads_disjuncts_nil hor)
    rw [List.append_assoc]
    exact reads_group hinner
  | @compare left right l r op hleft hright =>
    intro rest hends
    obtain ⟨t, more, rfl, hparen, -⟩ := exists_cons_of_operand hleft
    have hcompare : Operand.Ends (ConditionToken.compare op :: (right ++ rest)) := by
      simp [Operand.Ends]
    have hreads := reads_compare (hleft.reads hcompare) (hright.reads hends.1)
    rw [List.append_assoc]
    exact reads_primary hreads (by simpa using hparen)
  | operand h =>
    intro rest hends
    obtain ⟨t, more, rfl, hparen, -⟩ := exists_cons_of_operand h
    exact reads_primary (reads_operand (h.reads hends.1) hends.2) (by simpa using hparen)

/-! ## Whole sequences -/

/-- Tokens are read as a condition if they derive it. -/
theorem ofTokens_eq_ok_iff : ofTokens tokens = .ok e ↔ Derives .disjunction tokens e := by
  constructor
  · intro h
    unfold ofTokens at h
    split at h
    · simp at h
    · next hlt hread =>
      obtain rfl := Except.ok.inj h
      obtain ⟨used, rfl, hderives⟩ := disjunction_sound ⟨hlt, hread⟩
      rwa [List.append_nil]
    · simp at h
  -- Behind the whole condition stands nothing that could go on with it.
  · intro h
    have hends : Ends [] := ⟨by simp [Operand.Ends], by simp⟩
    have hread := h.readsBy hends (by simp) (reads_disjuncts_nil (by simp))
    rw [List.append_nil] at hread
    obtain ⟨_, hread⟩ := hread
    simp only [ofTokens, hread]
    rfl

/-- Tokens derive one condition at most. -/
theorem Derives.unique {f : Expr} (h : Derives .disjunction tokens e)
    (h' : Derives .disjunction tokens f) : e = f :=
  Except.ok.inj ((ofTokens_eq_ok_iff.2 h).symm.trans (ofTokens_eq_ok_iff.2 h'))

end Expr

end SqlTemplate
