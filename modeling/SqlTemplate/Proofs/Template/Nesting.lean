import SqlTemplate.Proofs.Template.Marks

/-!
# Which blocks are open

Whether the blocks of a sequence of tokens are closed in order is a matter of counting: no initial
part may close more blocks than it opens (`NeverOverclosed`), and the whole must close as many
(`Balanced`). A loop is open behind tokens if the tokens after its directive never close more
than they open (`InLoop`).

`Nested` lays the same tokens out along the stack of open blocks: balanced tokens, then the
directive of the outermost open block, and so on inwards. From this it is read off how many blocks
are open (`Nested.opened_eq`) and whether one of them is a loop (`Nested.inLoop_iff`).
-/

namespace SqlTemplate

namespace TokenKind

/-- The token is the start of a loop. -/
def isLoop : TokenKind → Bool
  | loop _ => true
  | _ => false

end TokenKind

namespace Token

/-- The number of blocks that the tokens open. -/
def opened (tokens : List Token) : Nat :=
  tokens.countP fun token => token.kind.opens?.isSome

/-- The number of blocks that the tokens close. -/
def closed (tokens : List Token) : Nat :=
  tokens.countP fun token => token.kind == .close

/-- No initial part closes more blocks than it opens. -/
def NeverOverclosed (tokens : List Token) : Prop :=
  ∀ part, part <+: tokens → closed part ≤ opened part

/-- Every block that is opened is closed, and none before it is opened. -/
structure Balanced (tokens : List Token) : Prop where
  /-- No block is closed before it is opened. -/
  never : NeverOverclosed tokens
  /-- As many blocks are closed as are opened. -/
  total : opened tokens = closed tokens

/-- Behind these tokens a loop is open. -/
def InLoop (tokens : List Token) : Prop :=
  ∃ outer token inner, tokens = outer ++ token :: inner ∧ token.kind.isLoop = true ∧
    NeverOverclosed inner

variable {a b : List Token} {token : Token}

/-- Blocks that open in two parts are counted together. -/
@[simp] theorem opened_append (a b : List Token) : opened (a ++ b) = opened a + opened b :=
  List.countP_append

/-- So are those that close. -/
@[simp] theorem closed_append (a b : List Token) : closed (a ++ b) = closed a + closed b :=
  List.countP_append

/-- The first token is counted with the others, if it opens a block. -/
theorem opened_cons (token : Token) (tokens : List Token) :
    opened (token :: tokens) = opened [token] + opened tokens :=
  opened_append [token] tokens

/-- So it is, if it closes one. -/
theorem closed_cons (token : Token) (tokens : List Token) :
    closed (token :: tokens) = closed [token] + closed tokens :=
  closed_append [token] tokens

/-- A token that opens a block closes none. -/
theorem counts_of_opens {directive : String} (h : token.kind.opens? = some directive) :
    opened [token] = 1 ∧ closed [token] = 0 := by
  obtain ⟨kind, offset⟩ := token
  cases kind <;> simp_all [opened, closed, TokenKind.opens?]

/-- The end of a block opens none. -/
theorem counts_of_close (h : token.kind = .close) : opened [token] = 0 ∧ closed [token] = 1 := by
  obtain ⟨kind, offset⟩ := token
  obtain rfl : kind = .close := h
  exact ⟨rfl, rfl⟩

/-- All other tokens neither open nor close a block. -/
theorem counts_of_leaf (hopens : token.kind.opens? = none) (hclose : token.kind ≠ .close) :
    opened [token] = 0 ∧ closed [token] = 0 := by
  simp [opened, closed, hopens, hclose]

/-- A loop opens a block. -/
theorem counts_of_isLoop (h : token.kind.isLoop = true) :
    opened [token] = 1 ∧ closed [token] = 0 := by
  obtain ⟨kind, offset⟩ := token
  cases kind with
  | loop path => exact ⟨rfl, rfl⟩
  | _ => exact absurd h Bool.false_ne_true

/-! ## Putting tokens together -/

/-- Without tokens nothing is closed. -/
theorem neverOverclosed_nil : NeverOverclosed [] := by
  intro part hpart
  obtain rfl := List.prefix_nil.1 hpart
  exact le_refl _

/-- No more blocks close than open in the whole. -/
theorem NeverOverclosed.total (h : NeverOverclosed a) : closed a ≤ opened a :=
  h a (List.prefix_refl a)

/-- What starts such tokens is such itself. -/
theorem NeverOverclosed.of_isPrefix (h : NeverOverclosed b) (hab : a <+: b) : NeverOverclosed a :=
  fun part hpart => h part (hpart.trans hab)

/-- Two such parts are such together. -/
theorem NeverOverclosed.append (ha : NeverOverclosed a) (hb : NeverOverclosed b) :
    NeverOverclosed (a ++ b) := by
  intro part hpart
  -- The part ends within `a`, or else it holds all of `a`, where no more was closed than opened.
  rcases List.prefix_or_prefix_of_prefix hpart (List.prefix_append a b) with hpart | ⟨rest, rfl⟩
  · exact ha part hpart
  · have hatotal := ha.total
    have hbrest := hb rest ((List.prefix_append_right_inj a).1 hpart)
    rw [closed_append, opened_append]
    omega

/-- One more token closes too much only if it is an end and no block is open. -/
theorem NeverOverclosed.snoc (h : NeverOverclosed a)
    (htoken : token.kind = .close → opened a ≠ closed a) : NeverOverclosed (a ++ [token]) := by
  have htotal := h.total
  intro part hpart
  rcases List.prefix_concat_iff.1 hpart with rfl | hpart
  · rw [closed_append, opened_append]
    by_cases hclose : token.kind = .close
    · have hne := htoken hclose
      have hcounts := counts_of_close hclose
      omega
    · have hzero : closed [token] = 0 := by simp [closed, hclose]
      omega
  · exact h part hpart

/-- Without tokens nothing is open. -/
theorem balanced_nil : Balanced [] :=
  ⟨neverOverclosed_nil, rfl⟩

/-- Two balanced parts are balanced together. -/
theorem Balanced.append (ha : Balanced a) (hb : Balanced b) : Balanced (a ++ b) := by
  refine ⟨ha.never.append hb.never, ?_⟩
  rw [opened_append, closed_append, ha.total, hb.total]

/-- A token that neither opens nor closes a block is balanced. -/
theorem balanced_leaf (hopens : token.kind.opens? = none) (hclose : token.kind ≠ .close) :
    Balanced [token] := by
  have hcounts := counts_of_leaf hopens hclose
  exact ⟨neverOverclosed_nil.snoc fun h => absurd h hclose, hcounts.1.trans hcounts.2.symm⟩

/-- A block with balanced tokens in it is balanced. -/
theorem Balanced.block {directive : String} {opening closing : Token} (h : Balanced a)
    (hopening : opening.kind.opens? = some directive) (hclosing : closing.kind = .close) :
    Balanced (opening :: a ++ [closing]) := by
  have hopen := counts_of_opens hopening
  have hclose := counts_of_close hclosing
  have htotal := h.total
  have hstart : NeverOverclosed [opening] :=
    neverOverclosed_nil.snoc fun hkind => by simp [hkind, TokenKind.opens?] at hopening
  refine ⟨(hstart.append h.never).snoc fun _ => ?_, ?_⟩
  · simp only [opened_append, closed_append]
    omega
  · rw [opened_append, closed_append, opened_cons, closed_cons]
    omega

/-- Balanced tokens leave no loop open. -/
theorem Balanced.not_inLoop (h : Balanced a) : ¬ InLoop a := by
  rintro ⟨outer, token, inner, rfl, hloop, hinner⟩
  have hcounts := counts_of_isLoop hloop
  have houter := (h.never.of_isPrefix (List.prefix_append outer _)).total
  have htotal := h.total
  have hinnerTotal := hinner.total
  rw [opened_append, closed_append, opened_cons, closed_cons] at htotal
  omega

end Token

/-! ## Along the stack of open blocks -/

/-- What an open block says of the token that opened it. -/
abbrev Header := BlockKind × Nat

/-- The token opened the block. -/
structure Token.Opens (token : Token) (header : Header) : Prop where
  /-- Its directive is the one that messages give. -/
  directive : token.kind.opens? = some header.1.directive
  /-- It is where the block starts. -/
  offset : token.offset = header.2
  /-- It is the start of a loop if the block is one. -/
  loop : token.kind.isLoop = true ↔ ∃ path, header.1 = .loop path

/-- The tokens that have left these blocks open, the innermost first: balanced ones, but for those
that opened the blocks. -/
inductive Nested : List Token → List Header → Prop
  /-- No block is open. -/
  | nil {tokens : List Token} (h : Token.Balanced tokens) : Nested tokens []
  /-- The innermost block is open inside the others. -/
  | cons {outer inner : List Token} {headers : List Header} {token : Token} {header : Header}
      (houter : Nested outer headers) (hopens : token.Opens header)
      (hinner : Token.Balanced inner) : Nested (outer ++ token :: inner) (header :: headers)

namespace Nested

open Token

variable {tokens more : List Token} {headers : List Header} {header : Header} {token : Token}

/-- Balanced tokens leave open what was open before. -/
theorem append (h : Nested tokens headers) (hmore : Balanced more) :
    Nested (tokens ++ more) headers := by
  cases h with
  | nil h => exact .nil (h.append hmore)
  | cons houter hopens hinner =>
    rw [List.append_assoc, List.cons_append]
    exact .cons houter hopens (hinner.append hmore)

/-- An end closes the innermost block. -/
theorem close (h : Nested tokens (header :: headers)) (htoken : token.kind = .close) :
    Nested (tokens ++ [token]) headers := by
  cases h with
  | cons houter hopens hinner =>
    rw [List.append_assoc]
    exact houter.append (hinner.block hopens.directive htoken)

/-- What is opened and not closed is open. -/
theorem opened_eq (h : Nested tokens headers) : opened tokens = closed tokens + headers.length := by
  induction h with
  | nil h => exact h.total
  | cons _ hopens hinner ih =>
    have hcounts := counts_of_opens hopens.directive
    have htotal := hinner.total
    rw [opened_append, closed_append, opened_cons, closed_cons, List.length_cons]
    omega

/-- A loop is open if some open block is one. -/
theorem inLoop_iff (h : Nested tokens headers) :
    InLoop tokens ↔ ∃ path offset, (BlockKind.loop path, offset) ∈ headers := by
  induction h with
  | nil h => simpa using h.not_inLoop
  | @cons outer inner headers token header houter hopens hinner ih =>
    have hinnermost : token.kind.isLoop = true →
        ∃ path offset, (BlockKind.loop path, offset) ∈ header :: headers := by
      intro hloop
      obtain ⟨path, hpath⟩ := hopens.loop.1 hloop
      refine ⟨path, header.2, ?_⟩
      rw [← hpath]
      exact List.mem_cons_self
    constructor
    · rintro ⟨before, loop, after, htokens, hloop, hafter⟩
      -- The loop is opened before the innermost block, or is this block, or else it is closed.
      rcases List.append_eq_append_iff.1 htokens with ⟨gap, rfl, hgap⟩ | ⟨gap, rfl, hgap⟩
      · cases gap with
        | nil =>
          obtain ⟨rfl, rfl⟩ := List.cons.inj hgap
          exact hinnermost hloop
        | cons first gap =>
          obtain ⟨rfl, rfl⟩ := List.cons.inj hgap
          exact absurd ⟨gap, loop, after, rfl, hloop, hafter⟩ hinner.not_inLoop
      · cases gap with
        | nil =>
          obtain ⟨rfl, rfl⟩ := List.cons.inj hgap
          exact hinnermost hloop
        | cons first gap =>
          obtain ⟨rfl, rfl⟩ := List.cons.inj hgap
          have hgapNever := hafter.of_isPrefix (List.prefix_append gap _)
          obtain ⟨path, offset, hmem⟩ := ih.1 ⟨before, loop, gap, rfl, hloop, hgapNever⟩
          exact ⟨path, offset, List.mem_cons_of_mem _ hmem⟩
    · rintro ⟨path, offset, hmem⟩
      rcases List.mem_cons.1 hmem with rfl | hmem
      · exact ⟨outer, token, inner, rfl, hopens.loop.2 ⟨path, rfl⟩, hinner.never⟩
      · obtain ⟨before, loop, after, rfl, hloop, hafter⟩ := ih.2 ⟨path, offset, hmem⟩
        refine ⟨before, loop, after ++ token :: inner, by simp, hloop, ?_⟩
        rw [List.append_cons]
        refine (hafter.snoc fun hkind => ?_).append hinner.never
        have hdirective := hopens.directive
        simp [hkind, TokenKind.opens?] at hdirective

end Nested

end SqlTemplate
