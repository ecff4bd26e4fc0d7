import SqlTemplate.Proofs.Template.Nesting

/-!
# Which templates parse

`WellFormed` says of a sequence of tokens that its directives hold what they must, that what belongs
to a loop body stands in one, and that blocks are closed in order. `Fault` says what can be wrong
with one token behind others. A template parses exactly if its tokens are well-formed; otherwise
its fault is that of the first token with which something is wrong, or, if there is none, it names
the innermost block that is left open (`Template.parse_bracketing`).

The proof goes along the tokens. Where the blocks of the builder are those that the tokens before
have left open (`Nested`), the next token is refused with its `Fault` and only then
(`Builder.accept_eq_error_iff`), and if it is accepted, the same holds behind it
(`Builder.Takes.nested`).
-/

namespace SqlTemplate

namespace TokenKind

/-- The path that a directive holds. -/
def path? : TokenKind → Option String
  | bind source _ | embedded source _ | loop source => some source
  | _ => none

/-- The name of a directive that belongs to a loop body. -/
def loopOnly? : TokenKind → Option String
  | connector _ => some "NEXT"
  | first => some "FIRST"
  | last => some "LAST"
  | _ => none

end TokenKind

namespace Token

/-- What is wrong with a token behind others. -/
inductive Fault (before : List Token) : Token → ParseError → Prop
  /-- It holds no path. -/
  | path {kind : TokenKind} {offset : Nat} {source : String} (hkind : kind.path? = some source)
      (hpath : ∀ path : Path, path.IsDotted → path.text ≠ source) :
      Fault before ⟨kind, offset⟩ (.invalidExpression source offset .path)
  /-- It holds no condition. -/
  | condition {offset : Nat} {source : String} {e : ConditionError}
      (hparse : Expr.parse source = .error e) :
      Fault before ⟨.branch source, offset⟩ (.invalidExpression source offset (.condition e))
  /-- It stands outside every loop. -/
  | outsideLoop {kind : TokenKind} {offset : Nat} {name : String}
      (hkind : kind.loopOnly? = some name) (hloop : ¬ InLoop before) :
      Fault before ⟨kind, offset⟩ (.outsideLoop name offset)
  /-- It stands in a loop, but is not quoted. -/
  | connector {offset : Nat} {argument : String} (hloop : InLoop before)
      (hquoted : ∀ inner, ¬ IsQuoted argument inner) :
      Fault before ⟨.connector argument, offset⟩ (.invalidExpression argument offset .connector)
  /-- It closes no block. -/
  | unopened {offset : Nat} (hclosed : opened before = closed before) :
      Fault before ⟨.close, offset⟩ (.unmatched "END" offset)

/-- With no token is anything wrong. -/
def Faultless (tokens : List Token) : Prop :=
  ∀ before token after, tokens = before ++ token :: after → ∀ e, ¬ Fault before token e

/-- The fault is that of the first token with which something is wrong. -/
def FirstFault (tokens : List Token) (e : ParseError) : Prop :=
  ∃ before token after, tokens = before ++ token :: after ∧ Faultless before ∧ Fault before token e

/-- With no token is anything wrong, but blocks are left open, and the fault names the innermost one
of them. -/
def Unclosed (tokens : List Token) (e : ParseError) : Prop :=
  Faultless tokens ∧ ∃ outer token inner directive, tokens = outer ++ token :: inner ∧
    token.kind.opens? = some directive ∧ Balanced inner ∧ e = .unmatched directive token.offset

/-- The tokens are those of a template. -/
structure WellFormed (tokens : List Token) : Prop where
  /-- What must be a path is one. -/
  paths : ∀ token ∈ tokens, ∀ source, token.kind.path? = some source →
    ∃ path : Path, path.IsDotted ∧ path.text = source
  /-- What must be a condition is one. -/
  conditions : ∀ token ∈ tokens, ∀ source, token.kind = .branch source →
    ∃ condition, Expr.parse source = .ok condition
  /-- Connectors are quoted. -/
  connectors : ∀ token ∈ tokens, ∀ argument, token.kind = .connector argument →
    ∃ inner, IsQuoted argument inner
  /-- What belongs to a loop body stands in a loop. -/
  loops : ∀ before token after, tokens = before ++ token :: after →
    token.kind.loopOnly?.isSome = true → InLoop before
  /-- Blocks are closed in order. -/
  balanced : Balanced tokens

variable {tokens : List Token} {token : Token} {e : ParseError}

/-- Without tokens there is no fault. -/
theorem faultless_nil : Faultless [] :=
  fun _ _ _ h => absurd h (List.append_ne_nil_of_right_ne_nil _ (List.cons_ne_nil _ _)).symm

/-- One more token with which nothing is wrong. -/
theorem Faultless.snoc (h : Faultless tokens) (htoken : ∀ e, ¬ Fault tokens token e) :
    Faultless (tokens ++ [token]) := by
  intro before other after hsplit
  -- The token is the last one, or it stands among those before.
  rcases List.append_eq_append_iff.1 hsplit with ⟨gap, rfl, hgap⟩ | ⟨gap, rfl, hgap⟩
  · cases gap with
    | nil =>
      obtain ⟨rfl, -⟩ := List.cons.inj hgap
      rwa [List.append_nil]
    | cons first gap => simp at hgap
  · cases gap with
    | nil =>
      obtain ⟨rfl, -⟩ := List.cons.inj hgap
      rwa [List.append_nil] at htoken
    | cons first gap =>
      obtain ⟨rfl, -⟩ := List.cons.inj hgap
      exact h before other gap rfl

/-- Without a fault no block is closed before it is opened. -/
theorem Faultless.never (h : Faultless tokens) : NeverOverclosed tokens := by
  induction tokens using List.reverseRecOn with
  | nil => exact neverOverclosed_nil
  | append_singleton tokens token ih =>
    have hbefore : Faultless tokens := fun before other after hsplit =>
      h before other (after ++ [token]) (by rw [hsplit]; simp)
    refine (ih hbefore).snoc fun hkind hclosed => ?_
    obtain ⟨kind, offset⟩ := token
    obtain rfl : kind = .close := hkind
    exact h tokens _ [] rfl _ (.unopened hclosed)

/-- Tokens are well-formed if nothing is wrong with one of them and no block is left open. -/
theorem wellFormed_iff : WellFormed tokens ↔ Faultless tokens ∧ opened tokens = closed tokens := by
  constructor
  · intro h
    refine ⟨fun before token after hsplit e hfault => ?_, h.balanced.total⟩
    have hmem : token ∈ tokens := by simp [hsplit]
    cases hfault with
    | path hkind hpath =>
      obtain ⟨path, hdotted, htext⟩ := h.paths _ hmem _ hkind
      exact hpath path hdotted htext
    | condition hparse =>
      obtain ⟨condition, hok⟩ := h.conditions _ hmem _ rfl
      simp [hparse] at hok
    | outsideLoop hkind hloop => exact hloop (h.loops _ _ _ hsplit (by rw [hkind]; rfl))
    | connector hloop hquoted =>
      obtain ⟨inner, hinner⟩ := h.connectors _ hmem _ rfl
      exact hquoted inner hinner
    | @unopened offset hclosed =>
      have hpart := h.balanced.never (before ++ [⟨.close, offset⟩]) ⟨after, by simp [hsplit]⟩
      have hcounts : opened [⟨.close, offset⟩] = 0 ∧ closed [⟨.close, offset⟩] = 1 :=
        counts_of_close rfl
      rw [opened_append, closed_append] at hpart
      omega
  · rintro ⟨hfaultless, htotal⟩
    refine ⟨fun token hmem source hkind => ?_, fun token hmem source hkind => ?_,
      fun token hmem argument hkind => ?_, fun before token after hsplit hkind => ?_,
      hfaultless.never, htotal⟩
    · obtain ⟨before, after, hsplit⟩ := List.append_of_mem hmem
      by_contra hnone
      refine hfaultless before token after hsplit _ (.path hkind fun path hdotted htext => ?_)
      exact hnone ⟨path, hdotted, htext⟩
    · obtain ⟨before, after, hsplit⟩ := List.append_of_mem hmem
      obtain ⟨kind, offset⟩ := token
      obtain rfl : kind = .branch source := hkind
      cases hparse : Expr.parse source with
      | ok condition => exact ⟨condition, rfl⟩
      | error e => exact absurd (.condition hparse) (hfaultless before _ after hsplit _)
    · obtain ⟨before, after, hsplit⟩ := List.append_of_mem hmem
      obtain ⟨kind, offset⟩ := token
      obtain rfl : kind = .connector argument := hkind
      by_contra hnone
      -- Outside a loop it is that which is wrong.
      by_cases hloop : InLoop before
      · refine hfaultless before _ after hsplit _ (.connector hloop fun inner hinner => ?_)
        exact hnone ⟨inner, hinner⟩
      · exact hfaultless before _ after hsplit _ (.outsideLoop rfl hloop)
    · obtain ⟨name, hname⟩ := Option.isSome_iff_exists.1 hkind
      by_contra hloop
      exact hfaultless before token after hsplit _ (.outsideLoop hname hloop)

end Token

/-! ## One token -/

/-- What the block says of the token that opened it. -/
def OpenBlock.header (b : OpenBlock) : Header :=
  (b.kind, b.offset)

namespace Builder

open Token

variable {b b' : Builder} {token : Token} {tokens : List Token} {e : ParseError}

/-- The blocks that are open, the innermost first. -/
def headers (b : Builder) : List Header :=
  b.blocks.map OpenBlock.header

/-- A further node opens no block. -/
@[simp] theorem headers_push (b : Builder) (node : Node) : (b.push node).headers = b.headers := by
  unfold push headers
  split
  · next h => rw [h]
  · next h => rw [h]; rfl

/-- A block that opens is the innermost one. -/
theorem headers_enter (b : Builder) (kind : BlockKind) (offset : Nat) :
    (b.enter kind offset).headers = (kind, offset) :: b.headers := rfl

/-- Beginning a second part leaves the block where it is. -/
theorem header_switch {block switched : OpenBlock} (h : block.switch? = some switched) :
    switched.header = block.header := by
  unfold OpenBlock.switch? at h
  split at h
  · obtain rfl := Option.some.inj h
    rfl
  · simp at h

/-- The builder is in a loop if one of its open blocks is one. -/
theorem inLoop_iff :
    b.inLoop = true ↔ ∃ path offset, (BlockKind.loop path, offset) ∈ b.headers := by
  rw [inLoop, List.any_eq_true]
  constructor
  · rintro ⟨block, hmem, hloop⟩
    obtain ⟨kind, offset, yes, latest⟩ := block
    cases kind with
    | loop path => exact ⟨path, offset, List.mem_map.2 ⟨_, hmem, rfl⟩⟩
    | _ => exact absurd hloop Bool.false_ne_true
  · rintro ⟨path, offset, hmem⟩
    obtain ⟨block, hblock, heq⟩ := List.mem_map.1 hmem
    have hkind : block.kind = .loop path := congrArg Prod.fst heq
    refine ⟨block, hblock, ?_⟩
    rw [OpenBlock.isLoop, hkind]

/-- A token that opens a block says what the block says. -/
theorem opens_of_standsFor {nullDisallowed : Bool} {kind : BlockKind}
    (h : (Mark.opening kind).StandsFor nullDisallowed token.kind) :
    token.Opens (kind, token.offset) := by
  obtain ⟨tokenKind, offset⟩ := token
  cases h with
  | loop => exact ⟨rfl, rfl, fun _ => ⟨_, rfl⟩, fun _ => rfl⟩
  | branch | scope | first | last =>
    exact ⟨rfl, rfl, fun h => absurd h Bool.false_ne_true, fun ⟨_, h⟩ => nomatch h⟩

/-- The open blocks are those that the tokens have left open. -/
theorem Takes.nested (h : b.Takes token b') (hnested : Nested tokens b.headers) :
    Nested (tokens ++ [token]) b'.headers := by
  cases h with
  | leaf _ _ hopens hclose =>
    rw [headers_push]
    exact hnested.append (balanced_leaf hopens hclose)
  | @enter kind hstands =>
    rw [headers_enter]
    exact .cons hnested (opens_of_standsFor hstands) balanced_nil
  | @switch block switched outer text hblocks hswitch hkind =>
    -- A line that switches the sides changes no header.
    have hheaders : headers { b with blocks := switched :: outer } = b.headers := by
      rw [headers, headers, hblocks, List.map_cons, List.map_cons, header_switch hswitch]
    rw [hheaders]
    exact hnested.append (balanced_leaf (by rw [hkind]; rfl) (by rw [hkind]; nofun))
  | @close block outer hblocks hkind =>
    rw [headers, hblocks, List.map_cons] at hnested
    rw [headers_push]
    exact hnested.close hkind

/-- A text that is no path is the fault of its directive. -/
theorem path_eq_error_iff {source : String} {offset : Nat} :
    path source offset = .error e ↔
      (∀ p : Path, p.IsDotted → p.text ≠ source) ∧ e = .invalidExpression source offset .path := by
  have hsome : ∀ p : Path, Path.parse? source = some p ↔ p.IsDotted ∧ p.text = source :=
    fun _ => Path.parse?_eq_some_iff
  unfold path
  cases hpath : Path.parse? source with
  | some p =>
    have hp := (hsome p).1 hpath
    simpa using fun h => absurd hp.2 (h p hp.1)
  | none =>
    have hnone : ∀ p : Path, p.IsDotted → p.text ≠ source := fun p hdotted htext => by
      have hsource := (hsome p).2 ⟨hdotted, htext⟩
      simp [hpath] at hsource
    exact ⟨fun h => ⟨hnone, (Except.error.inj h).symm⟩, fun h => congrArg Except.error h.2.symm⟩

/-- A directive of a loop body outside every loop is a fault. -/
theorem requireLoop_eq_error_iff {name : String} {offset : Nat} :
    b.requireLoop name offset = .error e ↔ b.inLoop = false ∧ e = .outsideLoop name offset := by
  unfold requireLoop
  cases b.inLoop with
  | true => simp
  | false => simpa using eq_comm

/-- A directive with a path, which may stand anywhere, has the fault of its path only. -/
theorem fault_iff_of_path {kind : TokenKind} {offset : Nat} {source : String}
    (hkind : kind.path? = some source) :
    Fault tokens ⟨kind, offset⟩ e ↔
      (∀ p : Path, p.IsDotted → p.text ≠ source) ∧ e = .invalidExpression source offset .path := by
  constructor
  · intro h
    cases h with
    | path hkind' hpath =>
      obtain rfl := Option.some.inj (hkind.symm.trans hkind')
      exact ⟨hpath, rfl⟩
    | outsideLoop hkind' =>
      cases kind <;> simp [TokenKind.path?, TokenKind.loopOnly?] at hkind hkind'
    | condition | connector | unopened => simp [TokenKind.path?] at hkind
  · rintro ⟨hpath, rfl⟩
    exact .path hkind hpath

/-- A block of a loop body has the fault of its place only. -/
theorem fault_iff_of_loopOnly {kind : TokenKind} {offset : Nat} {name : String}
    (hkind : kind.loopOnly? = some name) (hopens : kind.opens?.isSome = true) :
    Fault tokens ⟨kind, offset⟩ e ↔ ¬ InLoop tokens ∧ e = .outsideLoop name offset := by
  constructor
  · intro h
    cases h with
    | path hkind' => cases kind <;> simp [TokenKind.path?, TokenKind.loopOnly?] at hkind hkind'
    | outsideLoop hkind' hloop =>
      obtain rfl := Option.some.inj (hkind.symm.trans hkind')
      exact ⟨hloop, rfl⟩
    | connector => simp [TokenKind.opens?] at hopens
    | condition | unopened => simp [TokenKind.loopOnly?] at hkind
  · rintro ⟨hloop, rfl⟩
    exact .outsideLoop hkind hloop

/-- A conditional block has the fault of its condition only. -/
theorem fault_iff_of_branch {offset : Nat} {source : String} :
    Fault tokens ⟨.branch source, offset⟩ e ↔
      ∃ fault, Expr.parse source = .error fault ∧
        e = .invalidExpression source offset (.condition fault) := by
  constructor
  · intro h
    cases h with
    | path hkind | outsideLoop hkind => simp [TokenKind.path?, TokenKind.loopOnly?] at hkind
    | condition hparse => exact ⟨_, hparse, rfl⟩
  · rintro ⟨fault, hparse, rfl⟩
    exact .condition hparse

/-- An end is a fault only if it closes no block. -/
theorem fault_iff_of_close {offset : Nat} :
    Fault tokens ⟨.close, offset⟩ e ↔
      opened tokens = closed tokens ∧ e = .unmatched "END" offset := by
  constructor
  · intro h
    cases h with
    | path hkind | outsideLoop hkind => simp [TokenKind.path?, TokenKind.loopOnly?] at hkind
    | unopened hclosed => exact ⟨hclosed, rfl⟩
  · rintro ⟨hclosed, rfl⟩
    exact .unopened hclosed

/-- There is no connector in an argument that is not quoted. -/
theorem connector?_eq_none_iff {argument : String} :
    connector? argument = none ↔ ∀ inner, ¬ IsQuoted argument inner := by
  rw [Option.eq_none_iff_forall_ne_some]
  constructor
  · intro h inner hinner
    have hsingle : Text.Undoubled inner (String.ofList (singleQuotes inner)).toList := by
      rw [String.toList_ofList]
      exact undoubled_singleQuotes inner
    exact h _ (connector?_eq_some_iff.2 ⟨inner, hinner, hsingle⟩)
  · intro h text htext
    obtain ⟨inner, hinner, -⟩ := connector?_eq_some_iff.1 htext
    exact h inner hinner

/-- A connector has the fault of its place, or else, in a loop, that of its argument. -/
theorem fault_iff_of_connector {offset : Nat} {argument : String} :
    Fault tokens ⟨.connector argument, offset⟩ e ↔
      (¬ InLoop tokens ∧ e = .outsideLoop "NEXT" offset) ∨
      (InLoop tokens ∧ connector? argument = none ∧
        e = .invalidExpression argument offset .connector) := by
  rw [connector?_eq_none_iff]
  constructor
  · intro h
    cases h with
    | path hkind => simp [TokenKind.path?] at hkind
    | outsideLoop hkind hloop =>
      obtain rfl := Option.some.inj hkind
      exact .inl ⟨hloop, rfl⟩
    | connector hloop hquoted => exact .inr ⟨hloop, hquoted, rfl⟩
  · rintro (⟨hloop, rfl⟩ | ⟨hloop, hquoted, rfl⟩)
    · exact .outsideLoop rfl hloop
    · exact .connector hloop hquoted

/-- A token without a payload and without a place of its own has no fault. -/
theorem not_fault {kind : TokenKind} {offset : Nat} (hpath : kind.path? = none)
    (hloop : kind.loopOnly? = none) (hbranch : ∀ source, kind ≠ .branch source)
    (hclose : kind ≠ .close) : ¬ Fault tokens ⟨kind, offset⟩ e := by
  intro h
  cases h with
  | path hkind => simp [hpath] at hkind
  | condition => exact hbranch _ rfl
  | outsideLoop hkind => simp [hloop] at hkind
  | connector => simp [TokenKind.loopOnly?] at hloop
  | unopened => exact hclose rfl

/-- A token is refused if something is wrong with it behind the tokens before. -/
theorem accept_eq_error_iff (hnested : Nested tokens b.headers) :
    b.accept token = .error e ↔ Fault tokens token e := by
  have hinLoop : b.inLoop = true ↔ InLoop tokens := by
    rw [hnested.inLoop_iff, inLoop_iff]
  have hloop : b.inLoop = false ↔ ¬ InLoop tokens := by
    rw [← hinLoop, Bool.not_eq_true]
  obtain ⟨kind, offset⟩ := token
  cases kind with
  | sql | scope | otherwise =>
    refine ⟨fun h => ?_, fun h => absurd h (not_fault rfl rfl (by simp) (by simp))⟩
    simp [accept] at h
  | bind expression test | embedded expression test =>
    rw [fault_iff_of_path rfl, ← path_eq_error_iff]
    exact Outcome.map_eq_error.trans Outcome.map_eq_error
  | loop source =>
    rw [fault_iff_of_path rfl, ← path_eq_error_iff]
    exact Outcome.map_eq_error
  | first | last =>
    rw [fault_iff_of_loopOnly rfl rfl, ← hloop, ← requireLoop_eq_error_iff]
    exact Outcome.map_eq_error
  | branch source =>
    rw [fault_iff_of_branch]
    simp only [accept]
    cases hparse : Expr.parse source with
    | ok condition => simp
    | error fault => simpa using eq_comm
  | close =>
    -- No block of the builder is open exactly if the tokens have closed as many as they opened.
    have hopened := hnested.opened_eq
    rw [headers, List.length_map] at hopened
    rw [fault_iff_of_close]
    simp only [accept, Builder.close]
    cases hblocks : b.blocks with
    | nil =>
      rw [hblocks, List.length_nil] at hopened
      simpa [hopened] using eq_comm
    | cons block outer =>
      rw [hblocks, List.length_cons] at hopened
      have hopen : opened tokens ≠ closed tokens := by omega
      simp [hopen]
  | connector argument =>
    rw [fault_iff_of_connector, ← hloop, ← hinLoop]
    simp only [accept, requireLoop]
    -- Its place is looked at before its argument, so that one fault excludes the other.
    cases b.inLoop with
    | false => simpa [Except.bind] using eq_comm
    | true =>
      cases connector? argument with
      | some text => simp [Except.bind]
      | none => simpa [Except.bind] using eq_comm

/-! ## All tokens -/

/-- The builder has taken these tokens. -/
structure Took (tokens : List Token) (b : Builder) : Prop where
  /-- Its blocks are those that they have left open. -/
  nested : Nested tokens b.headers
  /-- Nothing was wrong with them. -/
  faultless : Faultless tokens

/-- Tokens are taken up to the first one with which something is wrong. -/
theorem Took.acceptAll (h : Took tokens b) (rest : List Token) :
    match b.acceptAll rest with
    | .ok b' => Took (tokens ++ rest) b'
    | .error e => FirstFault (tokens ++ rest) e := by
  induction rest generalizing b tokens with
  | nil => rwa [List.append_nil]
  | cons token rest ih =>
    rw [Builder.acceptAll]
    cases haccept : b.accept token with
    | ok next =>
      have hfault : ∀ e, ¬ Fault tokens token e := fun e hfault => by
        simp [(accept_eq_error_iff h.nested).2 hfault] at haccept
      rw [List.append_cons]
      exact ih ⟨(takes_of_accept haccept).nested h.nested, h.faultless.snoc hfault⟩
    | error e =>
      exact ⟨tokens, token, rest, rfl, h.faultless, (accept_eq_error_iff h.nested).1 haccept⟩

/-- The innermost block that is left open is the fault. -/
theorem Took.unclosed {block : OpenBlock} {outer : List OpenBlock} (h : Took tokens b)
    (hblocks : b.blocks = block :: outer) :
    Unclosed tokens (.unmatched block.kind.directive block.offset) := by
  have hnested := h.nested
  refine ⟨h.faultless, ?_⟩
  rw [headers, hblocks, List.map_cons] at hnested
  cases hnested with
  | @cons before inner _ token _ _ hopens hinner =>
    refine ⟨before, token, inner, _, rfl, hopens.directive, hinner, ?_⟩
    rw [hopens.offset]
    rfl

end Builder

/-! ## Whole templates -/

namespace Template

open Token

/-- What tokens come to: a tree if they are well-formed, and else the first fault. -/
theorem ofTokens_cases (nullDisallowed : Bool) (tokens : List Token) :
    match ofTokens nullDisallowed tokens with
    | .ok _ => WellFormed tokens
    | .error e => ¬ WellFormed tokens ∧ (FirstFault tokens e ∨ Unclosed tokens e) := by
  have hstart : Builder.Took [] { nullDisallowed } := ⟨.nil balanced_nil, faultless_nil⟩
  have htook := hstart.acceptAll tokens
  rw [List.nil_append] at htook
  rw [ofTokens]
  cases haccept : Builder.acceptAll { nullDisallowed } tokens with
  | error e =>
    rw [haccept] at htook
    obtain ⟨before, token, after, hsplit, -, hfault⟩ := id htook
    refine ⟨fun hwell => ?_, .inl htook⟩
    exact (wellFormed_iff.1 hwell).1 before token after hsplit e hfault
  | ok b =>
    rw [haccept] at htook
    -- As many blocks are left as openings without an end.
    have hopened := htook.nested.opened_eq
    rw [Builder.headers, List.length_map] at hopened
    show match b.finish with | .ok _ => _ | .error e => _
    unfold Builder.finish
    cases hblocks : b.blocks with
    | nil =>
      rw [hblocks] at hopened
      exact wellFormed_iff.2 ⟨htook.faultless, hopened⟩
    | cons block outer =>
      rw [hblocks, List.length_cons] at hopened
      refine ⟨fun hwell => ?_, .inr (htook.unclosed hblocks)⟩
      have htotal := (wellFormed_iff.1 hwell).2
      omega

/-- A text that can be cut into tokens is a template exactly if they are well-formed. Its tree, read
back, shows them all in their order, and its fault is the first one, or the innermost block that is
left open. -/
theorem parse_bracketing {text : String} {tokens : List Token} (h : Token.ofText text = .ok tokens)
    (nullDisallowed : Bool) :
    ((∃ t, parse nullDisallowed text = .ok t) ↔ WellFormed tokens) ∧
    (∀ t, parse nullDisallowed text = .ok t →
      List.Forall₂ (fun (mark : Mark) token => mark.StandsFor nullDisallowed token.kind)
        t.marks tokens) ∧
    ∀ e, parse nullDisallowed text = .error e → FirstFault tokens e ∨ Unclosed tokens e := by
  have hcases := ofTokens_cases nullDisallowed tokens
  rw [parse_eq_ofTokens h]
  refine ⟨⟨?_, fun hwell => ?_⟩, fun t ht => ?_, fun e he => ?_⟩
  · rintro ⟨t, ht⟩
    rwa [ht] at hcases
  · cases hofTokens : ofTokens nullDisallowed tokens with
    | ok t => exact ⟨t, rfl⟩
    | error e =>
      rw [hofTokens] at hcases
      exact absurd hwell hcases.1
  · exact forall₂_standsFor_of_ofTokens ht (Token.isChain_adjoins_of_ofText h)
  · rw [he] at hcases
    exact hcases.2

/-- A conditional block with two parts in a loop, and a connector, are read back from the tree. -/
theorem parse_bracketing_two_parts :
    let text := "/*FOR x*//*IF a*/1\n--ELSE\n2/*END*//*NEXT 'or '*//*END*/"
    let tokens : List Token := [⟨.loop "x", 0⟩, ⟨.branch "a", 9⟩, ⟨.sql "1\n", 17⟩,
      ⟨.otherwise "--ELSE", 19⟩, ⟨.sql "\n2", 25⟩, ⟨.close, 27⟩, ⟨.connector "'or '", 34⟩,
      ⟨.close, 48⟩]
    Token.ofText text = .ok tokens ∧ WellFormed tokens ∧ ∃ t, parse false text = .ok t ∧
      List.Forall₂ (fun (mark : Mark) token => mark.StandsFor false token.kind) t.marks tokens := by
  intro text tokens
  have htokens : Token.ofText text = .ok tokens := by decide +kernel
  have hok : (ofTokens false tokens).isOk = true := by cbv
  obtain ⟨hiff, hstands, -⟩ := parse_bracketing htokens false
  rw [parse_eq_ofTokens htokens] at hiff hstands ⊢
  cases htree : ofTokens false tokens with
  | ok t => exact ⟨htokens, hiff.1 ⟨t, htree⟩, t, rfl, hstands t htree⟩
  | error e => simp [htree, Except.isOk, Except.toBool] at hok

end Template

end SqlTemplate
