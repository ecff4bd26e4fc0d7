import Mathlib.Tactic.SplitIfs
import SqlTemplate.Template.Block

/-!
# Changing the variables of a template

A tree keeps of each variable the test value and whether null is a fault, and a token and a fault
keep their places. A `Revision` changes these three and nothing else. Building a tree from changed
tokens comes to the changed tree, or to the changed fault (`Template.ofTokens_revise`), since no
step of a builder looks at what a revision changes. So the trees of two texts that differ only in
such things, and the trees of one text under two settings, are known from each other.
-/

namespace SqlTemplate

/-- A change of what a tree keeps of its variables, and of places. -/
structure Revision where
  /-- The test value of a variable. -/
  test : TestValue → TestValue := id
  /-- Whether null is a fault for a variable. -/
  setting : Bool → Bool := id
  /-- The place of a token. -/
  place : Nat → Nat := id

variable (r : Revision)

/-- The variable after a revision. -/
def Variable.revise (v : Variable) : Variable :=
  ⟨v.path, r.test v.test, r.setting v.nullDisallowed⟩

mutual

/-- The part of a template after a revision. -/
def Node.revise : Node → Node
  | .literal text => .literal text
  | .bind v => .bind (v.revise r)
  | .embedded v => .embedded (v.revise r)
  | .branch condition source yes no => .branch condition source (reviseAll yes) (reviseAll no)
  | .scope children => .scope (reviseAll children)
  | .loop path children => .loop path (reviseAll children)
  | .connector text => .connector text
  | .first children => .first (reviseAll children)
  | .last children => .last (reviseAll children)

/-- The parts of a template after a revision. -/
def Node.reviseAll : List Node → List Node
  | [] => []
  | node :: rest => node.revise :: reviseAll rest

end

/-- The template after a revision. -/
def Template.revise (t : Template) : Template :=
  ⟨Node.reviseAll r t.nodes⟩

namespace Node

/-- Parts are revised one by one. -/
theorem reviseAll_eq_map (nodes : List Node) : reviseAll r nodes = nodes.map (revise r) := by
  induction nodes with
  | nil => rfl
  | cons node rest ih => rw [reviseAll, ih, List.map_cons]

mutual

/-- A revision that changes nothing leaves a part of a template as it is. -/
theorem revise_id : (node : Node) → node.revise {} = node
  | .literal _ | .bind _ | .embedded _ | .connector _ => rfl
  | .branch condition source yes no => by rw [revise, reviseAll_id yes, reviseAll_id no]
  | .scope children => by rw [revise, reviseAll_id children]
  | .loop path children => by rw [revise, reviseAll_id children]
  | .first children => by rw [revise, reviseAll_id children]
  | .last children => by rw [revise, reviseAll_id children]

/-- A revision that changes nothing leaves all parts as they are. -/
theorem reviseAll_id : (nodes : List Node) → reviseAll {} nodes = nodes
  | [] => rfl
  | node :: rest => by rw [reviseAll, revise_id node, reviseAll_id rest]

end

end Node

/-! ## Tokens, faults and builders -/

/-- The token after a revision. -/
def Token.revise (token : Token) : Token :=
  let kind := match token.kind with
    | .bind expression test => .bind expression (r.test test)
    | .embedded expression test => .embedded expression (r.test test)
    | kind => kind
  ⟨kind, r.place token.offset⟩

/-- The fault after a revision: its place is another one. -/
def ParseError.revise : ParseError → ParseError
  | unclosedDirective offset => unclosedDirective (r.place offset)
  | unbalancedTestValue offset => unbalancedTestValue (r.place offset)
  | unmatched directive offset => unmatched directive (r.place offset)
  | invalidExpression source offset cause => invalidExpression source (r.place offset) cause
  | outsideLoop directive offset => outsideLoop directive (r.place offset)

/-- The open block after a revision. -/
def OpenBlock.revise (b : OpenBlock) : OpenBlock :=
  ⟨b.kind, r.place b.offset, b.yes.map (Node.reviseAll r), Node.reviseAll r b.latest⟩

/-- The builder after a revision. -/
def Builder.revise (b : Builder) : Builder :=
  ⟨r.setting b.nullDisallowed, Node.reviseAll r b.top, b.blocks.map (OpenBlock.revise r)⟩

/-- A token keeps what a revision leaves alone. -/
theorem Token.revise_of_id (hr : r.test = id) (hplace : r.place = id) (token : Token) :
    token.revise r = token := by
  obtain ⟨kind, offset⟩ := token
  cases kind <;> simp [revise, hr, hplace]

/-- So does a fault. -/
theorem ParseError.revise_of_id (hplace : r.place = id) (e : ParseError) : e.revise r = e := by
  cases e <;> simp [revise, hplace]

namespace OpenBlock

variable {r}

/-- A node that is added is revised with the block. -/
theorem revise_push (b : OpenBlock) (node : Node) :
    (b.push node).revise r = (b.revise r).push (node.revise r) :=
  rfl

/-- The nodes of a revised block are the revised nodes. -/
theorem children_revise (b : OpenBlock) : (b.revise r).children = Node.reviseAll r b.children := by
  simp [children, revise, Node.reviseAll_eq_map]

/-- A revised block is a loop if the block is. -/
theorem isLoop_revise (b : OpenBlock) : (b.revise r).isLoop = b.isLoop :=
  rfl

/-- A changed block closes to the changed node. -/
theorem toNode_revise (b : OpenBlock) : (b.revise r).toNode = b.toNode.revise r := by
  have hchildren := b.children_revise (r := r)
  obtain ⟨kind, offset, yes, latest⟩ := b
  cases kind with
  | branch condition source =>
    cases yes with
    | none => exact congrArg (Node.branch condition source · []) hchildren
    | some yes => exact congrArg (Node.branch condition source (Node.reviseAll r yes)) hchildren
  | scope => exact congrArg Node.scope hchildren
  | loop path => exact congrArg (Node.loop path) hchildren
  | first => exact congrArg Node.first hchildren
  | last => exact congrArg Node.last hchildren

/-- A changed block begins its second part as the block does. -/
theorem switch?_revise (b : OpenBlock) : (b.revise r).switch? = b.switch?.map (revise r) := by
  have hchildren := b.children_revise (r := r)
  obtain ⟨kind, offset, yes, latest⟩ := b
  cases kind with
  | branch condition source =>
    cases yes with
    | none =>
      -- The line ends the yes side, whose parts are those read so far.
      refine congrArg some ?_
      show OpenBlock.mk _ _ (some (children (revise r _))) [] = _
      rw [hchildren]
      rfl
    | some yes => rfl
  | scope | loop | first | last => rfl

end OpenBlock

namespace Builder

variable {r}

/-- A node that is added is revised with the builder. -/
theorem revise_push (b : Builder) (node : Node) :
    (b.push node).revise r = (b.revise r).push (node.revise r) := by
  obtain ⟨nullDisallowed, top, blocks⟩ := b
  cases blocks <;> rfl

/-- A revised builder is inside a loop if the builder is. -/
theorem inLoop_revise (b : Builder) : (b.revise r).inLoop = b.inLoop := by
  rw [inLoop, inLoop, revise, List.any_map]
  exact congrArg b.blocks.any (funext OpenBlock.isLoop_revise)

end Builder

/-! ## Building a tree -/

/-- What a step has come to, after a revision. -/
def ParseError.reviseOutcome {α β : Type} (f : α → β) (outcome : Except ParseError α) :
    Except ParseError β :=
  (outcome.map f).mapError (revise r)

namespace ParseError

variable {r} {α β α' β' : Type}

/-- A sequence of steps is changed step by step. -/
theorem reviseOutcome_bind {f : α → α'} {g : β → β'} {x : Except ParseError α}
    {next : α → Except ParseError β} {next' : α' → Except ParseError β'}
    (h : ∀ a, next' (f a) = reviseOutcome r g (next a)) :
    (reviseOutcome r f x).bind next' = reviseOutcome r g (x.bind next) := by
  cases x with
  | ok a => exact h a
  | error e => rfl

/-- So is a result that is carried on. -/
theorem reviseOutcome_map {f : α → α'} {g : β → β'} {x : Except ParseError α} {next : α → β}
    {next' : α' → β'} (h : ∀ a, next' (f a) = g (next a)) :
    (reviseOutcome r f x).map next' = reviseOutcome r g (x.map next) := by
  cases x with
  | ok a => exact congrArg Except.ok (h a)
  | error e => rfl

end ParseError

open ParseError

namespace Builder

variable {r}

/-- The path of a directive does not change, and its fault moves with it. -/
theorem path_revise (source : String) (offset : Nat) :
    path source (r.place offset) = reviseOutcome r id (path source offset) := by
  unfold path
  cases Path.parse? source <;> rfl

/-- The variable of a directive is revised with its test value. -/
theorem reference_revise (b : Builder) (expression : String) (test : TestValue) (offset : Nat) :
    (b.revise r).reference expression (r.test test) (r.place offset) =
      reviseOutcome r (Variable.revise r) (b.reference expression test offset) := by
  rw [reference, reference, path_revise]
  exact reviseOutcome_map fun _ => rfl

/-- A directive of a loop body is refused in the same places. -/
theorem requireLoop_revise (b : Builder) (directive : String) (offset : Nat) :
    (b.revise r).requireLoop directive (r.place offset) =
      reviseOutcome r (revise r) (b.requireLoop directive offset) := by
  rw [requireLoop, requireLoop, inLoop_revise]
  split_ifs <;> rfl

/-- Closing a block of a revised builder is revised closing. -/
theorem close_revise (b : Builder) (offset : Nat) :
    (b.revise r).close (r.place offset) = reviseOutcome r (revise r) (b.close offset) := by
  obtain ⟨nullDisallowed, top, blocks⟩ := b
  cases blocks with
  | nil => rfl
  | cons block outer =>
    show Except.ok (push _ (block.revise r).toNode) = Except.ok (revise r (push _ block.toNode))
    rw [revise_push, OpenBlock.toNode_revise]
    rfl

/-- So is the separating line. -/
theorem otherwise_revise (b : Builder) (text : String) :
    (b.revise r).otherwise text = (b.otherwise text).revise r := by
  obtain ⟨nullDisallowed, top, blocks⟩ := b
  cases blocks with
  | nil => rfl
  | cons block outer =>
    have hswitch := block.switch?_revise (r := r)
    cases hblock : block.switch? with
    | none =>
      simp [Builder.otherwise, revise, hswitch, hblock, push, OpenBlock.revise_push, Node.revise]
    | some switched => simp [Builder.otherwise, revise, hswitch, hblock]

/-- A changed builder takes a changed token as the builder takes the token. -/
theorem accept_revise (b : Builder) (token : Token) :
    (b.revise r).accept (token.revise r) = reviseOutcome r (revise r) (b.accept token) := by
  obtain ⟨kind, offset⟩ := token
  cases kind with
  | sql text => exact congrArg Except.ok (revise_push b (.literal text)).symm
  | bind expression test =>
    -- The path and the offset are read, and the fault is one at the revised offset.
    show ((b.revise r).reference expression (r.test test) (r.place offset)).map _ = _
    rw [reference_revise]
    exact reviseOutcome_map fun v => (revise_push b (.bind v)).symm
  | embedded expression test =>
    show ((b.revise r).reference expression (r.test test) (r.place offset)).map _ = _
    rw [reference_revise]
    exact reviseOutcome_map fun v => (revise_push b (.embedded v)).symm
  | branch source =>
    simp only [accept, Token.revise]
    cases Expr.parse source <;> rfl
  | otherwise text => exact congrArg Except.ok (otherwise_revise b text)
  | scope => rfl
  | close => exact close_revise b offset
  | loop source =>
    show (path source (r.place offset)).map _ = _
    rw [path_revise]
    exact reviseOutcome_map fun path => rfl
  | connector argument =>
    show ((b.revise r).requireLoop "NEXT" (r.place offset)).bind _ = _
    rw [requireLoop_revise]
    refine reviseOutcome_bind fun inner => ?_
    cases connector? argument with
    | some text => exact congrArg Except.ok (revise_push inner (.connector text)).symm
    | none => rfl
  | first =>
    show ((b.revise r).requireLoop "FIRST" (r.place offset)).map _ = _
    rw [requireLoop_revise]
    exact reviseOutcome_map fun inner => rfl
  | last =>
    show ((b.revise r).requireLoop "LAST" (r.place offset)).map _ = _
    rw [requireLoop_revise]
    exact reviseOutcome_map fun inner => rfl

/-- Taking revised tokens gives the revised builder. -/
theorem acceptAll_revise (b : Builder) (tokens : List Token) :
    (b.revise r).acceptAll (tokens.map (Token.revise r)) =
      reviseOutcome r (revise r) (b.acceptAll tokens) := by
  induction tokens generalizing b with
  | nil => rfl
  | cons token rest ih =>
    show ((b.revise r).accept (token.revise r)).bind _ = _
    rw [accept_revise]
    exact reviseOutcome_bind fun next => ih next

/-- The tree of a revised builder is the revised tree. -/
theorem finish_revise (b : Builder) :
    (b.revise r).finish = reviseOutcome r (Template.revise r) b.finish := by
  obtain ⟨nullDisallowed, top, blocks⟩ := b
  cases blocks with
  | nil =>
    refine congrArg (fun nodes => Except.ok (Template.mk nodes)) ?_
    show (Node.reviseAll r top).reverse = Node.reviseAll r top.reverse
    rw [Node.reviseAll_eq_map, Node.reviseAll_eq_map, List.map_reverse]
  | cons block outer => rfl

end Builder

namespace Template

/-- Changed tokens make the changed tree, or end with the changed fault. -/
theorem ofTokens_revise (nullDisallowed : Bool) (tokens : List Token) :
    ofTokens (r.setting nullDisallowed) (tokens.map (Token.revise r)) =
      reviseOutcome r (revise r) (ofTokens nullDisallowed tokens) := by
  have hstart : Builder.acceptAll { nullDisallowed := r.setting nullDisallowed }
      (tokens.map (Token.revise r)) = reviseOutcome r (Builder.revise r)
        (Builder.acceptAll { nullDisallowed } tokens) :=
    Builder.acceptAll_revise { nullDisallowed } tokens
  rw [ofTokens, hstart]
  exact reviseOutcome_bind Builder.finish_revise

/-- A text is parsed under another setting to the tree with this setting. -/
theorem parse_setting (setting : Bool → Bool) (nullDisallowed : Bool) (text : String) :
    parse (setting nullDisallowed) text =
      (parse nullDisallowed text).map (revise { setting }) := by
  unfold parse
  cases Token.ofText text with
  | error e => rfl
  | ok tokens =>
    -- Changing the setting alone leaves the tokens as they are.
    have htokens : tokens.map (Token.revise { setting }) = tokens := by
      rw [funext (Token.revise_of_id { setting } rfl rfl), List.map_id']
    have htree := ofTokens_revise { setting } nullDisallowed tokens
    rw [htokens] at htree
    refine htree.trans ?_
    show _ = (ofTokens nullDisallowed tokens).map _
    cases ofTokens nullDisallowed tokens with
    | ok t => rfl
    | error e => exact congrArg Except.error (ParseError.revise_of_id { setting } rfl e)

end Template

end SqlTemplate
