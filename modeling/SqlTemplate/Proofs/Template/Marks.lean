import SqlTemplate.Proofs.Outcome
import SqlTemplate.Proofs.Path
import SqlTemplate.Proofs.Template.Lossless
import SqlTemplate.Proofs.Text.Quotes

/-!
# Reading a tree back

A tree is read back in the order of the text as a sequence of marks: one for each leaf, one where a
block opens, one where the second part of a conditional block begins and one where a block closes
(`Template.marks`). `Mark.StandsFor` says which tokens a mark may come from; it leaves open only
what a tree does not keep, the spelling of a separating line and doubled quotes of a connector.

A builder is read back in the same way, its open blocks without their ends. What it does with one
token is said once, by `Builder.Takes`: in each case it gets one more mark, which stands for this
token (`Takes.marks_eq`). So the marks of a tree stand for the tokens that it was made of
(`forall₂_standsFor_of_ofTokens`). The one token that could be lost is a separating line before an
empty second part, but in a text such a line is always followed by plain SQL.
-/

namespace SqlTemplate

/-- What a tree shows of a token. -/
inductive Mark where
  /-- Plain SQL; `inThen` says that it stands directly in the first part of a conditional block. -/
  | literal (text : String) (inThen : Bool)
  /-- A variable that is bound. -/
  | bind (v : Variable)
  /-- A variable that is written into the statement. -/
  | embedded (v : Variable)
  /-- What stands between the rounds of a loop. -/
  | connector (text : String)
  /-- The start of a block. -/
  | opening (kind : BlockKind)
  /-- The start of the second part of a conditional block. -/
  | otherwise
  /-- The end of a block. -/
  | close

/-- The directive that a token opens a block with, as messages give it. -/
def TokenKind.opens? : TokenKind → Option String
  | branch condition => some ("IF " ++ condition)
  | scope => some "BEGIN"
  | loop path => some ("FOR " ++ path)
  | first => some "FIRST"
  | last => some "LAST"
  | _ => none

/-- The argument of a connector is quoted: it is some text between two quotes. -/
def IsQuoted (argument : String) (inner : List Char) : Prop :=
  argument.toList = '\'' :: inner ++ ['\'']

/-- The mark may come from a token of this kind. -/
inductive Mark.StandsFor (nullDisallowed : Bool) : Mark → TokenKind → Prop
  /-- Plain SQL. -/
  | sql (text : String) (inThen : Bool) :
    StandsFor nullDisallowed (.literal text inThen) (.sql text)
  /-- A separating line that separates nothing, which is plain SQL. -/
  | line (text : String) : StandsFor nullDisallowed (.literal text false) (.otherwise text)
  /-- A variable that is bound. -/
  | bind {path : Path} (hpath : path.IsDotted) (test : TestValue) :
    StandsFor nullDisallowed (.bind ⟨path, test, nullDisallowed⟩) (.bind path.text test)
  /-- A variable that is embedded. -/
  | embedded {path : Path} (hpath : path.IsDotted) (test : TestValue) :
    StandsFor nullDisallowed (.embedded ⟨path, test, nullDisallowed⟩) (.embedded path.text test)
  /-- A connector, in which two quotes stand for one. -/
  | connector {argument text : String} {inner : List Char} (hquoted : IsQuoted argument inner)
    (hsingle : Text.Undoubled inner text.toList) :
    StandsFor nullDisallowed (.connector text) (.connector argument)
  /-- A conditional block. -/
  | branch {source : String} {condition : Expr} (hparse : Expr.parse source = .ok condition) :
    StandsFor nullDisallowed (.opening (.branch condition source)) (.branch source)
  /-- A scope. -/
  | scope : StandsFor nullDisallowed (.opening .scope) .scope
  /-- A loop. -/
  | loop {path : Path} (hpath : path.IsDotted) :
    StandsFor nullDisallowed (.opening (.loop path)) (.loop path.text)
  /-- A part for the first round of a loop. -/
  | first : StandsFor nullDisallowed (.opening .first) .first
  /-- A part for the last round of a loop. -/
  | last : StandsFor nullDisallowed (.opening .last) .last
  /-- A separating line that begins the second part of a conditional block. -/
  | otherwise (text : String) : StandsFor nullDisallowed .otherwise (.otherwise text)
  /-- The end of a block. -/
  | close : StandsFor nullDisallowed .close .close

/-- Plain SQL opens no block. -/
theorem Mark.StandsFor.isSql_eq_false {nullDisallowed : Bool} {block : BlockKind} {kind : TokenKind}
    (h : StandsFor nullDisallowed (.opening block) kind) : kind.isSql = false := by
  cases h <;> rfl

mutual

/-- The marks of a part of a template; `inThen` says that it stands directly in the first part of a
conditional block. -/
def Node.marks (inThen : Bool) : Node → List Mark
  | .literal text => [.literal text inThen]
  | .bind v => [.bind v]
  | .embedded v => [.embedded v]
  | .connector text => [.connector text]
  | .branch condition source yes no =>
    .opening (.branch condition source) :: marksOfAll true yes ++
      (if no.isEmpty then [] else .otherwise :: marksOfAll false no) ++ [.close]
  | .scope children => .opening .scope :: marksOfAll false children ++ [.close]
  | .loop path children => .opening (.loop path) :: marksOfAll false children ++ [.close]
  | .first children => .opening .first :: marksOfAll false children ++ [.close]
  | .last children => .opening .last :: marksOfAll false children ++ [.close]

/-- The marks of parts of a template. -/
def Node.marksOfAll (inThen : Bool) : List Node → List Mark
  | [] => []
  | node :: rest => node.marks inThen ++ marksOfAll inThen rest

end

/-- The marks of a template. -/
def Template.marks (t : Template) : List Mark :=
  Node.marksOfAll false t.nodes

/-- The marks of parts in two groups are those of the groups. -/
theorem Node.marksOfAll_append (inThen : Bool) (before after : List Node) :
    marksOfAll inThen (before ++ after) = marksOfAll inThen before ++ marksOfAll inThen after := by
  induction before with
  | nil => rfl
  | cons node before ih => rw [List.cons_append, marksOfAll, ih, marksOfAll, List.append_assoc]

/-- The marks of a single part are its own. -/
theorem Node.marksOfAll_singleton (inThen : Bool) (node : Node) :
    marksOfAll inThen [node] = node.marks inThen :=
  List.append_nil _

/-! ## What has been read of a tree -/

namespace OpenBlock

/-- The block is a conditional one in its first part. -/
def inThen (b : OpenBlock) : Bool :=
  b.switch?.isSome

/-- The marks of an open block, which lack its end. -/
def marks (b : OpenBlock) : List Mark :=
  .opening b.kind ::
    match b.kind, b.yes with
    | .branch _ _, some yes =>
      Node.marksOfAll true yes ++ .otherwise :: Node.marksOfAll false b.children
    | _, _ => Node.marksOfAll b.inThen b.children

/-- The second part, if it has begun, is not empty. -/
def IsFilled (b : OpenBlock) : Prop :=
  b.yes.isSome = true → b.latest ≠ []

/-- A block without a node yet has opened only. -/
theorem marks_new (kind : BlockKind) (offset : Nat) : marks { kind, offset } = [.opening kind] := by
  cases kind <;> rfl

/-- A further node adds its own marks. -/
theorem marks_push (b : OpenBlock) (node : Node) :
    (b.push node).marks = b.marks ++ node.marks b.inThen := by
  obtain ⟨kind, offset, yes, latest⟩ := b
  cases kind <;> cases yes <;>
    simp [marks, push, children, inThen, switch?, Node.marksOfAll_append, Node.marksOfAll_singleton]

/-- Beginning the second part adds one mark. -/
theorem marks_switch {b switched : OpenBlock} (h : b.switch? = some switched) :
    switched.marks = b.marks ++ [.otherwise] := by
  obtain ⟨kind, offset, yes, latest⟩ := b
  cases kind <;> cases yes <;>
    simp [switch?] at h
  obtain rfl := h
  simp [marks, inThen, switch?, children, Node.marksOfAll]

/-- Closing a block adds one mark. -/
theorem marks_toNode {b : OpenBlock} (h : b.IsFilled) (inThen : Bool) :
    b.toNode.marks inThen = b.marks ++ [.close] := by
  obtain ⟨kind, offset, yes, latest⟩ := b
  cases kind with
  | branch condition source =>
    cases yes with
    | none => simp [toNode, marks, Node.marks, OpenBlock.inThen, switch?]
    | some yes =>
      have hlatest : latest ≠ [] := h rfl
      simp [toNode, marks, Node.marks, children, hlatest]
  | scope | loop | first | last =>
    simp [toNode, marks, Node.marks, OpenBlock.inThen, switch?]

end OpenBlock

namespace Builder

/-- The next node stands directly in the first part of a conditional block. -/
def inThen (b : Builder) : Bool :=
  match b.blocks with
  | [] => false
  | block :: _ => block.inThen

/-- The marks of what has been read, which lack the ends of the open blocks. -/
def marks (b : Builder) : List Mark :=
  Node.marksOfAll false b.top.reverse ++ b.blocks.reverse.flatMap OpenBlock.marks

/-- A further node adds its own marks. -/
theorem marks_push (b : Builder) (node : Node) :
    (b.push node).marks = b.marks ++ node.marks b.inThen := by
  obtain ⟨nullDisallowed, top, blocks⟩ := b
  cases blocks with
  | nil => simp [push, marks, inThen, Node.marksOfAll_append, Node.marksOfAll_singleton]
  | cons block outer => simp [push, marks, inThen, OpenBlock.marks_push]

/-- What taking a token makes of a builder. -/
inductive Takes (b : Builder) (token : Token) : Builder → Prop
  /-- A leaf is one more node. -/
  | leaf {node : Node} {mark : Mark} (hnode : node.marks b.inThen = [mark])
      (hstands : mark.StandsFor b.nullDisallowed token.kind) (hopens : token.kind.opens? = none)
      (hclose : token.kind ≠ .close) : Takes b token (b.push node)
  /-- A block opens. -/
  | enter {kind : BlockKind} (hstands : (Mark.opening kind).StandsFor b.nullDisallowed token.kind) :
      Takes b token (b.enter kind token.offset)
  /-- The second part of the innermost block begins. -/
  | switch {block switched : OpenBlock} {outer : List OpenBlock} {text : String}
      (hblocks : b.blocks = block :: outer) (hswitch : block.switch? = some switched)
      (hkind : token.kind = .otherwise text) : Takes b token { b with blocks := switched :: outer }
  /-- The innermost block closes. -/
  | close {block : OpenBlock} {outer : List OpenBlock} (hblocks : b.blocks = block :: outer)
      (hkind : token.kind = .close) :
      Takes b token ({ b with blocks := outer }.push block.toNode)

variable {b b' : Builder} {token : Token}

/-- A directive holds a path if its text is that of the path. -/
theorem path_eq_ok_iff {source : String} {offset : Nat} {p : Path} :
    path source offset = .ok p ↔ p.IsDotted ∧ p.text = source := by
  rw [← Path.parse?_eq_some_iff, path]
  cases Path.parse? source with
  | none => simp
  | some q => simp

/-- Reading makes one quote of two. -/
theorem undoubled_singleQuotes (cs : List Char) : Text.Undoubled cs (singleQuotes cs) := by
  fun_induction singleQuotes cs with
  | case1 => exact .nil
  | case2 cs ih => exact .pair ih
  | case3 c cs hpair ih =>
    refine .single ?_ ih
    rintro rfl hhead
    obtain ⟨more, rfl⟩ := List.head?_eq_some_iff.1 hhead
    exact hpair more rfl rfl

/-- There is no other way to make one quote of two. -/
theorem singleQuotes_eq_of_undoubled {cs ds : List Char} (h : Text.Undoubled cs ds) :
    singleQuotes cs = ds := by
  induction h with
  | nil => rfl
  | pair _ ih => rw [singleQuotes, ih]
  | @single c cs ds hpair _ ih =>
    rw [singleQuotes, ih]
    rintro more rfl rfl
    exact hpair rfl rfl

/-- The connector is what stands between the quotes, with one quote for two. -/
theorem connector?_eq_some_iff {argument text : String} :
    connector? argument = some text ↔
      ∃ inner, IsQuoted argument inner ∧ Text.Undoubled inner text.toList := by
  unfold connector? IsQuoted
  constructor
  · intro h
    split at h
    · next cs hcs =>
      split_ifs at h with hlast
      obtain rfl := Option.some.inj h
      refine ⟨cs.dropLast, ?_, ?_⟩
      · rw [hcs, List.cons_append, List.dropLast_append_getLast? _ hlast]
      · rw [String.toList_ofList]
        exact undoubled_singleQuotes cs.dropLast
    · simp at h
  · rintro ⟨inner, hquoted, hsingle⟩
    have hread : String.ofList (singleQuotes inner) = text := by
      rw [singleQuotes_eq_of_undoubled hsingle, String.ofList_toList]
    simp [hquoted, hread]

/-- A directive of a loop body leaves what has been read as it is. -/
theorem requireLoop_eq_ok {b b' : Builder} {directive : String} {offset : Nat}
    (h : b.requireLoop directive offset = .ok b') : b = b' := by
  unfold requireLoop at h
  split_ifs at h
  exact Except.ok.inj h

/-- A token that is accepted is taken in one of four ways. -/
theorem takes_of_accept (h : b.accept token = .ok b') : b.Takes token b' := by
  obtain ⟨kind, offset⟩ := token
  cases kind with
  | sql text =>
    obtain rfl := Except.ok.inj h
    exact .leaf rfl (.sql text _) rfl (by simp)
  | bind expression test =>
    obtain ⟨v, hv, rfl⟩ := Outcome.map_eq_ok.1 h
    obtain ⟨path, hpath, rfl⟩ := Outcome.map_eq_ok.1 hv
    obtain ⟨hdotted, rfl⟩ := path_eq_ok_iff.1 hpath
    exact .leaf rfl (.bind hdotted test) rfl (by simp)
  | embedded expression test =>
    obtain ⟨v, hv, rfl⟩ := Outcome.map_eq_ok.1 h
    obtain ⟨path, hpath, rfl⟩ := Outcome.map_eq_ok.1 hv
    obtain ⟨hdotted, rfl⟩ := path_eq_ok_iff.1 hpath
    exact .leaf rfl (.embedded hdotted test) rfl (by simp)
  | branch source =>
    simp only [accept] at h
    split at h
    · next condition hparse =>
      obtain rfl := Except.ok.inj h
      exact .enter (.branch hparse)
    · simp at h
  | otherwise text =>
    obtain rfl := Except.ok.inj h
    -- Where the line separates nothing, the next node is not directly in a first part.
    have hline : b.inThen = false → b.Takes ⟨.otherwise text, offset⟩ (b.push (.literal text)) := by
      intro hthen
      have hmarks : (Node.literal text).marks b.inThen = [.literal text false] := by
        rw [hthen, Node.marks]
      exact .leaf hmarks (.line text) rfl (by simp)
    unfold Builder.otherwise
    split
    · next block outer hblocks =>
      split
      · next switched hswitch => exact .switch hblocks hswitch rfl
      · next hswitch => exact hline (by simp [inThen, hblocks, OpenBlock.inThen, hswitch])
    · next hblocks => exact hline (by rw [inThen, hblocks])
  | scope =>
    obtain rfl := Except.ok.inj h
    exact .enter .scope
  | close =>
    simp only [accept, Builder.close] at h
    split at h
    · simp at h
    · next block outer hblocks =>
      obtain rfl := Except.ok.inj h
      exact .close hblocks rfl
  | loop source =>
    obtain ⟨path, hpath, rfl⟩ := Outcome.map_eq_ok.1 h
    obtain ⟨hdotted, rfl⟩ := path_eq_ok_iff.1 hpath
    exact .enter (.loop hdotted)
  | connector argument =>
    obtain ⟨inner, hloop, h⟩ := Outcome.bind_eq_ok.1 h
    obtain rfl : b = inner := requireLoop_eq_ok hloop
    split at h
    · next text hconnector =>
      obtain ⟨inner, hquoted, hsingle⟩ := connector?_eq_some_iff.1 hconnector
      obtain rfl := Except.ok.inj h
      exact .leaf rfl (.connector hquoted hsingle) rfl (by simp)
    · simp at h
  | first =>
    obtain ⟨inner, hloop, rfl⟩ := Outcome.map_eq_ok.1 h
    obtain rfl : b = inner := requireLoop_eq_ok hloop
    exact .enter .first
  | last =>
    obtain ⟨inner, hloop, rfl⟩ := Outcome.map_eq_ok.1 h
    obtain rfl : b = inner := requireLoop_eq_ok hloop
    exact .enter .last

/-- Whatever a token does, the builder keeps its setting. -/
theorem Takes.nullDisallowed_eq (h : b.Takes token b') : b'.nullDisallowed = b.nullDisallowed := by
  cases h with
  | leaf =>
    unfold push
    split <;> rfl
  | enter | switch => rfl
  | close =>
    unfold push
    split <;> rfl

/-- Each token that is taken is one more mark, which stands for this token. -/
theorem Takes.marks_eq (h : b.Takes token b')
    (hfilled : token.kind = .close → ∀ block ∈ b.blocks.head?, block.IsFilled) :
    ∃ mark : Mark, b'.marks = b.marks ++ [mark] ∧ mark.StandsFor b.nullDisallowed token.kind := by
  cases h with
  | @leaf node mark hnode hstands =>
    refine ⟨mark, ?_, hstands⟩
    rw [marks_push, hnode]
  | @enter kind hstands =>
    refine ⟨.opening kind, ?_, hstands⟩
    rw [marks, Builder.enter, List.reverse_cons, List.flatMap_append, List.flatMap_singleton,
      OpenBlock.marks_new, ← List.append_assoc]
    rfl
  | @switch block switched outer text hblocks hswitch hkind =>
    refine ⟨.otherwise, ?_, hkind ▸ .otherwise text⟩
    simp only [marks, hblocks, List.reverse_cons, List.flatMap_append, List.flatMap_singleton,
      OpenBlock.marks_switch hswitch, List.append_assoc]
  | @close block outer hblocks hkind =>
    -- Only here is something read back that a tree may lack, the start of an empty second part.
    have hblock : block.IsFilled := hfilled hkind block (by rw [hblocks]; rfl)
    refine ⟨.close, ?_, hkind ▸ .close⟩
    rw [marks_push, OpenBlock.marks_toNode hblock]
    simp only [marks, hblocks, List.reverse_cons, List.flatMap_append, List.flatMap_singleton,
      List.append_assoc]

/-! ## Whole sequences -/

/-- What has been read shows the tokens that were read, and every second part that has begun holds
a node, but for one that the last token has begun. -/
structure Shows (nullDisallowed : Bool) (tokens : List Token) (b : Builder) : Prop where
  /-- The setting of the variables. -/
  setting : b.nullDisallowed = nullDisallowed
  /-- The marks stand for the tokens. -/
  stands : List.Forall₂ (fun (mark : Mark) token => mark.StandsFor nullDisallowed token.kind)
    b.marks tokens
  /-- The innermost block is filled, or the last token has begun its second part. -/
  innermost : ∀ block ∈ b.blocks.head?, block.IsFilled ∨
    ∃ token ∈ tokens.getLast?, token.kind.isOtherwise = true
  /-- The blocks around it are filled. -/
  outer : ∀ block ∈ b.blocks.tail, block.IsFilled

variable {nullDisallowed : Bool}

/-- A block that has got a node is filled. -/
theorem isFilled_push (block : OpenBlock) (node : Node) : (block.push node).IsFilled :=
  fun _ => List.cons_ne_nil _ _

/-- With one more node, all blocks are filled if those around the innermost one are. -/
theorem isFilled_of_mem_push (b : Builder) (node : Node)
    (h : ∀ block ∈ b.blocks.tail, block.IsFilled) :
    ∀ block ∈ (b.push node).blocks, block.IsFilled := by
  unfold push
  split
  · next hblocks => simp [hblocks]
  · next block outer hblocks =>
    rw [hblocks] at h
    exact List.forall_mem_cons.2 ⟨isFilled_push block node, h⟩

/-- Where a token other than plain SQL follows, the innermost block is filled, too. -/
theorem Shows.isFilled {tokens : List Token} (h : Shows nullDisallowed tokens b)
    (hchain : (tokens ++ [token]).IsChain Token.Adjoins) (hsql : token.kind.isSql = false) :
    ∀ block ∈ b.blocks, block.IsFilled := by
  obtain ⟨-, -, hadjoins⟩ := List.isChain_append.1 hchain
  cases hblocks : b.blocks with
  | nil => simp
  | cons block outer =>
    refine List.forall_mem_cons.2 ⟨?_, fun other hother => h.outer other (by rwa [hblocks])⟩
    rcases h.innermost block (by rw [hblocks]; rfl) with hfilled | ⟨last, hlast, hotherwise⟩
    · exact hfilled
    · have hnext := (hadjoins last hlast token rfl).2 hotherwise
      exact absurd (hnext.symm.trans hsql) Bool.false_ne_true.symm

/-- One more token is shown. -/
theorem Shows.accept {tokens : List Token} (h : Shows nullDisallowed tokens b)
    (hchain : (tokens ++ [token]).IsChain Token.Adjoins) (haccept : b.accept token = .ok b') :
    Shows nullDisallowed (tokens ++ [token]) b' := by
  have htakes := takes_of_accept haccept
  -- An opening or closing token is not plain SQL, so that all blocks are filled before it.
  have hfilled : token.kind.isSql = false → ∀ block ∈ b.blocks, block.IsFilled := h.isFilled hchain
  obtain ⟨mark, hmarks, hstands⟩ := htakes.marks_eq fun hkind block hblock =>
    hfilled (by rw [hkind]; rfl) block (List.mem_of_mem_head? hblock)
  rw [h.setting] at hstands
  have hsetting : b'.nullDisallowed = nullDisallowed := htakes.nullDisallowed_eq.trans h.setting
  have hall : List.Forall₂ (fun (mark : Mark) token => mark.StandsFor nullDisallowed token.kind)
      b'.marks (tokens ++ [token]) := by
    rw [hmarks]
    exact List.rel_append h.stands (.cons hstands .nil)
  cases htakes with
  | @leaf node =>
    have hblocks := isFilled_of_mem_push b node h.outer
    exact ⟨hsetting, hall, fun block hblock => .inl (hblocks block (List.mem_of_mem_head? hblock)),
      fun block hblock => hblocks block (List.mem_of_mem_tail hblock)⟩
  | enter hopening =>
    refine ⟨hsetting, hall, fun block hblock => .inl ?_, hfilled hopening.isSql_eq_false⟩
    obtain rfl := Option.some.inj hblock
    exact fun hyes => absurd hyes Bool.false_ne_true
  | switch hblocks hswitch hkind =>
    refine ⟨hsetting, hall, fun block _ => .inr ⟨token, by simp, by rw [hkind]; rfl⟩, ?_⟩
    exact fun block hblock => h.outer block (by rwa [hblocks])
  | @close closed outer hblocks hkind =>
    have houter : ∀ block ∈ outer, block.IsFilled := fun block hblock =>
      hfilled (by rw [hkind]; rfl) block (by rw [hblocks]; exact List.mem_cons_of_mem _ hblock)
    have hblocks := isFilled_of_mem_push { b with blocks := outer } closed.toNode
      fun block hblock => houter block (List.mem_of_mem_tail hblock)
    exact ⟨hsetting, hall, fun block hblock => .inl (hblocks block (List.mem_of_mem_head? hblock)),
      fun block hblock => hblocks block (List.mem_of_mem_tail hblock)⟩

/-- All tokens are shown. -/
theorem Shows.acceptAll {tokens rest : List Token} (h : Shows nullDisallowed tokens b)
    (hchain : (tokens ++ rest).IsChain Token.Adjoins) (haccept : b.acceptAll rest = .ok b') :
    Shows nullDisallowed (tokens ++ rest) b' := by
  induction rest generalizing b tokens with
  | nil =>
    obtain rfl := Except.ok.inj haccept
    rwa [List.append_nil]
  | cons token rest ih =>
    obtain ⟨next, hfirst, hrest⟩ := Outcome.bind_eq_ok.1 haccept
    rw [List.append_cons] at hchain ⊢
    exact ih (h.accept (List.isChain_append.1 hchain).1 hfirst) hchain hrest

end Builder

/-- The marks of a tree stand for the tokens that it was made of, in their order. -/
theorem Template.forall₂_standsFor_of_ofTokens {nullDisallowed : Bool} {tokens : List Token}
    {t : Template} (h : ofTokens nullDisallowed tokens = .ok t)
    (hchain : tokens.IsChain Token.Adjoins) :
    List.Forall₂ (fun (mark : Mark) token => mark.StandsFor nullDisallowed token.kind)
      t.marks tokens := by
  obtain ⟨b, haccept, hfinish⟩ := Outcome.bind_eq_ok.1 h
  have hstart : Builder.Shows nullDisallowed [] { nullDisallowed } := ⟨rfl, .nil, nofun, nofun⟩
  have hshows := hstart.acceptAll hchain haccept
  unfold Builder.finish at hfinish
  split at hfinish
  · next hblocks =>
    obtain rfl := Except.ok.inj hfinish
    have hstands := hshows.stands
    rwa [Builder.marks, hblocks, List.reverse_nil, List.flatMap_nil, List.append_nil] at hstands
  · simp at hfinish

end SqlTemplate
