import SqlTemplate.Condition.Grammar
import SqlTemplate.Template.Token
import SqlTemplate.Template.Tree

/-!
# From tokens to a tree

The tokens are taken one after the other onto a stack of open blocks, the innermost first. A token
that opens a block pushes one, an END pops one and makes it a node of the block around it, and all
other tokens become nodes of the innermost block. The first token that cannot be taken is the
fault of the template; if all can, it is the innermost block that is still open at the end.
-/

namespace SqlTemplate

/-- The kinds of block. -/
inductive BlockKind where
  /-- A conditional block. -/
  | branch (condition : Expr) (source : String)
  /-- A scope. -/
  | scope
  /-- A loop. -/
  | loop (path : Path)
  /-- A part for the first round of a loop. -/
  | first
  /-- A part for the last round of a loop. -/
  | last
  deriving DecidableEq, Repr

/-- The directive that opens the block, as messages give it. -/
def BlockKind.directive : BlockKind → String
  | branch _ source => "IF " ++ source
  | scope => "BEGIN"
  | loop path => "FOR " ++ path.text
  | first => "FIRST"
  | last => "LAST"

/-- A block that is not closed yet. -/
structure OpenBlock where
  /-- Its kind. -/
  kind : BlockKind
  /-- Where its directive starts. -/
  offset : Nat
  /-- The first part of a conditional block, once the second has begun. -/
  yes : Option (List Node) := none
  /-- The nodes of the part that is being read, the last one first. -/
  latest : List Node := []

namespace OpenBlock

/-- The block with one more node. -/
def push (b : OpenBlock) (node : Node) : OpenBlock :=
  { b with latest := node :: b.latest }

/-- The nodes of the part that is being read. -/
def children (b : OpenBlock) : List Node :=
  b.latest.reverse

/-- The node that the block becomes when it is closed. -/
def toNode (b : OpenBlock) : Node :=
  match b.kind with
  | .branch condition source =>
    match b.yes with
    | some yes => .branch condition source yes b.children
    | none => .branch condition source b.children []
  | .scope => .scope b.children
  | .loop path => .loop path b.children
  | .first => .first b.children
  | .last => .last b.children

/-- The block with its second part begun, if it is a conditional block in its first part. -/
def switch? (b : OpenBlock) : Option OpenBlock :=
  match b.kind, b.yes with
  | .branch _ _, none => some { b with yes := some b.children, latest := [] }
  | _, _ => none

/-- The block is a loop. -/
def isLoop (b : OpenBlock) : Bool :=
  match b.kind with
  | .loop _ => true
  | _ => false

end OpenBlock

/-- What has been read of a tree. -/
structure Builder where
  /-- A null value of a variable is a fault. -/
  nullDisallowed : Bool
  /-- The nodes outside every open block, the last one first. -/
  top : List Node := []
  /-- The open blocks, the innermost first. -/
  blocks : List OpenBlock := []

namespace Builder

/-- A node for the innermost open block. -/
def push (b : Builder) (node : Node) : Builder :=
  match b.blocks with
  | [] => { b with top := node :: b.top }
  | block :: outer => { b with blocks := block.push node :: outer }

/-- A new innermost block. -/
def enter (b : Builder) (kind : BlockKind) (offset : Nat) : Builder :=
  { b with blocks := { kind, offset } :: b.blocks }

/-- Some open block is a loop. -/
def inLoop (b : Builder) : Bool :=
  b.blocks.any OpenBlock.isLoop

/-- The path that a directive holds. -/
def path (source : String) (offset : Nat) : Except ParseError Path :=
  match Path.parse? source with
  | some path => .ok path
  | none => .error (.invalidExpression source offset .path)

/-- The variable of a directive. -/
def reference (b : Builder) (expression : String) (test : TestValue) (offset : Nat) :
    Except ParseError Variable :=
  (path expression offset).map fun path => ⟨path, test, b.nullDisallowed⟩

/-- The builder, if it is inside a loop. -/
def requireLoop (b : Builder) (directive : String) (offset : Nat) : Except ParseError Builder :=
  if b.inLoop then .ok b else .error (.outsideLoop directive offset)

/-- A text in which each pair of quotes has become one. -/
def singleQuotes : List Char → List Char
  | [] => []
  | '\'' :: '\'' :: cs => '\'' :: singleQuotes cs
  | c :: cs => c :: singleQuotes cs

/-- The connector between two quotes, which are two characters of the argument. -/
def connector? (argument : String) : Option String :=
  match argument.toList with
  | '\'' :: cs =>
    if cs.getLast? = some '\'' then some (String.ofList (singleQuotes cs.dropLast)) else none
  | _ => none

/-- The innermost block is closed. -/
def close (b : Builder) (offset : Nat) : Except ParseError Builder :=
  match b.blocks with
  | [] => .error (.unmatched "END" offset)
  | block :: outer => .ok ({ b with blocks := outer }.push block.toNode)

/-- The separating line begins the second part of the innermost block, or is plain SQL. -/
def otherwise (b : Builder) (text : String) : Builder :=
  match b.blocks with
  | block :: outer =>
    match block.switch? with
    | some block => { b with blocks := block :: outer }
    | none => b.push (.literal text)
  | [] => b.push (.literal text)

/-- Takes one token. -/
def accept (b : Builder) (token : Token) : Except ParseError Builder :=
  match token.kind with
  | .sql text => .ok (b.push (.literal text))
  | .bind expression test =>
    (b.reference expression test token.offset).map fun v => b.push (.bind v)
  | .embedded expression test =>
    (b.reference expression test token.offset).map fun v => b.push (.embedded v)
  | .branch source =>
    match Expr.parse source with
    | .ok condition => .ok (b.enter (.branch condition source) token.offset)
    | .error e => .error (.invalidExpression source token.offset (.condition e))
  | .otherwise text => .ok (b.otherwise text)
  | .scope => .ok (b.enter .scope token.offset)
  | .close => b.close token.offset
  | .loop source => (path source token.offset).map fun path => b.enter (.loop path) token.offset
  | .connector argument =>
    (b.requireLoop "NEXT" token.offset).bind fun b =>
      match connector? argument with
      | some text => .ok (b.push (.connector text))
      | none => .error (.invalidExpression argument token.offset .connector)
  | .first => (b.requireLoop "FIRST" token.offset).map fun b => b.enter .first token.offset
  | .last => (b.requireLoop "LAST" token.offset).map fun b => b.enter .last token.offset

/-- Takes tokens one after the other. -/
def acceptAll (b : Builder) : List Token → Except ParseError Builder
  | [] => .ok b
  | token :: rest => (b.accept token).bind fun b => b.acceptAll rest

/-- The tree, if every block is closed. -/
def finish (b : Builder) : Except ParseError Template :=
  match b.blocks with
  | [] => .ok ⟨b.top.reverse⟩
  | block :: _ => .error (.unmatched block.kind.directive block.offset)

end Builder

namespace Template

/-- The tree of a sequence of tokens. -/
def ofTokens (nullDisallowed : Bool) (tokens : List Token) : Except ParseError Template :=
  (Builder.acceptAll { nullDisallowed } tokens).bind Builder.finish

/-- The tree of a text; `nullDisallowed` makes a null value of any variable a fault. -/
def parse (nullDisallowed : Bool) (text : String) : Except ParseError Template :=
  (Token.ofText text).bind (ofTokens nullDisallowed)

end Template

end SqlTemplate
