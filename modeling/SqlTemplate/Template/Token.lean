import SqlTemplate.Template.Error
import SqlTemplate.Template.TestValue

/-!
# The tokens of a template

A template is cut into stretches of plain SQL and directives. SQL itself is not understood:
strings are passed over, and so are comments that are no directives. A comment is a directive if
its body is a keyword, a keyword followed by a blank and a payload, or a variable, which is a path
with an optional `$` before it; a variable takes the test value behind it along. The line comment
`-- ELSE` is a directive, too. A token carries the byte offset at which it starts.
-/

namespace SqlTemplate

/-- The kinds of token. -/
inductive TokenKind where
  /-- Plain SQL. -/
  | sql (text : String)
  /-- A variable that is bound. -/
  | bind (expression : String) (test : TestValue)
  /-- A variable that is written into the statement. -/
  | embedded (expression : String) (test : TestValue)
  /-- The start of a conditional block. -/
  | branch (condition : String)
  /-- The line that separates the two parts of a conditional block. -/
  | otherwise (text : String)
  /-- The start of a scope. -/
  | scope
  /-- The end of a block. -/
  | close
  /-- The start of a loop. -/
  | loop (path : String)
  /-- What stands between the rounds of a loop. -/
  | connector (argument : String)
  /-- The start of a part for the first round only. -/
  | first
  /-- The start of a part for the last round only. -/
  | last
  deriving DecidableEq, Repr

/-- A token and the place where it starts. -/
structure Token where
  /-- What it is. -/
  kind : TokenKind
  /-- The byte offset of its first character. -/
  offset : Nat
  deriving DecidableEq, Repr

/-- What a comment with a directive as its body stands for. -/
inductive Directive where
  /-- A variable, which takes a test value. -/
  | reference (embedded : Bool) (expression : List Char)
  /-- A token of its own. -/
  | plain (kind : TokenKind)
  deriving DecidableEq, Repr

namespace Directive

/-- A variable starts with an ASCII letter, `_` or `#` and goes on with those, digits and points;
everything else is prose. -/
def isVariable : List Char → Bool
  | [] => false
  | c :: cs =>
    (c.isAlpha || c == '_' || c == '#') &&
      cs.all fun c => c.isAlphanum || c == '_' || c == '.' || c == '#'

/-- What follows a keyword and a blank, without blanks at either end. -/
def payload? (keyword body : List Char) : Option String :=
  if (keyword ++ [' ']).isPrefixOf body then
    some (String.ofList (Text.trim (body.drop (keyword.length + 1))))
  else none

/-- A keyword with its payload. A keyword that lacks its payload has an empty one. -/
def withPayload? (body : List Char) : Option TokenKind :=
  if body = "IF".toList then some (.branch "")
  else if body = "FOR".toList then some (.loop "")
  else if body = "NEXT".toList then some (.connector "")
  else
    (payload? "IF".toList body).map TokenKind.branch <|>
      (payload? "FOR".toList body).map TokenKind.loop <|>
      (payload? "NEXT".toList body).map TokenKind.connector

/-- A keyword without a payload. -/
def keyword? (body : List Char) : Option TokenKind :=
  if body = "BEGIN".toList then some .scope
  else if body = "END".toList then some .close
  else if body = "FIRST".toList then some .first
  else if body = "LAST".toList then some .last
  else none

/-- A variable, with `$` before it if it is embedded. -/
def reference? (body : List Char) : Option Directive :=
  match body with
  | '$' :: path => if isVariable path then some (.reference true path) else none
  | path => if isVariable path then some (.reference false path) else none

/-- The directive that the body of a comment spells, if it spells one. -/
def classify? (body : List Char) : Option Directive :=
  (keyword? body).map plain <|> (withPayload? body).map plain <|> reference? body

/-- The body of the comment with this text after its opening holds strings. -/
def holdsStrings (text : List Char) : Bool :=
  "IF ".toList.isPrefixOf text || "NEXT ".toList.isPrefixOf text

end Directive

namespace Token

open Template Directive

/-- The token of a stretch of plain SQL; an empty stretch has none. -/
def plainSql (offset : Nat) (text : List Char) : List Token :=
  if text.isEmpty then [] else [⟨.sql (String.ofList text), offset⟩]

/-- What has been read: the plain SQL that comes first, and the tokens after it. -/
abbrev Scanned := List Char × List Token

/-- Plain SQL before what has been read. -/
def Scanned.afterSql (source : List Char) (scanned : Scanned) : Scanned :=
  (source ++ scanned.1, scanned.2)

/-- A directive before what has been read, which starts at `next`. -/
def Scanned.afterDirective (token : Token) (next : Nat) (scanned : Scanned) : Scanned :=
  ([], token :: plainSql next scanned.1 ++ scanned.2)

/-- The line comment is the one that separates the parts of a conditional block. -/
def isOtherwise (line : List Char) : Bool :=
  Text.trim line == "ELSE".toList

/-- Reads the text from an offset on. -/
def scan (offset : Nat) : List Char → Except ParseError Scanned
  | [] => .ok ([], [])
  | '\'' :: cs =>
    -- A string is plain SQL, whatever it holds.
    let source := '\'' :: (quotedTail cs).1
    (scan (offset + Text.utf8Size source) (quotedTail cs).2).map (Scanned.afterSql source)
  | '/' :: '*' :: cs =>
    match h : commentBody? (holdsStrings cs) 0 cs with
    | none => .error (.unclosedDirective offset)
    | some (body, rest) =>
      have hlt : rest.length < cs.length := by
        rw [eq_append_of_commentBody? h]; simp; omega
      let source := '/' :: '*' :: body ++ ['*', '/']
      let next := offset + Text.utf8Size source
      match classify? body with
      -- A comment that is no directive is plain SQL, too.
      | none => (scan next rest).map (Scanned.afterSql source)
      | some (.plain kind) => (scan next rest).map (Scanned.afterDirective ⟨kind, offset⟩ next)
      | some (.reference embedded path) =>
        match ht : TestValue.read? rest with
        | none => .error (.unbalancedTestValue next)
        | some (test, rest') =>
          have hle : rest'.length ≤ rest.length := TestValue.length_read?_le ht
          let kind := if embedded then TokenKind.embedded (String.ofList path) test
            else TokenKind.bind (String.ofList path) test
          -- The test value goes with the variable, and plain SQL starts behind it.
          let next := next + Text.utf8Size test.text.toList
          (scan next rest').map (Scanned.afterDirective ⟨kind, offset⟩ next)
  | '-' :: '-' :: cs =>
    -- The line break does not belong to the comment.
    let line := cs.takeWhile (· != '\n')
    let source := '-' :: '-' :: line
    let next := offset + Text.utf8Size source
    have : (cs.dropWhile (· != '\n')).length ≤ cs.length := (cs.dropWhile_sublist _).length_le
    if isOtherwise line then
      (scan next (cs.dropWhile (· != '\n'))).map
        (Scanned.afterDirective ⟨.otherwise (String.ofList source), offset⟩ next)
    else (scan next (cs.dropWhile (· != '\n'))).map (Scanned.afterSql source)
  | c :: cs => (scan (offset + c.utf8Size) cs).map (Scanned.afterSql [c])
termination_by cs => cs.length
decreasing_by
  · have := length_quotedTail_le cs; simp only [List.length_cons]; omega
  · simp only [List.length_cons]; omega
  · simp only [List.length_cons]; omega
  · simp only [List.length_cons]; omega
  · simp only [List.length_cons]; omega
  · simp only [List.length_cons]; omega
  · simp

/-- The tokens of a template. -/
def ofText (text : String) : Except ParseError (List Token) :=
  (scan 0 text.toList).map fun (sql, tokens) => plainSql 0 sql ++ tokens

end Token

end SqlTemplate
