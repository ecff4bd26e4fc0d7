/-!
# Like patterns

A like condition matches a text that a column starts with, ends with, contains or equals. The
wildcards of the text itself, and the character that escapes them, are escaped before the
pattern's own wildcards are put around it.
-/

namespace SqlTemplate

/-- Where the wildcards of a pattern stand. -/
inductive LikeKind where
  /-- The column starts with the text. -/
  | startsWith
  /-- The column contains the text. -/
  | contains
  /-- The column ends with the text. -/
  | endsWith
  /-- The column equals the text. -/
  | exact
  deriving DecidableEq, Repr

namespace LikeKind

/-- Every kind. -/
def all : List LikeKind :=
  [startsWith, contains, endsWith, exact]

/-- The name of the kind. -/
def name : LikeKind → String
  | startsWith => "prefix"
  | contains => "contain"
  | endsWith => "suffix"
  | exact => "exact"

/-- The kind of a name. -/
def ofName? (name : String) : Option LikeKind :=
  all.find? fun kind => kind.name == name

end LikeKind

/-- How a pattern is made of a text. -/
structure LikeOption where
  /-- Where its wildcards stand. -/
  kind : LikeKind := .exact
  /-- The character that escapes wildcards. -/
  escape : Char := '|'
  deriving DecidableEq, Repr

namespace LikeOption

/-- The text with its wildcards and its escape characters escaped. -/
def escapeChars (o : LikeOption) (text : List Char) : List Char :=
  text.flatMap fun c => if c = o.escape ∨ c = '%' ∨ c = '_' then [o.escape, c] else [c]

/-- The pattern of a text. -/
def pattern (o : LikeOption) (text : List Char) : List Char :=
  match o.kind with
  | .startsWith => o.escapeChars text ++ ['%']
  | .contains => '%' :: o.escapeChars text ++ ['%']
  | .endsWith => '%' :: o.escapeChars text
  | .exact => o.escapeChars text

/-- The text with its wildcards and its escape characters escaped. -/
def escapeText (o : LikeOption) (text : String) : String :=
  String.ofList (o.escapeChars text.toList)

/-- The pattern of a text. -/
def apply (o : LikeOption) (text : String) : String :=
  String.ofList (o.pattern text.toList)

/-- The literal of the escape character. -/
def escapeLiteral (o : LikeOption) : String :=
  if o.escape = '\'' then "''''" else "'" ++ o.escape.toString ++ "'"

/-- The clause on a column, with a mark for the pattern. -/
def clause (o : LikeOption) (column : String) : String :=
  column ++ " like ? escape " ++ o.escapeLiteral

end LikeOption

end SqlTemplate
