import SqlTemplate.Statement
import SqlTemplate.Text.Blank

/-!
# Dialects

What differs between databases: the text of a placeholder, the literals of strings, dates and
timestamps, and how many elements one in-list may have. A dialect is one of the four kinds with
an optional limit of its own for in-lists.
-/

namespace SqlTemplate

/-- A text with its ASCII capitals in lower case and without the blanks at either end, as the
spelling of a setting is compared. -/
def settingWord (text : String) : String :=
  String.ofList ((Text.trim text.toList).map Char.toLower)

/-- A setting that has no meaning. -/
inductive SettingError where
  /-- No dialect has this name. -/
  | unknownDialect (text : String)
  /-- No null policy has this name. -/
  | invalidNullPolicy (text : String)
  deriving DecidableEq, Repr

/-- The wording of the error. -/
def SettingError.message : SettingError → String
  | unknownDialect text =>
    "unknown dialect: " ++ text ++ " (expected standard, postgres, mysql or oracle)"
  | invalidNullPolicy text =>
    "configuration error: invalid null policy: " ++ text ++ " (expected skip or reject)"

/-- The kinds of dialect. -/
inductive DialectKind where
  /-- What most databases accept. -/
  | standard
  /-- Numbered placeholders and typed literals. -/
  | postgres
  /-- A backslash escapes inside a string literal. -/
  | mysql
  /-- Typed literals and at most a thousand elements in an in-list. -/
  | oracle
  deriving DecidableEq, Repr, Inhabited

namespace DialectKind

/-- The name of the kind. -/
def name : DialectKind → String
  | standard => "standard"
  | postgres => "postgres"
  | mysql => "mysql"
  | oracle => "oracle"

/-- The kind that a text names, in any case and with blanks around it. -/
def parse (text : String) : Except SettingError DialectKind :=
  match settingWord text with
  | "standard" | "ansi" => .ok standard
  | "postgres" | "postgresql" => .ok postgres
  | "mysql" => .ok mysql
  | "oracle" => .ok oracle
  | _ => .error (.unknownDialect text)

end DialectKind

/-- A dialect. -/
structure Dialect where
  /-- Its kind. -/
  kind : DialectKind := .standard
  /-- The in-list limit that replaces the one of the kind. -/
  limitOverride : Option Nat := none
  deriving DecidableEq, Repr

namespace Dialect

/-- The name of the dialect. -/
def name (d : Dialect) : String :=
  d.kind.name

/-- The driver accepts placeholders with names. -/
def namesBinds (d : Dialect) : Bool :=
  d.kind == .oracle

/-- The greatest number of elements of one in-list, if there is one. -/
def inListLimit (d : Dialect) : Option Nat :=
  d.limitOverride <|> if d.kind = .oracle then some 1000 else none

/-- The placeholder of the bind at a position, counted from 1. -/
def placeholder (d : Dialect) (position : Nat) : String :=
  match d.kind with
  | .postgres => "$" ++ toString position
  | _ => "?"

/-- All kinds but one have the same placeholder at every position. -/
theorem placeholder_of_ne_postgres {d : Dialect} (h : d.kind ≠ .postgres) (position : Nat) :
    d.placeholder position = "?" := by
  obtain ⟨kind, limit⟩ := d
  cases kind with
  | postgres => exact absurd rfl h
  | _ => rfl

/-- The word before the literal of a date and before that of a timestamp. -/
def literalWords (d : Dialect) : String × String :=
  match d.kind with
  | .standard | .mysql => ("", "")
  | .postgres => ("DATE ", "TIMESTAMP ")
  | .oracle => ("date ", "timestamp ")

/-- The literal of a date. -/
def dateLiteral (d : Dialect) (date : Date) : String :=
  d.literalWords.1 ++ "'" ++ date.toText ++ "'"

/-- The literal of a timestamp. -/
def timestampLiteral (d : Dialect) (t : Timestamp) : String :=
  d.literalWords.2 ++ "'" ++ Value.timestampText t ++ "'"

/-- What stands for a character inside a string literal: a quote is doubled, and so is a backslash
where it escapes. -/
def escapeChar (d : Dialect) (c : Char) : List Char :=
  if c = '\'' then ['\'', '\'']
  else if c = '\\' ∧ d.kind = .mysql then ['\\', '\\']
  else [c]

/-- The literal of a string. -/
def quote (d : Dialect) (s : String) : String :=
  String.ofList ('\'' :: s.toList.flatMap d.escapeChar ++ ['\''])

mutual

/-- The literal of a value; a list is written as its literals in parentheses. -/
def literal (d : Dialect) : Value → String
  | .null => "null"
  | .string s => d.quote s
  | .date date => d.dateLiteral date
  | .timestamp t => d.timestampLiteral t
  | .list items => "(" ++ ", ".intercalate (d.literals items) ++ ")"
  | v => v.display

/-- The literals of a list of values. -/
def literals (d : Dialect) : List Value → List String
  | [] => []
  | v :: rest => d.literal v :: d.literals rest

end

end Dialect

end SqlTemplate
