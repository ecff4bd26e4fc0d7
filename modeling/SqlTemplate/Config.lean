import SqlTemplate.Decimal.Read
import SqlTemplate.Dialect

/-!
# Configuration

The settings of an engine. Each has a default, and each can be given by a variable of the
environment; a variable whose text has no meaning for its setting is passed over.
-/

namespace SqlTemplate

/-- What a bind does when its value is null. -/
inductive NullPolicy where
  /-- Write nothing and bind nothing. -/
  | skip
  /-- Fail. -/
  | reject
  deriving DecidableEq, Repr, Inhabited

namespace NullPolicy

/-- The name of the policy. -/
def name : NullPolicy → String
  | skip => "skip"
  | reject => "reject"

/-- The policy that a text names, in any case and with blanks around it. -/
def parse (text : String) : Except SettingError NullPolicy :=
  match settingWord text with
  | "skip" => .ok skip
  | "reject" => .ok reject
  | _ => .error (.invalidNullPolicy text)

end NullPolicy

/-- The settings of an engine. -/
structure Config where
  /-- The kind of dialect. -/
  dialect : DialectKind := .standard
  /-- What a bind does when its value is null. -/
  nullPolicy : NullPolicy := .skip
  /-- The greatest number of templates that are kept parsed. -/
  cacheCapacity : Nat := 1024
  /-- The in-list limit that replaces the one of the dialect. -/
  inListLimit : Option Nat := none
  /-- The name under which a template reaches the parameter object itself. -/
  rootAlias : String := "pmb"
  /-- The level of the log. -/
  logLevel : String := "info"

/-- The greatest number that a setting can hold. -/
def maxCount : Nat := UInt64.size - 1

/-- A count as a setting spells it: digits with an optional plus sign. -/
def count? (text : String) : Option Nat :=
  let digits := match text.toList with
    | '+' :: rest => rest
    | cs => cs
  if !digits.isEmpty && digits.all Char.isDigit && Decimal.digitsValue digits ≤ maxCount then
    some (Decimal.digitsValue digits)
  else none

namespace Config

/-- The dialect that the settings ask for. -/
def toDialect (c : Config) : Dialect :=
  ⟨c.dialect, c.inListLimit⟩

/-- The settings that the variables of an environment ask for. -/
def ofEnvironment (environment : String → Option String) : Config :=
  let fallback : Config := {}
  let given := (environment "TWOWAYSQL_ROOT_ALIAS").map fun text =>
    String.ofList (Text.trim text.toList)
  { dialect := ((environment "TWOWAYSQL_DIALECT").bind fun text =>
      (DialectKind.parse text).toOption).getD fallback.dialect
    nullPolicy := ((environment "TWOWAYSQL_NULL_POLICY").bind fun text =>
      (NullPolicy.parse text).toOption).getD fallback.nullPolicy
    cacheCapacity :=
      ((environment "TWOWAYSQL_TEMPLATE_CACHE_CAPACITY").bind count?).getD fallback.cacheCapacity
    inListLimit := (environment "TWOWAYSQL_IN_CLAUSE_MAX_SIZE").bind fun text =>
      (count? text).filter (0 < ·)
    rootAlias := (given.filter (!·.isEmpty)).getD fallback.rootAlias
    logLevel := (environment "LOG_LEVEL").getD fallback.logLevel }

end Config

end SqlTemplate
