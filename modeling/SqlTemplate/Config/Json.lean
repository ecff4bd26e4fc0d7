import SqlTemplate.Config
import SqlTemplate.Json.Record

/-!
# Settings in JSON

The settings of an engine are written as a record. Reading it, unlike reading the environment,
accepts the names of dialects and policies only as they are written.
-/

namespace SqlTemplate

open Json (Decoder Field ReadError)

namespace DialectKind

/-- The kinds by their names. -/
def names : List (String × DialectKind) :=
  [standard, postgres, mysql, oracle].map fun kind => (kind.name, kind)

/-- Takes a kind of dialect. -/
def decoder : Decoder DialectKind :=
  Decoder.variant names

end DialectKind

namespace NullPolicy

/-- The policies by their names. -/
def names : List (String × NullPolicy) :=
  [skip, reject].map fun policy => (policy.name, policy)

/-- Takes a null policy. -/
def decoder : Decoder NullPolicy :=
  Decoder.variant names

end NullPolicy

namespace Config

/-- The settings in JSON. -/
def toJson (c : Config) : Json :=
  .object
    [ ("dialect", .string c.dialect.name),
      ("nullPolicy", .string c.nullPolicy.name),
      ("templateCacheCapacity", .integer c.cacheCapacity),
      ("inClauseMaxSize", match c.inListLimit with | some n => .integer n | none => .null),
      ("rootAlias", .string c.rootAlias),
      ("logLevel", .string c.logLevel) ]

/-- Settings as far as they have been read. -/
structure Part where
  /-- The kind of dialect. -/
  dialect : Option DialectKind := none
  /-- The null policy. -/
  nullPolicy : Option NullPolicy := none
  /-- The greatest number of templates that are kept. -/
  cacheCapacity : Option Nat := none
  /-- The in-list limit, which may be null. -/
  inListLimit : Option (Option Nat) := none
  /-- The alias of the parameter object. -/
  rootAlias : Option String := none
  /-- The level of the log. -/
  logLevel : Option String := none

/-- The settings of a part that has every field but perhaps the in-list limit. -/
def Part.toConfig (p : Part) : Except ReadError Config := do
  return {
    dialect := ← Json.required "dialect" p.dialect
    nullPolicy := ← Json.required "nullPolicy" p.nullPolicy
    cacheCapacity := ← Json.required "templateCacheCapacity" p.cacheCapacity
    inListLimit := p.inListLimit.getD none
    rootAlias := ← Json.required "rootAlias" p.rootAlias
    logLevel := ← Json.required "logLevel" p.logLevel }

/-- Takes settings. -/
def decoder : Decoder Config :=
  Decoder.record "struct EngineConfig"
    [ Field.of "dialect" DialectKind.decoder Part.dialect
        fun p kind => { p with dialect := some kind },
      Field.of "nullPolicy" NullPolicy.decoder Part.nullPolicy
        fun p policy => { p with nullPolicy := some policy },
      Field.of "templateCacheCapacity" Decoder.count Part.cacheCapacity
        fun p n => { p with cacheCapacity := some n },
      Field.of "inClauseMaxSize" Decoder.count.optional Part.inListLimit
        fun p n => { p with inListLimit := some n },
      Field.of "rootAlias" Decoder.string Part.rootAlias
        fun p name => { p with rootAlias := some name },
      Field.of "logLevel" Decoder.string Part.logLevel
        fun p level => { p with logLevel := some level } ]
    {} Part.toConfig

end Config

end SqlTemplate
