import SqlTemplate.Json.Record
import SqlTemplate.Query.Key
import SqlTemplate.Query.Like

/-!
# Conditions in JSON

Keys and like options are written by their names. A decision is written as an object whose member
`decision` names it, with the place of the clause beside it where one is written anew; the other
members are looked at only once the whole object has been read.
-/

namespace SqlTemplate

open Json (Decoder Document Field Items Members ReadError)

namespace ConditionKey

/-- Takes a kind of condition. -/
def decoder : Decoder ConditionKey :=
  Decoder.variant (all.map fun key => (key.name, key))

end ConditionKey

namespace LikeOption

/-- The option in JSON. -/
def toJson (o : LikeOption) : Json :=
  .object [("kind", .string o.kind.name), ("escape", .string o.escape.toString)]

/-- An option as far as it has been read. -/
structure Part where
  /-- Where the wildcards stand. -/
  kind : Option LikeKind := none
  /-- The escape character. -/
  escape : Option Char := none

/-- The option of a part that has every field. -/
def Part.toOption (p : Part) : Except ReadError LikeOption := do
  return ⟨← Json.required "kind" p.kind, ← Json.required "escape" p.escape⟩

/-- Takes an option. -/
def decoder : Decoder LikeOption :=
  Decoder.record "struct LikeSearchOption"
    [ Field.of "kind" (Decoder.variant (LikeKind.all.map fun kind => (kind.name, kind))) Part.kind
        fun p kind => { p with kind := some kind },
      Field.of "escape" Decoder.char Part.escape fun p c => { p with escape := some c } ]
    {} Part.toOption

end LikeOption

namespace Decision

/-- The name of the member that names a decision. -/
def tag : String := "decision"

/-- The name of the member that gives the place of a clause. -/
def locationKey : String := "location"

/-- The name of the decision. -/
def name : Decision → String
  | ignore => "ignore"
  | duplicate => "duplicate"
  | override _ => "override"
  | emit => "emit"

/-- The decision in JSON. -/
def toJson (d : Decision) : Json :=
  .object <| (tag, .string d.name) ::
    match d with
    | override location => [(locationKey, .integer location)]
    | _ => []

/-- What the name of a decision stands for: a decision, or `none` for the one that needs a place. -/
def names : List (String × Option Decision) :=
  [("ignore", some ignore), ("duplicate", some duplicate), ("override", none), ("emit", some emit)]

/-- The place of the clause among members that are not the tag. -/
def locationOf (room : Nat) (found : Option Nat) : Members → Except ReadError Decision
  | .done => do return override (← Json.required locationKey found)
  | .cons (some name) value rest =>
    if name = locationKey then
      if found.isSome then .error (.shape (.repeatedField locationKey))
      else do locationOf room (some (← Decoder.count room value)) rest
    else locationOf room found rest
  | _ => .error .malformed

/-- The members of a decision: what the tag names, if it has been met, and the other members. -/
def splitTag (room : Nat) (found : Option (Option Decision)) :
    Members → Except ReadError (Option (Option Decision) × Members)
  | .done => .ok (found, .done)
  | .cons (some name) value rest =>
    if name = tag then
      if found.isSome then .error (.shape (.repeatedField tag))
      else do splitTag room (some (← Decoder.variantName names room value)) rest
    else do
      value.check room
      let (found, others) ← splitTag room found rest
      return (found, .cons (some name) value others)
  | _ => .error .malformed

/-- The number of items. -/
def count : Items → Nat
  | .cons _ rest => count rest + 1
  | _ => 0

/-- The fault of items of which `expected` were expected. -/
def wrongCount (found expected : Nat) : ReadError :=
  .shape (.wrongLength found (Json.counted expected "element" ++ " in sequence"))

/-- The decision that a name and the items behind it stand for. -/
def ofItems (room : Nat) : Option Decision → Items → Except ReadError Decision
  | some d, .done => .ok d
  | some _, items => .error (wrongCount (count items) 0)
  | none, .cons location .done => do return override (← Decoder.count room location)
  | none, .cons location rest => do
    let _ ← Decoder.count room location
    throw (wrongCount (count rest + 1) 1)
  | none, _ => .error (.shape (.wrongLength 0 "struct variant Decision::Override with 1 element"))

/-- Takes a decision, which may also be an array of its name and its place. -/
def decoder : Decoder Decision
  | room, .object members =>
    Json.enter room fun room => do
      let (found, others) ← splitTag room none members
      match ← Json.required tag found with
      | some d => return d
      | none => locationOf room none others
  | room, .array items =>
    Json.enter room fun room =>
      match items with
      | .done => .error (.shape (.missingField tag))
      | .cons name rest => do
        let found ← Decoder.variantName names room name
        rest.check room
        ofItems room found rest
      | .broken => .error .malformed
  | _, d => d.mismatch "internally tagged enum Decision"

end Decision

end SqlTemplate
