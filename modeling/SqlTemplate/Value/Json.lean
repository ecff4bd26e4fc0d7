import SqlTemplate.Json.Decode
import SqlTemplate.Value

/-!
# Values in JSON

A value is written as the JSON value of its kind, a date or timestamp as an object with one member
`$date` or `$timestamp`. Reading takes an object for a date or timestamp if its first member has
that name; such an object has no other member. A number with a fraction or a power of ten is a
decimal, and so is one that does not fit into 64 bits.
-/

namespace SqlTemplate

open Json (Document Items Members ReadError Decoder)

namespace Value

/-- The name of the member that stands for a date. -/
def dateKey : String := "$date"

/-- The name of the member that stands for a timestamp. -/
def timestampKey : String := "$timestamp"

mutual

/-- The value in JSON. -/
def toJson : Value → Json
  | null => .null
  | bool b => .bool b
  | integer n => .integer n.toInt
  | decimal x => .float x
  | string s => .string s
  | date d => .object [(dateKey, .string d.toText)]
  | timestamp t => .object [(timestampKey, .string (t.toText 'T' .exact))]
  | list items => .array (itemsToJson items)
  | object properties => .object (propertiesToJson properties)

/-- The items of a list in JSON. -/
def itemsToJson : List Value → List Json
  | [] => []
  | v :: rest => v.toJson :: itemsToJson rest

/-- The properties of an object in JSON. -/
def propertiesToJson : List (String × Value) → List (String × Json)
  | [] => []
  | (name, v) :: rest => (name, v.toJson) :: propertiesToJson rest

end

/-- The value of a number. -/
def ofNumber : Json.Number → Except ReadError Value
  | .float x => .ok (.decimal x)
  | .integer n =>
    if n ≤ Int64.maxValue.toInt then .ok (.integer (Int64.ofInt n))
    else .error (.shape (.tooLarge n))

/-- A value that a calendar text spells, as the only member of its object. -/
def ofCalendar {α : Type} (read : String → Except CalendarError α) (value : α → Value)
    (text : Document) (rest : Members) : Except ReadError Value := do
  let s ← Decoder.string 0 text
  match read s, rest with
  | .error e, _ => throw (.shape (.calendar e))
  | .ok a, .done => return value a
  | .ok _, _ => throw .malformed

/-- The date or timestamp that members stand for, if the first one says that they do. -/
def tagged? : Members → Option (Except ReadError Value)
  | .cons (some name) text rest =>
    if name = dateKey then some (ofCalendar Date.read .date text rest)
    else if name = timestampKey then some (ofCalendar (Timestamp.read 'T') .timestamp text rest)
    else none
  | _ => none

mutual

/-- Takes a value out of a document. -/
def ofDocument (room : Nat) : Document → Except ReadError Value
  | .null => .ok .null
  | .bool b => .ok (.bool b)
  | .number n =>
    match n.value? with
    | some number => ofNumber number
    | none => .error .malformed
  | .string (some s) => .ok (.string s)
  | .string none => .error .malformed
  | .array items =>
    if room = 0 then .error .malformed
    else do return .list (← ofItems (room - 1) items)
  | .object members =>
    if room = 0 then .error .malformed
    else
      match tagged? members with
      | some result => result
      | none => do return .object (NameMap.ofEntries (← ofMembers (room - 1) members))
  | .broken => .error .malformed

/-- Takes the items of an array. -/
def ofItems (room : Nat) : Items → Except ReadError (List Value)
  | .done => .ok []
  | .cons item rest => do return (← ofDocument room item) :: (← ofItems room rest)
  | .broken => .error .malformed

/-- Takes the members of an object, in their order and with repeated names. -/
def ofMembers (room : Nat) : Members → Except ReadError (List (String × Value))
  | .done => .ok []
  | .cons (some name) value rest => do
    return (name, ← ofDocument room value) :: (← ofMembers room rest)
  | _ => .error .malformed

end

/-- Takes any value. -/
def decoder : Decoder Value :=
  ofDocument

end Value

namespace Properties

/-- The properties in JSON. -/
def toJson (properties : Properties) : Json :=
  .object (Value.propertiesToJson properties)

/-- Takes an object, every member as a property. -/
def decoder : Decoder Properties
  | room, .object members =>
    Json.enter room fun room => NameMap.ofEntries <$> Value.ofMembers room members
  | _, d => d.mismatch "a map"

end Properties

end SqlTemplate
