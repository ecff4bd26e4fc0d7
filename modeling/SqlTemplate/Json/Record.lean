import SqlTemplate.Json.Decode

/-!
# Records and variants

A record is an object with a member for each of its fields, in any order, and members of other names
are passed over; it may also be an array of its fields in their order. A variant is a name out of a
list, and may also be an object whose only member has that name and the value null.
-/

namespace SqlTemplate.Json

/-- One field of a record that is read into `σ`. -/
structure Field (σ : Type) where
  /-- Its name. -/
  name : String
  /-- The field has been read. -/
  isRead : σ → Bool
  /-- Reads the field. -/
  read : Nat → Document → σ → Except ReadError σ
  /-- An array may end before the field. -/
  mayLack : Bool := false

/-- The field whose value `decoder` takes; `get` and `put` are its place in `σ`. -/
def Field.of {σ α : Type} (name : String) (decoder : Decoder α) (get : σ → Option α)
    (put : σ → α → σ) (mayLack : Bool := false) : Field σ where
  name
  isRead := fun s => (get s).isSome
  read := fun room d s => return put s (← decoder room d)
  mayLack

/-- Reads fields by their names. -/
def Members.fill {σ : Type} (fields : List (Field σ)) (room : Nat) (s : σ) :
    Members → Except ReadError σ
  | .done => .ok s
  | .cons (some name) value rest =>
    match fields.find? fun field => field.name == name with
    | none => do value.skip; rest.fill fields room s
    -- A repeated field is noticed at its name, before its value is looked at.
    | some field =>
      if field.isRead s then .error (.shape (.repeatedField name))
      else do rest.fill fields room (← field.read room value s)
  | _ => .error .malformed

/-- Reads fields by their places, from the one at `index` on. -/
def Items.fill {σ : Type} (expected : String) (room : Nat) :
    (index : Nat) → List (Field σ) → σ → Items → Except ReadError σ
  | _, [], s, .done => .ok s
  | index, field :: fields, s, .done =>
    if field.mayLack then fill expected room (index + 1) fields s .done
    else .error (.shape (.wrongLength index expected))
  | index, field :: fields, s, .cons item rest => do
    fill expected room (index + 1) fields (← field.read room item s) rest
  | _, _, _, _ => .error .malformed

/-- A count with its noun. -/
def counted (n : Nat) (noun : String) : String :=
  toString n ++ " " ++ noun ++ (if n = 1 then "" else "s")

/-- A field that must be there. -/
def required {α : Type} (name : String) : Option α → Except ReadError α
  | some a => .ok a
  | none => .error (.shape (.missingField name))

namespace Decoder

/-- A record with a title: its fields are read into `start`, and `finish` makes a value of them. -/
def record {σ α : Type} (title : String) (fields : List (Field σ)) (start : σ)
    (finish : σ → Except ReadError α) : Decoder α
  | room, .object members =>
    enter room fun room => do finish (← members.fill fields room start)
  | room, .array items =>
    enter room fun room => do
      let expected := title ++ " with " ++ counted fields.length "element"
      finish (← items.fill expected room 0 fields start)
  | _, d => d.mismatch title

/-- The variant of a name. -/
def variantOf {α : Type} (variants : List (String × α)) (name : String) : Except ReadError α :=
  match variants.lookup name with
  | some a => .ok a
  | none => .error (.shape (.unknownVariant name (variants.map Prod.fst)))

/-- A variant that is given by its name, in a place where only the name may stand. -/
def variantName {α : Type} (variants : List (String × α)) : Decoder α
  | _, .string (some name) => variantOf variants name
  | _, d => d.mismatch "variant identifier"

/-- The only member of an object that stands for a variant. -/
def soleVariant {α : Type} (variants : List (String × α)) : Members → Except ReadError α
  | .cons (some name) value rest => do
    let a ← variantOf variants name
    match value, rest with
    | .null, .done => return a
    | .null, _ => throw .malformed
    | value, _ => value.mismatch "unit"
  | _ => .error .malformed

/-- A variant. -/
def variant {α : Type} (variants : List (String × α)) : Decoder α
  | _, .string (some name) => variantOf variants name
  | room, .object members => enter room fun _ => soleVariant variants members
  | _, _ => .error .malformed

end Decoder

end SqlTemplate.Json
