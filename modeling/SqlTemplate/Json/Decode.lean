import SqlTemplate.Json.Document
import SqlTemplate.Json.Error

/-!
# Taking values out of a document

A decoder takes a value out of a document, from left to right, and stops at the first fault. It is
given the number of arrays and objects that the document may still nest; each one that is entered
takes one of them. What a decoder has no use for is passed over by `skip`, which only asks that it
is well formed, and what is wanted later by `check`, which asks as much as taking a value out of it
would.
-/

namespace SqlTemplate.Json

/-- How deep arrays and objects may nest. -/
def maxNesting : Nat := 127

/-- Enters an array or object, if one may be entered. -/
def enter {α : Type} (room : Nat) (inside : Nat → Except ReadError α) : Except ReadError α :=
  match room with
  | 0 => .error .malformed
  | room + 1 => inside room

namespace Document

/-- The document at a glance. -/
def shape : Document → Except ReadError Shape
  | null => .ok .null
  | bool b => .ok (.bool b)
  | number n =>
    match n.value? with
    | some (.integer i) => .ok (.integer i)
    | some (.float x) => .ok (.float x)
    | none => .error .malformed
  | string (some s) => .ok (.string s)
  | string none => .error .malformed
  | array _ => .ok .array
  | object _ => .ok .object
  | broken => .error .malformed

/-- The fault of a document in whose place something else was expected. -/
def mismatch {α : Type} (expected : String) (d : Document) : Except ReadError α := do
  throw (.shape (.wrongType (← d.shape) expected))

end Document

mutual

/-- The document is well formed. -/
def Document.skip : Document → Except ReadError Unit
  | .array items => items.skip
  | .object members => members.skip
  | .broken => .error .malformed
  | _ => .ok ()

/-- The items are well formed. -/
def Items.skip : Items → Except ReadError Unit
  | .done => .ok ()
  | .cons item rest => do item.skip; rest.skip
  | .broken => .error .malformed

/-- The members are well formed. -/
def Members.skip : Members → Except ReadError Unit
  | .done => .ok ()
  | .cons _ value rest => do value.skip; rest.skip
  | _ => .error .malformed

end

mutual

/-- The document is well formed, its numbers are in range, its strings stand for texts and it nests
no deeper than `room`. -/
def Document.check (room : Nat) : Document → Except ReadError Unit
  | .array items => if room = 0 then .error .malformed else items.check (room - 1)
  | .object members => if room = 0 then .error .malformed else members.check (room - 1)
  | d => do let _ ← d.shape

/-- The items are in order in the same way. -/
def Items.check (room : Nat) : Items → Except ReadError Unit
  | .done => .ok ()
  | .cons item rest => do item.check room; rest.check room
  | .broken => .error .malformed

/-- The members are in order in the same way. -/
def Members.check (room : Nat) : Members → Except ReadError Unit
  | .done => .ok ()
  | .cons (some _) value rest => do value.check room; rest.check room
  | _ => .error .malformed

end

/-- A way to take a value out of a document that may nest to a given depth. -/
abbrev Decoder (α : Type) := Nat → Document → Except ReadError α

namespace Decoder

/-- A string. -/
def string : Decoder String
  | _, .string (some s) => .ok s
  | _, d => d.mismatch "a string"

/-- A string of one character. -/
def char : Decoder Char
  | _, .string (some s) =>
    match s.toList with
    | [c] => .ok c
    | _ => .error (.shape (.wrongValue (.string s) "a character"))
  | _, d => d.mismatch "a character"

/-- A whole number that is not negative. -/
def count : Decoder Nat
  | _, d => do
    match ← d.shape with
    | .integer n =>
      if n < 0 then throw (.shape (.wrongValue (.integer n) "usize")) else return n.toNat
    | found => throw (.shape (.wrongType found "usize"))

/-- Null, or what another decoder takes. -/
def optional {α : Type} (decoder : Decoder α) : Decoder (Option α)
  | _, .null => .ok none
  | room, d => some <$> decoder room d

end Decoder

/-- The items, each taken by the same decoder. -/
def Items.decode {α : Type} (decode : Document → Except ReadError α) :
    Items → Except ReadError (List α)
  | .done => .ok []
  | .cons item rest => do return (← decode item) :: (← rest.decode decode)
  | .broken => .error .malformed

namespace Decoder

/-- An array. -/
def list {α : Type} (decoder : Decoder α) : Decoder (List α)
  | room, .array items => enter room fun room => items.decode (decoder room)
  | _, d => d.mismatch "a sequence"

/-- The value that a whole text spells; only blanks may follow it. -/
def read {α : Type} (decoder : Decoder α) (text : String) : Except ReadError α := do
  let (document, rest) := Document.ofText text
  let a ← decoder maxNesting document
  if rest.isEmpty then return a else throw .malformed

end Decoder

end SqlTemplate.Json
