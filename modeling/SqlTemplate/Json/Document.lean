import SqlTemplate.Json.Token

/-!
# JSON documents

The tree that a text spells, as far as it spells one: where it goes wrong, the tree holds a `broken`
part in the place of what is missing. So whoever takes a value out of a document from left to right
meets its first fault in the place where it stands, and can have found another reason to stop
before that. Members keep their order and repeated names.
-/

namespace SqlTemplate.Json

mutual

/-- A document. -/
inductive Document where
  /-- The word for null. -/
  | null
  /-- A truth value. -/
  | bool (b : Bool)
  /-- A number. -/
  | number (n : Numeral)
  /-- A string, and its text unless a surrogate in it has no partner. -/
  | string (s : Option String)
  /-- An array. -/
  | array (items : Items)
  /-- An object. -/
  | object (members : Members)
  /-- Something that is no value. -/
  | broken

/-- The items of an array from some place on. -/
inductive Items where
  /-- The end of the array. -/
  | done
  /-- One more item. -/
  | cons (item : Document) (rest : Items)
  /-- Neither an end nor an item. -/
  | broken

/-- The members of an object from some place on. -/
inductive Members where
  /-- The end of the object. -/
  | done
  /-- One more member; its value is broken if no colon follows its name. -/
  | cons (name : Option String) (value : Document) (rest : Members)
  /-- Neither an end nor a member. -/
  | broken

end

/-- Something read from tokens, with the tokens that are left, which are no more than before. -/
abbrev Reading (α : Type) (tokens : List Token) :=
  { result : α × List Token // result.2.length ≤ tokens.length }

mutual

/-- The value that starts with a token. -/
def Document.ofToken (t : Token) (rest : List Token) : Reading Document rest :=
  match t with
  | .null => ⟨(.null, rest), Nat.le_refl _⟩
  | .bool b => ⟨(.bool b, rest), Nat.le_refl _⟩
  | .number n => ⟨(.number n, rest), Nat.le_refl _⟩
  | .string s => ⟨(.string s, rest), Nat.le_refl _⟩
  | .openArray =>
    let ⟨(items, after), h⟩ := Items.ofTokens rest
    ⟨(.array items, after), h⟩
  | .openObject =>
    let ⟨(members, after), h⟩ := Members.ofTokens rest
    ⟨(.object members, after), h⟩
  | _ => ⟨(.broken, []), Nat.zero_le _⟩
termination_by (rest.length, 3)

/-- The items of an array after its opening bracket. -/
def Items.ofTokens (tokens : List Token) : Reading Items tokens :=
  match tokens with
  | .closeArray :: rest => ⟨(.done, rest), Nat.le_succ _⟩
  | t :: rest =>
    let ⟨(item, rest'), h⟩ := Document.ofToken t rest
    have : rest'.length ≤ rest.length := h
    let ⟨(items, after), h'⟩ := Items.further rest'
    ⟨(.cons item items, after), Nat.le_succ_of_le (Nat.le_trans h' h)⟩
  | [] => ⟨(.broken, []), Nat.le_refl _⟩
termination_by (tokens.length, 0)

/-- The items of an array after one of them. -/
def Items.further (tokens : List Token) : Reading Items tokens :=
  match tokens with
  | .closeArray :: rest => ⟨(.done, rest), Nat.le_succ _⟩
  | .comma :: t :: rest =>
    let ⟨(item, rest'), h⟩ := Document.ofToken t rest
    have : rest'.length ≤ rest.length := h
    let ⟨(items, after), h'⟩ := Items.further rest'
    ⟨(.cons item items, after), Nat.le_succ_of_le (Nat.le_succ_of_le (Nat.le_trans h' h))⟩
  | _ => ⟨(.broken, []), Nat.zero_le _⟩
termination_by (tokens.length, 0)

/-- The members of an object after its opening brace. -/
def Members.ofTokens (tokens : List Token) : Reading Members tokens :=
  match tokens with
  | .closeObject :: rest => ⟨(.done, rest), Nat.le_succ _⟩
  | tokens => Members.entry tokens
termination_by (tokens.length, 2)

/-- A member of an object and those after it. -/
def Members.entry (tokens : List Token) : Reading Members tokens :=
  match tokens with
  | .string name :: .colon :: t :: rest =>
    let ⟨(value, rest'), h⟩ := Document.ofToken t rest
    have : rest'.length ≤ rest.length := h
    let ⟨(members, after), h'⟩ := Members.further rest'
    ⟨(.cons name value members, after),
      Nat.le_succ_of_le (Nat.le_succ_of_le (Nat.le_succ_of_le (Nat.le_trans h' h)))⟩
  | .string name :: _ => ⟨(.cons name .broken .broken, []), Nat.zero_le _⟩
  | _ => ⟨(.broken, []), Nat.zero_le _⟩
termination_by (tokens.length, 1)

/-- The members of an object after one of them. -/
def Members.further (tokens : List Token) : Reading Members tokens :=
  match tokens with
  | .closeObject :: rest => ⟨(.done, rest), Nat.le_succ _⟩
  | .comma :: rest =>
    let ⟨(members, after), h⟩ := Members.entry rest
    ⟨(members, after), Nat.le_succ_of_le h⟩
  | _ => ⟨(.broken, []), Nat.zero_le _⟩
termination_by (tokens.length, 0)

end

/-- The document that tokens start with, and the tokens after it. -/
def Document.ofTokens : List Token → Document × List Token
  | [] => (.broken, [])
  | t :: rest => (Document.ofToken t rest).val

/-- The document that a text starts with, and the tokens after it. -/
def Document.ofText (text : String) : Document × List Token :=
  Document.ofTokens (scan text.toList)

end SqlTemplate.Json
