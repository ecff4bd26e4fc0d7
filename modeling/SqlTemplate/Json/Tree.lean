import SqlTemplate.Decimal.Layout
import SqlTemplate.Json.Quoted

/-!
# JSON texts

A tree of JSON values and its two written forms: compact, without any blank, and pretty, with each
item and member on a line of its own. Members stay in the order in which the tree has them.
-/

namespace SqlTemplate

/-- A JSON value as it is written. -/
inductive Json where
  /-- The word for null. -/
  | null
  /-- A truth value. -/
  | bool (b : Bool)
  /-- A whole number. -/
  | integer (n : Int)
  /-- A fractional number. -/
  | float (x : Float)
  /-- A string. -/
  | string (s : String)
  /-- An array. -/
  | array (items : List Json)
  /-- An object. -/
  | object (members : List (String × Json))
  deriving Inhabited

namespace Json

/-- Positional from a hundred-thousandth up to sixteen digits before the point, always with a
fraction, and null for what is no number. -/
def numberLayout : Decimal.Layout where
  tie := .even
  window := some (-5, 15)
  whole := ".0"
  special := ("null", "null", "null")

/-- The digits of a whole number, with a minus sign before a negative one. -/
def integerChars (n : Int) : List Char :=
  if n < 0 then '-' :: Nat.toDigits 10 n.natAbs else Nat.toDigits 10 n.natAbs

mutual

/-- The compact form. -/
def compactChars : Json → List Char
  | null => "null".toList
  | bool b => if b then "true".toList else "false".toList
  | integer n => integerChars n
  | float x => (numberLayout.render x).toList
  | string s => quoted s
  | array items => '[' :: compactItems items ++ [']']
  | object members => '\x7b' :: compactMembers members ++ ['\x7d']

/-- The items of an array between its brackets. -/
def compactItems : List Json → List Char
  | [] => []
  | [item] => item.compactChars
  | item :: rest => item.compactChars ++ ',' :: compactItems rest

/-- The members of an object between its braces. -/
def compactMembers : List (String × Json) → List Char
  | [] => []
  | [(name, value)] => quoted name ++ ':' :: value.compactChars
  | (name, value) :: rest =>
    quoted name ++ ':' :: value.compactChars ++ ',' :: compactMembers rest

end

/-- The start of a line of the pretty form. -/
def newLine (depth : Nat) : List Char :=
  '\n' :: List.replicate (2 * depth) ' '

/-- Texts between an opening and a closing character, each on a line of its own. -/
def block (opening closing : Char) (depth : Nat) : List (List Char) → List Char
  | [] => [opening, closing]
  | texts =>
    opening :: newLine (depth + 1) ++ (',' :: newLine (depth + 1)).intercalate texts ++
      newLine depth ++ [closing]

mutual

/-- The pretty form, inside of `depth` arrays and objects. -/
def prettyChars (depth : Nat) : Json → List Char
  | array items => block '[' ']' depth (prettyItems (depth + 1) items)
  | object members => block '\x7b' '\x7d' depth (prettyMembers (depth + 1) members)
  | json => json.compactChars

/-- The pretty forms of items. -/
def prettyItems (depth : Nat) : List Json → List (List Char)
  | [] => []
  | item :: rest => prettyChars depth item :: prettyItems depth rest

/-- The pretty forms of members. -/
def prettyMembers (depth : Nat) : List (String × Json) → List (List Char)
  | [] => []
  | (name, value) :: rest =>
    (quoted name ++ ':' :: ' ' :: prettyChars depth value) :: prettyMembers depth rest

end

/-- The text without blanks. -/
def compact (json : Json) : String :=
  String.ofList json.compactChars

/-- The text with a line for each item and member, indented by two blanks for each level. -/
def pretty (json : Json) : String :=
  String.ofList (json.prettyChars 0)

end Json

end SqlTemplate
