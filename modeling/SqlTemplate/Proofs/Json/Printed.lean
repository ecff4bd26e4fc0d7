import SqlTemplate.Json.Tree
import SqlTemplate.Proofs.Decimal.Digits
import SqlTemplate.Proofs.Json.Grammar

/-!
# JSON texts read back

The compact text of a tree without floating-point numbers spells the document of that tree
(`spelledBy_compact`), so it is read as that document (`Decoder.read_compact`). In an array the text
behind an item starts with a comma or is empty, and in an object that behind a member.
-/

namespace SqlTemplate.Json

open Decimal

variable {cs : List Char}

/-! ## Strings -/

/-- The digits of a control character spell its code point. -/
theorem hexQuad?_hexPair : ∀ n < 0x20,
    hexQuad? '0' '0' (Nat.digitChar (n / 16)) (Nat.digitChar (n % 16)) = some n := by
  decide

/-- A character of a string is spelled by what stands for it. -/
theorem spells_escapeChar {us : List Unit16} (c : Char) (h : SpellsUnits cs us) :
    SpellsUnits (escapeChar c ++ cs) (.char c :: us) := by
  unfold escapeChar
  split
  iterate 7 exact .letter rfl h
  split
  · next hcode =>
    have hunit : Unit16.ofNat c.toNat = .char c := by
      rw [Unit16.ofNat, if_neg (by omega), if_neg (by omega), Char.ofNat_toNat]
    exact hunit ▸ .code (hexQuad?_hexPair c.toNat hcode) h
  · next hquote hescape _ _ _ _ _ hcode => exact .plain hquote hescape (by omega) h

/-- So are the characters of a string. -/
theorem spells_flatMap_escapeChar (cs : List Char) :
    SpellsUnits (cs.flatMap escapeChar) (cs.map .char) := by
  induction cs with
  | nil => exact .nil
  | cons c cs ih => exact spells_escapeChar c ih

/-- Units that stand for characters are decoded to these characters. -/
theorem decode?_map_char (cs : List Char) : decode? (cs.map .char) = some cs := by
  induction cs with
  | nil => rfl
  | cons c cs ih => rw [List.map_cons, decode?, ih]; rfl

/-- A quoted string spells that string. -/
theorem spells_quoted (s : String) : SpellsString (some s) (quoted s) := by
  have htext : some s = (decode? (s.toList.map .char)).map String.ofList := by
    rw [decode?_map_char, Option.map_some, String.ofList_toList]
  exact ⟨_, _, spells_flatMap_escapeChar s.toList, htext, rfl⟩

/-! ## Numbers -/

/-- The numeral of a whole number. -/
def Numeral.ofInt (n : Int) : Numeral :=
  ⟨n < 0, Nat.toDigits 10 n.natAbs, none, none⟩

/-- The digits of a number are digits, and only those of zero start with a zero. -/
theorem digits_toDigits (n : Nat) : Digits (Nat.toDigits 10 n) ∧
    ((Nat.toDigits 10 n).head? = some '0' → Nat.toDigits 10 n = ['0']) := by
  refine ⟨⟨Nat.toDigits_ne_nil, fun _ => isDigit_of_mem_toDigits⟩, fun hhead => ?_⟩
  obtain ⟨rest, hdigits⟩ := List.head?_eq_some_iff.1 hhead
  rw [hdigits, toDigits_eq_zero_cons hdigits]

/-- A whole number spells its numeral. -/
theorem spelled_integerChars (n : Int) : (Numeral.ofInt n).Spelled (integerChars n) := by
  obtain ⟨hdigits, hzero⟩ := digits_toDigits n.natAbs
  refine ⟨[], [], hdigits, hzero, .none, .none, ?_⟩
  unfold integerChars Numeral.ofInt
  split
  · next hnegative => simp [hnegative]
  · next hpositive => simp [hpositive]

/-- A whole number that fits into 64 bits, with a sign or without, is the value of its numeral. -/
theorem Numeral.value?_ofInt {n : Int} (hleast : Int64.minValue.toInt ≤ n)
    (hgreatest : n < UInt64.size) : (Numeral.ofInt n).value? = some (.integer n) := by
  have hvalue : digitsValue (Nat.toDigits 10 n.natAbs) = n.natAbs := digitsValue_toDigits _
  unfold Numeral.value? Numeral.ofInt
  dsimp only
  rw [hvalue]
  by_cases hnegative : n < 0
  · have habs : -(n.natAbs : Int) = n := by omega
    rw [if_neg (by simp [hnegative]), habs, if_pos ⟨rfl, rfl, by simpa, by omega, hleast⟩]
  · have habs : (n.natAbs : Int) = n := by omega
    rw [habs, if_pos ⟨rfl, rfl, by simpa using hnegative, by omega⟩]

/-! ## Trees -/

mutual

/-- The tree holds no floating-point number. -/
def floatFree : Json → Bool
  | float _ => false
  | array items => itemsFloatFree items
  | object members => membersFloatFree members
  | _ => true

/-- Nor do the items. -/
def itemsFloatFree : List Json → Bool
  | [] => true
  | item :: rest => item.floatFree && itemsFloatFree rest

/-- Nor do the members. -/
def membersFloatFree : List (String × Json) → Bool
  | [] => true
  | (_, value) :: rest => value.floatFree && membersFloatFree rest

end

mutual

/-- How deep arrays and objects nest in the tree. -/
def depth : Json → Nat
  | array items => itemsDepth items + 1
  | object members => membersDepth members + 1
  | _ => 0

/-- How deep they nest in items. -/
def itemsDepth : List Json → Nat
  | [] => 0
  | item :: rest => max item.depth (itemsDepth rest)

/-- How deep they nest in the values of members. -/
def membersDepth : List (String × Json) → Nat
  | [] => 0
  | (_, value) :: rest => max value.depth (membersDepth rest)

end

mutual

/-- The document of the tree. -/
def document : Json → Document
  | null => .null
  | bool b => .bool b
  | integer n => .number (.ofInt n)
  -- What the text of a floating-point number spells is left to the reading of that text.
  | float x => (Document.ofText (numberLayout.render x)).1
  | string s => .string (some s)
  | array items => .array (documentItems items)
  | object members => .object (documentMembers members)

/-- The items of an array in its document. -/
def documentItems : List Json → Items
  | [] => .done
  | item :: rest => .cons item.document (documentItems rest)

/-- The members of an object in its document. -/
def documentMembers : List (String × Json) → Members
  | [] => .done
  | (name, value) :: rest => .cons (some name) value.document (documentMembers rest)

end

/-! ## Texts -/

/-- What stands between an item and the end of its array. -/
def furtherItems : List Json → List Char
  | [] => []
  | items => ',' :: compactItems items

/-- What stands between a member and the end of its object. -/
def furtherMembers : List (String × Json) → List Char
  | [] => []
  | members => ',' :: compactMembers members

/-- The first item stands before the further ones. -/
theorem compactItems_cons (item : Json) (rest : List Json) :
    compactItems (item :: rest) = item.compactChars ++ furtherItems rest := by
  cases rest <;> simp [compactItems, furtherItems]

/-- The first member stands before the further ones. -/
theorem compactMembers_cons (name : String) (value : Json) (rest : List (String × Json)) :
    compactMembers ((name, value) :: rest) =
      quoted name ++ ':' :: (value.compactChars ++ furtherMembers rest) := by
  cases rest <;> simp [compactMembers, furtherMembers]

-- The induction is on the tree, one statement for the text from the opening bracket on and one for
-- that behind an item or member.
mutual

/-- The compact text of a tree is its document. -/
theorem spelled_compactChars : (json : Json) → json.floatFree = true →
    json.document.Spelled json.compactChars
  | .null, _ | .bool true, _ | .bool false, _ => rfl
  | .integer n, _ => spelled_integerChars n
  | .float _, hfree => absurd hfree Bool.false_ne_true
  | .string s, _ => spells_quoted s
  | .array items, hfree => ⟨_, spelled_compactItems items hfree, rfl⟩
  | .object members, hfree => ⟨_, spelled_compactMembers members hfree, rfl⟩

/-- So is that of the items of an array. -/
theorem spelled_compactItems : (items : List Json) → itemsFloatFree items = true →
    (documentItems items).Spelled [] (compactItems items)
  | [], _ => blanks_nil
  | item :: rest, hfree => by
    obtain ⟨hitem, hrest⟩ := Bool.and_eq_true_iff.1 hfree
    rw [compactItems_cons]
    exact ⟨_, _, .of (spelled_compactChars item hitem), spelled_furtherItems rest hrest, rfl⟩

/-- So is that of the items behind one of them. -/
theorem spelled_furtherItems : (items : List Json) → itemsFloatFree items = true →
    (documentItems items).Spelled [','] (furtherItems items)
  | [], _ => blanks_nil
  | item :: rest, hfree => by
    obtain ⟨hitem, hrest⟩ := Bool.and_eq_true_iff.1 hfree
    rw [furtherItems, compactItems_cons]
    · exact ⟨_, _, .of (spelled_compactChars item hitem), spelled_furtherItems rest hrest, rfl⟩
    · nofun

/-- So is that of the members of an object. -/
theorem spelled_compactMembers : (members : List (String × Json)) →
    membersFloatFree members = true →
    (documentMembers members).Spelled [] (compactMembers members)
  | [], _ => blanks_nil
  | (name, value) :: rest, hfree => by
    obtain ⟨hvalue, hrest⟩ := Bool.and_eq_true_iff.1 hfree
    rw [compactMembers_cons]
    exact ⟨_, _, _, .of (spells_quoted name), .of (spelled_compactChars value hvalue),
      spelled_furtherMembers rest hrest, rfl⟩

/-- So is that of the members behind one of them. -/
theorem spelled_furtherMembers : (members : List (String × Json)) →
    membersFloatFree members = true →
    (documentMembers members).Spelled [','] (furtherMembers members)
  | [], _ => blanks_nil
  | (name, value) :: rest, hfree => by
    obtain ⟨hvalue, hrest⟩ := Bool.and_eq_true_iff.1 hfree
    rw [furtherMembers, compactMembers_cons]
    · exact ⟨_, _, _, .of (spells_quoted name), .of (spelled_compactChars value hvalue),
        spelled_furtherMembers rest hrest, rfl⟩
    · nofun

end

/-- The compact text of a tree without floating-point numbers spells its document. -/
theorem spelledBy_compact {json : Json} (h : json.floatFree = true) :
    json.document.SpelledBy json.compact := by
  rw [Document.SpelledBy, compact, String.toList_ofList]
  exact .of (spelled_compactChars json h)

/-- Reading the compact text of a tree is taking a value out of the document of that tree. -/
theorem Decoder.read_compact {α : Type} (decoder : Decoder α) {json : Json}
    (h : json.floatFree = true) :
    decoder.read json.compact = decoder maxNesting json.document :=
  decoder.read_of_spelledBy (spelledBy_compact h)

end SqlTemplate.Json
