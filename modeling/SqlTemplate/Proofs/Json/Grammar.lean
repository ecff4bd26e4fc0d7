import SqlTemplate.Json.Decode
import SqlTemplate.Text.Search

/-!
# The grammar of JSON

Which texts spell a document, said without a reader: blanks may stand around every value, around
every name and in empty brackets, a character of a string stands for itself or is escaped, and a
number has a sign, digits, a fraction and a power of ten. A text that the grammar allows is read as
the document that it spells (`Document.ofText_of_spelledBy`), so that a decoder takes its value out
of that document (`Decoder.read_of_spelledBy`).
-/

namespace SqlTemplate.Json

open Decimal

variable {cs rest : List Char}

/-! ## Tokens -/

/-- A token is read where it starts. -/
theorem scan_of_read {c : Char} {t : Token} (hspace : isSpace c = false)
    (hread : read c cs = (t, rest)) : scan (c :: cs) = t :: scan rest := by
  rw [scan, if_neg (by rw [hspace]; exact Bool.false_ne_true), hread]

/-- The token of a mark, which is a token by itself. -/
def mark? : Char → Option Token
  | '[' => some .openArray
  | ']' => some .closeArray
  | '\x7b' => some .openObject
  | '\x7d' => some .closeObject
  | ',' => some .comma
  | ':' => some .colon
  | _ => none

/-- A mark is one token. -/
theorem scan_mark {c : Char} {t : Token} (h : mark? c = some t) (rest : List Char) :
    scan (c :: rest) = t :: scan rest := by
  unfold mark? at h
  split at h
  iterate 6
    obtain rfl := Option.some.inj h
    exact scan_of_read (by decide) rfl
  nomatch h

/-- A word is one token. -/
theorem scan_word (word : String) (first : Char) (tail : String) {t : Token}
    (hword : word.toList = first :: tail.toList ∧ isSpace first = false)
    (hread : ∀ cs, read first cs = orBroken (word? tail t cs)) (rest : List Char) :
    scan (word.toList ++ rest) = t :: scan rest := by
  have hprefix : tail.toList.isPrefixOf (tail.toList ++ rest) = true :=
    List.isPrefixOf_iff_prefix.2 (List.prefix_append _ _)
  have htail : read first (tail.toList ++ rest) = (t, rest) := by
    rw [hread, word?, if_pos hprefix, ← String.length_toList, List.drop_left]
    rfl
  rw [hword.1, List.cons_append, scan_of_read hword.2 htail]

/-! ## Blanks -/

/-- Blanks, as they may stand between tokens. -/
def Blanks (cs : List Char) : Prop :=
  ∀ c ∈ cs, isSpace c = true

/-- A text of one kind with blanks around it. -/
def Padded (spelled : List Char → Prop) (cs : List Char) : Prop :=
  ∃ before inner after, Blanks before ∧ spelled inner ∧ Blanks after ∧
    cs = before ++ (inner ++ after)

/-- No character at all is a run of blanks. -/
theorem blanks_nil : Blanks [] :=
  fun _ hc => absurd hc List.not_mem_nil

/-- There need not be any. -/
theorem Padded.of {spelled : List Char → Prop} (h : spelled cs) : Padded spelled cs :=
  ⟨[], cs, [], blanks_nil, h, blanks_nil, (List.append_nil cs).symm⟩

/-- Blanks are passed over. -/
theorem scan_blanks {blanks : List Char} (h : Blanks blanks) (rest : List Char) :
    scan (blanks ++ rest) = scan rest := by
  induction blanks with
  | nil => rfl
  | cons c blanks ih =>
    obtain ⟨hc, hblanks⟩ := List.forall_mem_cons.1 h
    rw [List.cons_append, scan, if_pos hc, ih hblanks]

/-! ## Strings -/

/-- The characters between quotes stand for the units of a string. -/
inductive SpellsUnits : List Char → List Unit16 → Prop
  /-- No characters stand for no units. -/
  | nil : SpellsUnits [] []
  /-- A character that stands for itself. -/
  | plain {c : Char} {cs : List Char} {us : List Unit16} (hquote : c ≠ '"') (hescape : c ≠ '\\')
      (hcode : 0x20 ≤ c.toNat) (h : SpellsUnits cs us) : SpellsUnits (c :: cs) (.char c :: us)
  /-- A character that is escaped by a letter. -/
  | letter {letter c : Char} {cs : List Char} {us : List Unit16}
      (hletter : escaped? letter = some c) (h : SpellsUnits cs us) :
      SpellsUnits ('\\' :: letter :: cs) (.char c :: us)
  /-- A unit that is escaped by its code. -/
  | code {a b c d : Char} {n : Nat} {cs : List Char} {us : List Unit16}
      (hcode : hexQuad? a b c d = some n) (h : SpellsUnits cs us) :
      SpellsUnits ('\\' :: 'u' :: a :: b :: c :: d :: cs) (.ofNat n :: us)

/-- The text is a string, which stands for `s` unless a surrogate in it has no partner. -/
def SpellsString (s : Option String) (cs : List Char) : Prop :=
  ∃ inner us, SpellsUnits inner us ∧ s = (decode? us).map String.ofList ∧
    cs = '"' :: (inner ++ ['"'])

/-- A character that is escaped by a letter. -/
theorem units?_letter {letter c : Char} (h : escaped? letter = some c) (rest : List Char) :
    units? ('\\' :: letter :: rest) =
      (units? rest).map fun (us, after) => (.char c :: us, after) := by
  have hne : letter ≠ 'u' := by
    rintro rfl
    nomatch h
  rw [units?]
  · rw [h]
    cases units? rest <;> rfl
  · rintro _ _ _ _ _ rfl
    exact absurd rfl hne

/-- A character that stands for itself. -/
theorem units?_plain {c : Char} (hquote : c ≠ '"') (hescape : c ≠ '\\') (hcode : 0x20 ≤ c.toNat)
    (rest : List Char) :
    units? (c :: rest) = (units? rest).map fun (us, after) => (.char c :: us, after) := by
  rw [units?]
  · rw [if_neg (by simp [hescape, Nat.not_lt.2 hcode])]
    cases units? rest <;> rfl
  · exact hquote
  · exact fun _ _ _ _ _ h => absurd h hescape
  · exact fun _ _ h => absurd h hescape

/-- The units of a string are read up to its closing quote. -/
theorem units?_of_spells {us : List Unit16} (h : SpellsUnits cs us) (rest : List Char) :
    units? (cs ++ '"' :: rest) = some (us, rest) := by
  induction h with
  | nil => rfl
  | plain hquote hescape hcode _ ih =>
    rw [List.cons_append, units?_plain hquote hescape hcode, ih]
    rfl
  | letter hletter _ ih =>
    rw [List.cons_append, List.cons_append, units?_letter hletter, ih]
    rfl
  | code hcode _ ih =>
    simp only [List.cons_append]
    rw [units?, hcode, ih]

/-- A string is one token. -/
theorem scan_string {s : Option String} (h : SpellsString s cs) (rest : List Char) :
    scan (cs ++ rest) = .string s :: scan rest := by
  obtain ⟨inner, us, hunits, rfl, rfl⟩ := h
  have hread : read '"' (inner ++ '"' :: rest) =
      (.string ((decode? us).map String.ofList), rest) := by
    show orBroken ((units? _).map _) = _
    rw [units?_of_spells hunits]
    rfl
  rw [List.cons_append, List.append_assoc, List.singleton_append, scan_of_read (by decide) hread]

/-! ## Numbers -/

/-- No number goes on with this text. -/
def EndsNumber (rest : List Char) : Prop :=
  ∀ c ∈ rest.head?, c.isDigit = false ∧ c ≠ '.' ∧ c ≠ 'e' ∧ c ≠ 'E'

/-- Numbers end at a mark. -/
theorem endsNumber_of_mark {c : Char} {t : Token} (h : mark? c = some t) (cs : List Char) :
    EndsNumber (c :: cs) := by
  intro d hd
  obtain rfl : c = d := Option.some.inj hd
  unfold mark? at h
  split at h
  iterate 6 decide
  nomatch h

/-- A number does not go on with blanks. -/
theorem endsNumber_blanks {blanks : List Char} (h : Blanks blanks) (hrest : EndsNumber rest) :
    EndsNumber (blanks ++ rest) := by
  cases blanks with
  | nil => exact hrest
  | cons c blanks =>
    intro d hd
    obtain rfl : c = d := Option.some.inj hd
    have hc := h c List.mem_cons_self
    simp only [isSpace, Bool.or_eq_true, beq_iff_eq] at hc
    rcases hc with ((rfl | rfl) | rfl) | rfl <;> decide

/-- Digits, at least one of them. -/
def Digits (cs : List Char) : Prop :=
  cs ≠ [] ∧ ∀ c ∈ cs, c.isDigit = true

/-- The text is a fraction, or there is none. -/
inductive SpellsFraction : Option (List Char) → List Char → Prop
  /-- There is none. -/
  | none : SpellsFraction none []
  /-- A point and digits. -/
  | some {digits : List Char} (h : Digits digits) : SpellsFraction (some digits) ('.' :: digits)

/-- The text is a power of ten, or there is none. -/
inductive SpellsPower : Option Int → List Char → Prop
  /-- There is none. -/
  | none : SpellsPower none []
  /-- A mark, a sign if there is one, and digits. -/
  | some {mark : Char} {digits sign : List Char} (hmark : mark = 'e' ∨ mark = 'E')
      (hsign : sign = [] ∨ sign = ['+'] ∨ sign = ['-']) (h : Digits digits) :
      SpellsPower (some (if sign = ['-'] then -(digitsValue digits : Int) else digitsValue digits))
        (mark :: (sign ++ digits))

/-- The text is the number: the whole part starts with a zero only if that is all of it. -/
def Numeral.Spelled (n : Numeral) (cs : List Char) : Prop :=
  ∃ fraction power, Digits n.whole ∧ (n.whole.head? = some '0' → n.whole = ['0']) ∧
    SpellsFraction n.fraction fraction ∧ SpellsPower n.power power ∧
    cs = (if n.negative then ['-'] else []) ++ (n.whole ++ (fraction ++ power))

/-- Digits are taken up to what is no digit. -/
theorem Digits.span {digits : List Char} (h : Digits digits)
    (hrest : ∀ c ∈ rest.head?, c.isDigit = false) :
    (digits ++ rest).takeWhile Char.isDigit = digits ∧
      (digits ++ rest).dropWhile Char.isDigit = rest :=
  Text.takeWhile_append_of_stop h.2 hrest

/-- The sign of a power of ten is read if there is one, since digits are no sign. -/
theorem splitSign_digits {sign digits : List Char}
    (hsign : sign = [] ∨ sign = ['+'] ∨ sign = ['-']) (h : Digits digits) (rest : List Char) :
    splitSign (sign ++ (digits ++ rest)) = (decide (sign = ['-']), digits ++ rest) := by
  rcases hsign with rfl | rfl | rfl
  · obtain ⟨first, others, rfl⟩ := List.exists_cons_of_ne_nil h.1
    have hdigit : first.isDigit = true := h.2 first List.mem_cons_self
    rw [List.nil_append, List.cons_append]
    unfold splitSign
    split
    · next heq => exact absurd ((List.cons.inj heq).1 ▸ hdigit) (by decide)
    · next heq => exact absurd ((List.cons.inj heq).1 ▸ hdigit) (by decide)
    · rfl
  · rfl
  · rfl

/-- Where a number ends there is no power. -/
theorem powerPart?_of_endsNumber (hrest : EndsNumber rest) :
    powerPart? rest = some (none, rest) := by
  unfold powerPart?
  split
  · rfl
  · next mark cs =>
    obtain ⟨-, -, hlower, hupper⟩ := hrest mark rfl
    rw [if_neg (not_or.2 ⟨hlower, hupper⟩)]

/-- A power of ten is read up to what cannot go on with it. -/
theorem powerPart?_of_spells {power : Option Int} (h : SpellsPower power cs)
    (hrest : EndsNumber rest) : powerPart? (cs ++ rest) = some (power, rest) := by
  cases h with
  | none => exact powerPart?_of_endsNumber hrest
  | @some mark digits sign hmark hsign hdigits =>
    obtain ⟨htaken, hdropped⟩ := hdigits.span fun c hc => (hrest c hc).1
    rw [List.cons_append, List.append_assoc, powerPart?, if_pos hmark,
      splitSign_digits hsign hdigits]
    dsimp only
    rw [htaken, hdropped, if_neg (by simpa using hdigits.1)]
    simp only [decide_eq_true_eq]

/-- Neither a power of ten nor what comes behind a number starts like a fraction or a digit. -/
theorem stop_of_spells {power : Option Int} (h : SpellsPower power cs) (hrest : EndsNumber rest) :
    ∀ c ∈ (cs ++ rest).head?, c.isDigit = false ∧ c ≠ '.' := by
  cases h with
  | none => exact fun c hc => ⟨(hrest c hc).1, (hrest c hc).2.1⟩
  | some hmark =>
    intro c hc
    obtain rfl := Option.some.inj hc
    rcases hmark with rfl | rfl <;> decide

/-- A fraction is read up to what is neither a digit nor a point. -/
theorem fractionPart?_of_spells {fraction : Option (List Char)} (h : SpellsFraction fraction cs)
    (hrest : ∀ c ∈ rest.head?, c.isDigit = false ∧ c ≠ '.') :
    fractionPart? (cs ++ rest) = some (fraction, rest) := by
  cases h with
  | none =>
    rw [List.nil_append]
    unfold fractionPart?
    split
    · exact absurd rfl (hrest '.' rfl).2
    · rfl
  | some hdigits =>
    obtain ⟨htaken, hdropped⟩ := hdigits.span fun c hc => (hrest c hc).1
    rw [List.cons_append, fractionPart?, htaken, hdropped, if_neg (by simpa using hdigits.1)]

/-- A whole part is read up to what is no digit. -/
theorem wholePart?_of_digits {whole : List Char} (h : Digits whole)
    (hzero : whole.head? = some '0' → whole = ['0'])
    (hrest : ∀ c ∈ rest.head?, c.isDigit = false) :
    wholePart? (whole ++ rest) = some (whole, rest) := by
  obtain ⟨htaken, hdropped⟩ := h.span hrest
  unfold wholePart?
  rw [htaken, hdropped]
  split
  · exact absurd rfl h.1
  · exact absurd (List.cons.inj (hzero rfl)).2 (List.cons_ne_nil _ _)
  · rfl

/-- What comes behind the whole part of a number does not start with a digit. -/
theorem stop_whole {fraction : Option (List Char)} (h : SpellsFraction fraction cs)
    (hrest : ∀ c ∈ rest.head?, c.isDigit = false ∧ c ≠ '.') :
    ∀ c ∈ (cs ++ rest).head?, c.isDigit = false := by
  cases h with
  | none => exact fun c hc => (hrest c hc).1
  | some =>
    intro c hc
    obtain rfl := Option.some.inj hc
    decide

/-- A token that starts with a digit is a number. -/
theorem read_digit {c : Char} (h : c.isDigit = true) (cs : List Char) : read c cs =
    orBroken ((numeral? false (c :: cs)).map fun (n, rest) => (.number n, rest)) := by
  unfold read
  split <;> first | rfl | exact absurd h (by decide)

/-- A digit is no blank. -/
theorem isSpace_of_isDigit {c : Char} (h : c.isDigit = true) : isSpace c = false := by
  cases hspace : isSpace c with
  | false => rfl
  | true =>
    simp only [isSpace, Bool.or_eq_true, beq_iff_eq] at hspace
    rcases hspace with ((rfl | rfl) | rfl) | rfl <;> exact absurd h (by decide)

/-- A number is one token. -/
theorem scan_numeral {n : Numeral} (h : n.Spelled cs) (hrest : EndsNumber rest) :
    scan (cs ++ rest) = .number n :: scan rest := by
  obtain ⟨negative, whole, fraction, power⟩ := n
  obtain ⟨fractionText, powerText, hwhole, hzero, hfraction, hpower, rfl⟩ := h
  -- Each part of a number ends where the next one starts.
  have hstop := stop_of_spells hpower hrest
  have hnumeral : numeral? negative (whole ++ (fractionText ++ (powerText ++ rest))) =
      some (⟨negative, whole, fraction, power⟩, rest) := by
    rw [numeral?, wholePart?_of_digits hwhole hzero (stop_whole hfraction hstop)]
    dsimp only
    rw [fractionPart?_of_spells hfraction hstop]
    dsimp only
    rw [powerPart?_of_spells hpower hrest]
    rfl
  cases negative with
  -- A negative number starts with its sign, any other one with its first digit.
  | true =>
    have hread : read '-' (whole ++ (fractionText ++ (powerText ++ rest))) =
        (.number ⟨true, whole, fraction, power⟩, rest) := by
      show orBroken ((numeral? true _).map _) = _
      rw [hnumeral]
      rfl
    simp only [if_true, List.cons_append, List.nil_append, List.append_assoc]
    exact scan_of_read (by decide) hread
  | false =>
    obtain ⟨first, digits, rfl⟩ := List.exists_cons_of_ne_nil hwhole.1
    have hdigit : first.isDigit = true := hwhole.2 first List.mem_cons_self
    have hread : read first (digits ++ (fractionText ++ (powerText ++ rest))) =
        (.number ⟨false, first :: digits, fraction, power⟩, rest) := by
      rw [read_digit hdigit, ← List.cons_append, hnumeral]
      rfl
    simp only [Bool.false_eq_true, if_false, List.nil_append, List.cons_append, List.append_assoc]
    exact scan_of_read (isSpace_of_isDigit hdigit) hread

/-! ## Documents -/

mutual

/-- The text is the document, without blanks around it. -/
def Document.Spelled : Document → List Char → Prop
  | .null, cs => cs = "null".toList
  | .bool true, cs => cs = "true".toList
  | .bool false, cs => cs = "false".toList
  | .number n, cs => n.Spelled cs
  | .string s, cs => SpellsString s cs
  | .array items, cs => ∃ inside, items.Spelled [] inside ∧ cs = '[' :: (inside ++ [']'])
  | .object members, cs =>
    ∃ inside, members.Spelled [] inside ∧ cs = '\x7b' :: (inside ++ ['\x7d'])
  | .broken, _ => False

/-- The text is what stands from `start` to the end of an array: `start` is a comma behind another
item. -/
def Items.Spelled : Items → (start : List Char) → List Char → Prop
  | .done, _, cs => Blanks cs
  | .cons item rest, start, cs =>
    ∃ text others, Padded item.Spelled text ∧ rest.Spelled [','] others ∧
      cs = start ++ (text ++ others)
  | .broken, _, _ => False

/-- The text is what stands from `start` to the end of an object: `start` is a comma behind another
member. -/
def Members.Spelled : Members → (start : List Char) → List Char → Prop
  | .done, _, cs => Blanks cs
  | .cons name value rest, start, cs =>
    ∃ key text others, Padded (SpellsString name) key ∧ Padded value.Spelled text ∧
      rest.Spelled [','] others ∧ cs = start ++ (key ++ ':' :: (text ++ others))
  | .broken, _, _ => False

end

/-- The text spells the document, with blanks around it. -/
def Document.SpelledBy (d : Document) (text : String) : Prop :=
  Padded d.Spelled text.toList

/-! ## Reading -/

/-- Tokens that start with a document have a first one, and it does not end an array. -/
theorem Document.exists_token {tokens after : List Token} {d : Document}
    (h : Document.ofTokens tokens = (d, after)) (hd : d ≠ .broken) :
    ∃ t rest hle, tokens = t :: rest ∧ Document.ofToken t rest = ⟨(d, after), hle⟩ ∧
      t ≠ .closeArray := by
  cases tokens with
  | nil => exact absurd (congrArg Prod.fst h).symm hd
  | cons t rest =>
    have hval : (Document.ofToken t rest).val = (d, after) := h
    refine ⟨t, rest, hval ▸ (Document.ofToken t rest).property, rfl, Subtype.ext hval, ?_⟩
    rintro rfl
    rw [Document.ofTokens, Document.ofToken] at h
    · exact absurd (congrArg Prod.fst h).symm hd
    all_goals simp

/-- An array starts with the document that its tokens start with. -/
theorem Items.ofTokens_eq {tokens after : List Token} {item : Document}
    (h : Document.ofTokens tokens = (item, after)) (hitem : item ≠ .broken) :
    (Items.ofTokens tokens).val =
      (.cons item (Items.further after).val.1, (Items.further after).val.2) := by
  obtain ⟨t, rest, hle, rfl, htoken, hclose⟩ := Document.exists_token h hitem
  rw [Items.ofTokens, htoken]
  exact hclose

/-- An array goes on with the document that comes behind a comma. -/
theorem Items.further_eq {tokens after : List Token} {item : Document}
    (h : Document.ofTokens tokens = (item, after)) (hitem : item ≠ .broken) :
    (Items.further (.comma :: tokens)).val =
      (.cons item (Items.further after).val.1, (Items.further after).val.2) := by
  obtain ⟨t, rest, hle, rfl, htoken, -⟩ := Document.exists_token h hitem
  rw [Items.further, htoken]

/-- A member is a name and the document that comes behind a colon. -/
theorem Members.entry_eq {tokens after : List Token} {value : Document} (name : Option String)
    (h : Document.ofTokens tokens = (value, after)) (hvalue : value ≠ .broken) :
    (Members.entry (.string name :: .colon :: tokens)).val =
      (.cons name value (Members.further after).val.1, (Members.further after).val.2) := by
  obtain ⟨t, rest, hle, rfl, htoken, -⟩ := Document.exists_token h hvalue
  rw [Members.entry, htoken]

/-- An object goes on with a member behind a comma. -/
theorem Members.further_comma (tokens : List Token) :
    (Members.further (.comma :: tokens)).val = (Members.entry tokens).val := by
  rw [Members.further]

/-- An opening bracket begins an array of the items that follow. -/
theorem Document.ofTokens_array (tokens : List Token) :
    Document.ofTokens (.openArray :: tokens) =
      (.array (Items.ofTokens tokens).val.1, (Items.ofTokens tokens).val.2) := by
  rw [Document.ofTokens, Document.ofToken]

/-- An opening brace begins an object of the members that follow. -/
theorem Document.ofTokens_object (tokens : List Token) :
    Document.ofTokens (.openObject :: tokens) =
      (.object (Members.ofTokens tokens).val.1, (Members.ofTokens tokens).val.2) := by
  rw [Document.ofTokens, Document.ofToken]

/-- What can be spelled is not broken. -/
theorem Document.ne_broken_of_padded {d : Document} (h : Padded d.Spelled cs) : d ≠ .broken := by
  rintro rfl
  obtain ⟨before, inner, behind, -, hinner, -⟩ := h
  exact hinner

/-- What is read behind blanks and before blanks is read with them around it. -/
theorem ofTokens_padded {d : Document} {spelled : List Char → Prop}
    (hread : ∀ {inner}, spelled inner → ∀ {after}, EndsNumber after →
      Document.ofTokens (scan (inner ++ after)) = (d, scan after))
    (h : Padded spelled cs) {after : List Char} (hafter : EndsNumber after) :
    Document.ofTokens (scan (cs ++ after)) = (d, scan after) := by
  obtain ⟨before, inner, behind, hbefore, hinner, hbehind, rfl⟩ := h
  rw [List.append_assoc, List.append_assoc, scan_blanks hbefore,
    hread hinner (endsNumber_blanks hbehind hafter), scan_blanks hbehind]

/-- A name is one token, with blanks around it or not. -/
theorem scan_key {name : Option String} (h : Padded (SpellsString name) cs) (rest : List Char) :
    scan (cs ++ rest) = .string name :: scan rest := by
  obtain ⟨before, inner, behind, hbefore, hinner, hbehind, rfl⟩ := h
  rw [List.append_assoc, List.append_assoc, scan_blanks hbefore, scan_string hinner,
    scan_blanks hbehind]

/-- No number goes on with the rest of an array. -/
theorem Items.endsNumber {items : Items} (h : items.Spelled [','] cs) (after : List Char) :
    EndsNumber (cs ++ ']' :: after) := by
  cases items with
  | done => exact endsNumber_blanks h (endsNumber_of_mark rfl _)
  | cons item rest =>
    obtain ⟨text, others, -, -, rfl⟩ := h
    exact endsNumber_of_mark rfl _
  | broken => exact h.elim

/-- No number goes on with the rest of an object. -/
theorem Members.endsNumber {members : Members} (h : members.Spelled [','] cs) (after : List Char) :
    EndsNumber (cs ++ '\x7d' :: after) := by
  cases members with
  | done => exact endsNumber_blanks h (endsNumber_of_mark rfl _)
  | cons name value rest =>
    obtain ⟨key, text, others, -, -, -, rfl⟩ := h
    exact endsNumber_of_mark rfl _
  | broken => exact h.elim

-- The induction is on the document. As for the compact texts, what comes after it is any text in
-- each of the statements.
mutual

/-- A document is read off its text, and what follows it is left. -/
theorem Document.ofTokens_spelled : (d : Document) → {cs : List Char} → d.Spelled cs →
    {after : List Char} → EndsNumber after →
    Document.ofTokens (scan (cs ++ after)) = (d, scan after)
  | .null, cs, h, after, _ => by
    rw [show cs = _ from h, scan_word "null" 'n' "ull" (by decide) (fun _ => rfl) after,
      Document.ofTokens, Document.ofToken]
  | .bool true, cs, h, after, _ => by
    rw [show cs = _ from h, scan_word "true" 't' "rue" (by decide) (fun _ => rfl) after,
      Document.ofTokens, Document.ofToken]
  | .bool false, cs, h, after, _ => by
    rw [show cs = _ from h, scan_word "false" 'f' "alse" (by decide) (fun _ => rfl) after,
      Document.ofTokens, Document.ofToken]
  | .number n, _, h, _, hafter => by
    rw [scan_numeral h hafter, Document.ofTokens, Document.ofToken]
  | .string s, _, h, _, _ => by
    rw [scan_string h, Document.ofTokens, Document.ofToken]
  | .array items, _, h, after, _ => by
    -- The mark opens the array, and what follows is read by the lemma on its items.
    obtain ⟨inside, hitems, rfl⟩ := h
    rw [List.cons_append, List.append_assoc, List.singleton_append, scan_mark rfl,
      Document.ofTokens_array, items.ofTokens_spelled hitems after]
  | .object members, _, h, after, _ => by
    obtain ⟨inside, hmembers, rfl⟩ := h
    rw [List.cons_append, List.append_assoc, List.singleton_append, scan_mark rfl,
      Document.ofTokens_object, members.ofTokens_spelled hmembers after]
  | .broken, _, h, _, _ => h.elim

/-- So are the items of an array. -/
theorem Items.ofTokens_spelled : (items : Items) → {cs : List Char} → items.Spelled [] cs →
    (after : List Char) →
    (Items.ofTokens (scan (cs ++ ']' :: after))).val = (items, scan after)
  | .done, _, h, after => by
    rw [scan_blanks h, scan_mark rfl, Items.ofTokens]
  | .cons item rest, _, h, after => by
    obtain ⟨text, others, hitem, hrest, rfl⟩ := h
    have hread := ofTokens_padded item.ofTokens_spelled hitem (rest.endsNumber hrest after)
    rw [List.nil_append, List.append_assoc,
      Items.ofTokens_eq hread (Document.ne_broken_of_padded hitem),
      rest.further_spelled hrest after]
  | .broken, _, h, _ => h.elim

/-- So are the items of an array behind one of them. -/
theorem Items.further_spelled : (items : Items) → {cs : List Char} → items.Spelled [','] cs →
    (after : List Char) →
    (Items.further (scan (cs ++ ']' :: after))).val = (items, scan after)
  | .done, _, h, after => by
    rw [scan_blanks h, scan_mark rfl, Items.further]
  | .cons item rest, _, h, after => by
    obtain ⟨text, others, hitem, hrest, rfl⟩ := h
    have hread := ofTokens_padded item.ofTokens_spelled hitem (rest.endsNumber hrest after)
    rw [List.singleton_append, List.cons_append, List.append_assoc, scan_mark rfl,
      Items.further_eq hread (Document.ne_broken_of_padded hitem), rest.further_spelled hrest after]
  | .broken, _, h, _ => h.elim

/-- So are the members of an object. -/
theorem Members.ofTokens_spelled : (members : Members) → {cs : List Char} →
    members.Spelled [] cs → (after : List Char) →
    (Members.ofTokens (scan (cs ++ '\x7d' :: after))).val = (members, scan after)
  | .done, _, h, after => by
    rw [scan_blanks h, scan_mark rfl, Members.ofTokens]
  | .cons name value rest, _, h, after => by
    obtain ⟨key, text, others, hkey, hvalue, hrest, rfl⟩ := h
    have hread := ofTokens_padded value.ofTokens_spelled hvalue (rest.endsNumber hrest after)
    rw [List.nil_append, List.append_assoc, scan_key hkey, List.cons_append, List.append_assoc,
      scan_mark rfl, Members.ofTokens,
      Members.entry_eq name hread (Document.ne_broken_of_padded hvalue),
      rest.further_spelled hrest after]
    nofun
  | .broken, _, h, _ => h.elim

/-- So are the members of an object behind one of them. -/
theorem Members.further_spelled : (members : Members) → {cs : List Char} →
    members.Spelled [','] cs → (after : List Char) →
    (Members.further (scan (cs ++ '\x7d' :: after))).val = (members, scan after)
  | .done, _, h, after => by
    rw [scan_blanks h, scan_mark rfl, Members.further]
  | .cons name value rest, _, h, after => by
    obtain ⟨key, text, others, hkey, hvalue, hrest, rfl⟩ := h
    have hread := ofTokens_padded value.ofTokens_spelled hvalue (rest.endsNumber hrest after)
    rw [List.singleton_append, List.cons_append, scan_mark rfl, Members.further_comma,
      List.append_assoc, scan_key hkey, List.cons_append, List.append_assoc, scan_mark rfl,
      Members.entry_eq name hread (Document.ne_broken_of_padded hvalue),
      rest.further_spelled hrest after]
  | .broken, _, h, _ => h.elim

end

/-- A text that the grammar allows is read as the document that it spells. -/
theorem Document.ofText_of_spelledBy {d : Document} {text : String} (h : d.SpelledBy text) :
    Document.ofText text = (d, []) := by
  have hend : EndsNumber [] := by simp [EndsNumber]
  have hread := ofTokens_padded d.ofTokens_spelled h hend
  rw [List.append_nil] at hread
  rw [Document.ofText, hread, scan]

/-- Reading such a text is taking a value out of that document. -/
theorem Decoder.read_of_spelledBy {α : Type} (decoder : Decoder α) {d : Document} {text : String}
    (h : d.SpelledBy text) : decoder.read text = decoder maxNesting d := by
  rw [Decoder.read, Document.ofText_of_spelledBy h]
  exact bind_pure _

end SqlTemplate.Json
