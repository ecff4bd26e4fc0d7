import Mathlib.Data.List.Chain
import SqlTemplate.Proofs.Condition.Derivation
import SqlTemplate.Proofs.Text.Quotes
import SqlTemplate.Text.Search

/-!
# Writing tokens

How the tokens of a condition may be written is said by `ConditionToken.Spells`, token by token, and
by `ConditionToken.Spreads`, which puts any blanks, or none, before each token and behind the last
one. Written in this way, tokens are read back, as long as no two of them run together: a word must
not follow a word, nor a comparison a comparison (`ConditionToken.scan_of_spreads`). What comes next
is known by its first character only, so that all turns on which characters may stand behind a
token (`ConditionToken.stopsAt`) and which may start one.
-/

namespace SqlTemplate

namespace ConditionToken

open Text (doubleQuotes)

/-- The text is a name: letters, numerals and underscores, of which it starts with no numeral but
perhaps with `#`, and no word with a meaning of its own. -/
def IsName (name : String) : Prop :=
  ∃ c cs, name.toList = c :: cs ∧ startsIdentifier c = true ∧
    (∀ d ∈ cs, continuesIdentifier d = true) ∧ name ∉ ["true", "false", "null"]

/-- The text is a number: digits and points, of which it starts with a digit, or with a minus that
others follow. -/
def IsNumber (text : String) : Prop :=
  ∃ c cs, text.toList = c :: cs ∧ (∀ d ∈ cs, isNumberChar d = true) ∧
    (c.isDigit = true ∨ c = '-' ∧ cs ≠ [])

/-- The token may be written in this way. -/
inductive Spells : ConditionToken → List Char → Prop
  /-- A name. -/
  | identifier {name : String} (h : IsName name) : Spells (identifier name) name.toList
  /-- The word for what holds. -/
  | yes : Spells (bool true) "true".toList
  /-- The word for what does not hold. -/
  | no : Spells (bool false) "false".toList
  /-- The word for null. -/
  | null : Spells null "null".toList
  /-- A number. -/
  | number {text : String} (h : IsNumber text) : Spells (number text) text.toList
  /-- A string. -/
  | string (s : String) : Spells (string s) ('\'' :: doubleQuotes s.toList ++ ['\''])
  /-- A comparison. -/
  | compare (op : CompareOp) : Spells (compare op) op.text.toList
  /-- The other sign for a difference. -/
  | differs : Spells (compare .ne) "<>".toList
  /-- Both hold. -/
  | and : Spells and "&&".toList
  /-- One of the two holds. -/
  | or : Spells or "||".toList
  /-- The negation. -/
  | not : Spells not "!".toList
  /-- The point of a path. -/
  | dot : Spells dot ".".toList
  /-- An opening parenthesis. -/
  | leftParen : Spells leftParen "(".toList
  /-- A closing parenthesis. -/
  | rightParen : Spells rightParen ")".toList

/-- The tokens may be written in this way, with blanks around each of them. -/
inductive Spreads : List ConditionToken → List Char → Prop
  /-- Blanks at the end. -/
  | nil {gap : List Char} (hgap : ∀ c ∈ gap, Text.isBlank c = true) : Spreads [] gap
  /-- A first token behind blanks. -/
  | cons {gap source rest : List Char} {t : ConditionToken} {tokens : List ConditionToken}
      (hgap : ∀ c ∈ gap, Text.isBlank c = true) (hsource : Spells t source)
      (hrest : Spreads tokens rest) : Spreads (t :: tokens) (gap ++ source ++ rest)

/-! ## Characters -/

/-- The code points of the blanks. -/
def blankCodes : List Nat :=
  [9, 10, 11, 12, 13, 0x20, 0x85, 0xa0, 0x1680, 0x2000, 0x2001, 0x2002, 0x2003, 0x2004, 0x2005,
    0x2006, 0x2007, 0x2008, 0x2009, 0x200a, 0x2028, 0x2029, 0x202f, 0x205f, 0x3000]

/-- A blank has one of the codes of the table. -/
theorem mem_blankCodes {c : Char} (h : Text.isBlank c = true) : c.toNat ∈ blankCodes := by
  simp only [Text.isBlank, Bool.or_eq_true, Bool.and_eq_true, decide_eq_true_eq, beq_iff_eq] at h
  simp only [blankCodes, List.mem_cons, List.not_mem_nil, or_false]
  omega

/-- The characters that tokens other than names and numbers are written with. -/
def signs : List Char :=
  ['-', '\'', '=', '!', '<', '>', '&', '|', '.', '(', ')']

/-- No blank belongs to a name or a number, or is a sign. -/
theorem facts_of_isBlank {c : Char} (h : Text.isBlank c = true) :
    startsIdentifier c = false ∧ continuesIdentifier c = false ∧ isNumberChar c = false ∧
      c ∉ signs := by
  -- There are few blanks, and each is looked up among the letters and numerals.
  have hcodes : ∀ code ∈ blankCodes, Text.isLetter (Char.ofNat code) = false ∧
      Text.isNumeral (Char.ofNat code) = false ∧ isNumberChar (Char.ofNat code) = false ∧
      Char.ofNat code ∉ '_' :: '#' :: signs := by decide +kernel
  have hc := hcodes c.toNat (mem_blankCodes h)
  rw [Char.ofNat_toNat, List.mem_cons, List.mem_cons, not_or, not_or] at hc
  obtain ⟨hletter, hnumeral, hnumber, hlow, hhash, hsign⟩ := hc
  exact ⟨by simp [startsIdentifier, hletter, hlow, hhash],
    by simp [continuesIdentifier, hletter, hnumeral, hlow], hnumber, hsign⟩

/-- No sign starts a name. -/
theorem notMem_signs_of_startsIdentifier {c : Char} (h : startsIdentifier c = true) :
    c ∉ signs := by
  have hsigns : (signs.all fun d => !startsIdentifier d) = true := by decide
  intro hc
  have hnot := List.all_eq_true.1 hsigns c hc
  rw [h] at hnot
  exact Bool.false_ne_true hnot

/-- A digit is no sign, starts no name and is no blank. -/
theorem facts_of_isDigit {c : Char} (h : c.isDigit = true) :
    startsIdentifier c = false ∧ Text.isBlank c = false ∧ c ∉ signs := by
  have hcodes : ∀ code ∈ List.range' 48 10, startsIdentifier (Char.ofNat code) = false ∧
      Text.isBlank (Char.ofNat code) = false ∧ Char.ofNat code ∉ signs := by decide
  have hmem : c.toNat ∈ List.range' 48 10 := by
    simp only [Char.isDigit, Bool.and_eq_true, decide_eq_true_eq, ge_iff_le,
      UInt32.le_iff_toNat_le] at h
    rw [List.mem_range'_1]
    exact ⟨h.1, Nat.lt_succ_of_le h.2⟩
  have hc := hcodes c.toNat hmem
  rwa [Char.ofNat_toNat] at hc

/-- A character that may follow the token directly. -/
def stopsAt : ConditionToken → Char → Bool
  | identifier _, c | bool _, c | null, c => !continuesIdentifier c
  | number _, c => !isNumberChar c
  | string _, c => c != '\''
  | compare .lt, c => c != '=' && c != '>'
  | compare .gt, c | not, c => c != '='
  | _, _ => true

/-- The token is a name, a literal or a number. -/
def isWord : ConditionToken → Bool
  | identifier _ | bool _ | null | number _ | string _ => true
  | _ => false

/-- The tokens do not run together: a word does not follow a word, nor a point a number, nor a
comparison another one or a "not". -/
def adjoins (a b : ConditionToken) : Bool :=
  match a, b with
  | number _, dot => false
  | compare _, compare _ | not, compare _ => false
  | a, b => !(a.isWord && b.isWord)

/-- A blank may follow every token. -/
theorem stopsAt_of_isBlank (t : ConditionToken) {c : Char} (h : Text.isBlank c = true) :
    t.stopsAt c = true := by
  obtain ⟨-, hcontinue, hnumber, hsign⟩ := facts_of_isBlank h
  unfold stopsAt
  split <;> simp_all [signs]

/-- Behind a token that is no word, only what would lengthen a comparison must not follow. -/
theorem stopsAt_of_not_isWord {t : ConditionToken} (ht : t.isWord = false) {c : Char}
    (heq : c ≠ '=') (hgt : c ≠ '>') : t.stopsAt c = true := by
  unfold stopsAt
  split <;> simp_all [isWord]

/-- Behind a word, a sign may follow, but no point behind a number and no quote behind a string. -/
theorem stopsAt_of_isWord {t : ConditionToken} {c : Char}
    (hc : c ∈ ['=', '!', '<', '>', '&', '|', '(', ')'] ∨ c = '.' ∧ ∀ text, t ≠ number text)
    (ht : t.isWord = true) : t.stopsAt c = true := by
  have hsigns : (['=', '!', '<', '>', '&', '|', '(', ')', '.'].all fun d =>
      !continuesIdentifier d && (d == '.' || !isNumberChar d) && d != '\'') = true := by decide
  have hmem : c ∈ ['=', '!', '<', '>', '&', '|', '(', ')', '.'] := by
    rcases hc with hc | ⟨rfl, -⟩
    · exact List.mem_append_left ['.'] hc
    · decide
  have hfacts := List.all_eq_true.1 hsigns c hmem
  simp only [Bool.and_eq_true, Bool.or_eq_true] at hfacts
  obtain ⟨⟨hcontinue, hnumber⟩, hquote⟩ := hfacts
  -- A number alone may go on with a point, which is left out for it.
  cases t with
  | identifier | bool | null => exact hcontinue
  | string => exact hquote
  | number text =>
    have hpoint : c ≠ '.' := by
      rcases hc with hc | ⟨-, hne⟩
      · rintro rfl
        exact absurd hc (by decide)
      · exact absurd rfl (hne text)
    exact hnumber.resolve_left (by simpa using hpoint)
  | _ => exact absurd ht Bool.false_ne_true

/-- What starts a word does not lengthen a comparison. -/
theorem ne_of_spells_word {t : ConditionToken} {c : Char} {cs : List Char}
    (h : Spells t (c :: cs)) (ht : t.isWord = true) : c ≠ '=' ∧ c ≠ '>' := by
  generalize hsource : c :: cs = source at h
  -- Word by word, by the character that it may start with.
  cases h with
  | identifier hname =>
    obtain ⟨d, ds, hlist, hstart, -⟩ := hname
    obtain ⟨rfl, -⟩ := List.cons.inj (hsource.trans hlist)
    have hsign := notMem_signs_of_startsIdentifier hstart
    simp_all [signs]
  | number hnumber =>
    obtain ⟨d, ds, hlist, -, hdigit⟩ := hnumber
    obtain ⟨rfl, -⟩ := List.cons.inj (hsource.trans hlist)
    rcases hdigit with hdigit | ⟨rfl, -⟩
    · have hsign := (facts_of_isDigit hdigit).2.2
      simp_all [signs]
    · decide
  | yes | no | null | string =>
    obtain ⟨rfl, -⟩ := List.cons.inj hsource
    decide
  | _ => exact absurd ht Bool.false_ne_true

/-- A token other than a word starts with a sign: one of comparison, or a point, or another one. -/
theorem mem_of_spells_sign {t : ConditionToken} {c : Char} {cs : List Char}
    (h : Spells t (c :: cs)) (ht : t.isWord = false) :
    (c ∈ ['=', '!', '<', '>', '&', '|', '(', ')'] ∨ c = '.' ∧ t = dot) ∧
      ((∀ op, t ≠ compare op) → c ≠ '=' ∧ c ≠ '>') := by
  generalize hsource : c :: cs = source at h
  -- Sign by sign; only comparisons start with a sign that may end one.
  cases h with
  | identifier | yes | no | null | number | string => exact absurd ht Bool.false_ne_true.symm
  | compare op =>
    refine ⟨.inl ?_, fun hne => absurd rfl (hne op)⟩
    cases op <;> obtain ⟨rfl, -⟩ := List.cons.inj hsource <;> decide
  | differs =>
    obtain ⟨rfl, -⟩ := List.cons.inj hsource
    exact ⟨by decide, fun hne => absurd rfl (hne _)⟩
  | and | or | not | leftParen | rightParen =>
    obtain ⟨rfl, -⟩ := List.cons.inj hsource
    exact ⟨.inl (by decide), fun _ => by decide⟩
  | dot =>
    obtain ⟨rfl, -⟩ := List.cons.inj hsource
    exact ⟨.inr ⟨rfl, rfl⟩, fun _ => by decide⟩

/-- A token may be followed directly by one that it does not run together with. -/
theorem stopsAt_of_adjoins {t next : ConditionToken} {c : Char} {cs : List Char}
    (hadjoins : t.adjoins next = true) (h : Spells next (c :: cs)) : t.stopsAt c = true := by
  -- All that is known of the next token is how it starts: as a word, or with a sign.
  cases hnext : next.isWord with
  | true =>
    obtain ⟨heq, hgt⟩ := ne_of_spells_word h hnext
    refine stopsAt_of_not_isWord ?_ heq hgt
    unfold adjoins at hadjoins
    split at hadjoins <;> simp_all [isWord]
  | false =>
    obtain ⟨hsign, hcompare⟩ := mem_of_spells_sign h hnext
    cases ht : t.isWord with
    | true =>
      refine stopsAt_of_isWord (hsign.imp_right fun hdot => ⟨hdot.1, ?_⟩) ht
      rintro text rfl
      rw [hdot.2] at hadjoins
      exact Bool.false_ne_true hadjoins
    | false =>
      -- What may be lengthened here is a comparison or a "not".
      by_cases hop : ∃ op, next = compare op
      · obtain ⟨op, rfl⟩ := hop
        cases t <;> first | rfl | exact absurd ht Bool.false_ne_true.symm |
          exact absurd hadjoins Bool.false_ne_true
      · obtain ⟨heq, hgt⟩ := hcompare fun op hnext => hop ⟨op, hnext⟩
        exact stopsAt_of_not_isWord ht heq hgt

/-! ## Reading one token -/

variable {t : ConditionToken} {c : Char} {cs rest : List Char}

/-- A quote ends a string unless it is doubled. -/
theorem stringTail?_doubleQuotes (s : List Char) (hrest : ∀ d ∈ rest.head?, d ≠ '\'') :
    stringTail? (doubleQuotes s ++ '\'' :: rest) = some (s, rest) := by
  induction s with
  | nil =>
    cases rest with
    | nil => rfl
    | cons d rest =>
      have hd := hrest d rfl
      simp [Text.doubleQuotes, stringTail?, hd]
  -- A quote of the text stands twice, and every other character as it is.
  | cons d s ih =>
    by_cases hd : d = '\''
    · subst hd
      rw [Text.doubleQuotes_quote, List.cons_append, List.cons_append, stringTail?, ih]
      rfl
    · rw [Text.doubleQuotes_cons_of_ne hd, List.cons_append, stringTail?, ih]
      · rfl
      · simp [hd]
      · simp [hd]

/-- A word is read as a whole. -/
theorem read_word (hstart : startsIdentifier c = true)
    (hcs : ∀ d ∈ cs, continuesIdentifier d = true)
    (hrest : ∀ d ∈ rest.head?, continuesIdentifier d = false) :
    read c (cs ++ rest) = .ok (ofWord (c :: cs), rest) := by
  have hsign := notMem_signs_of_startsIdentifier hstart
  have hdigit : c.isDigit = false := by
    by_contra hdigit
    rw [(facts_of_isDigit (eq_true_of_ne_false hdigit)).1] at hstart
    exact Bool.false_ne_true hstart
  obtain ⟨htake, hdrop⟩ := Text.takeWhile_append_of_stop hcs hrest
  unfold read
  split
  all_goals first | exact absurd (by decide) hsign | skip
  rw [if_neg (by simp [hdigit]), if_pos hstart, htake, hdrop]

/-- A number is read as a whole. -/
theorem read_number (hcs : ∀ d ∈ cs, isNumberChar d = true)
    (hstart : c.isDigit = true ∨ c = '-' ∧ cs ≠ [])
    (hrest : ∀ d ∈ rest.head?, isNumberChar d = false) :
    read c (cs ++ rest) = .ok (number (String.ofList (c :: cs)), rest) := by
  obtain ⟨htake, hdrop⟩ := Text.takeWhile_append_of_stop hcs hrest
  rcases hstart with hdigit | ⟨rfl, hne⟩
  · have hsign := (facts_of_isDigit hdigit).2.2
    unfold read
    split
    all_goals first | exact absurd (by decide) hsign | skip
    rw [if_pos hdigit, htake, hdrop]
  · simp only [read, htake, hdrop]
    rw [if_neg (by simpa using hne)]

/-- A name is the token of its word. -/
theorem ofWord_of_isName {name : String} (h : IsName name) :
    ofWord name.toList = identifier name := by
  obtain ⟨-, -, -, -, -, hkeyword⟩ := h
  rw [ofWord, String.ofList_toList]
  split <;> simp_all

/-- A token is read from each of its spellings, if what follows does not lengthen it. -/
theorem read_of_spells {source : List Char} (h : Spells t source)
    (hrest : ∀ d ∈ rest.head?, t.stopsAt d = true) :
    ∃ c cs, source = c :: cs ∧ Text.isBlank c = false ∧ read c (cs ++ rest) = .ok (t, rest) := by
  have hnot : ∀ {p : Char → Bool}, (∀ d ∈ rest.head?, (!p d) = true) →
      ∀ d ∈ rest.head?, p d = false := fun hp d hd => by simpa using hp d hd
  cases h with
  | @identifier name hname =>
    obtain ⟨c, cs, hlist, hstart, hcs, -⟩ := id hname
    have hblank : Text.isBlank c = false := by
      by_contra hblank
      rw [(facts_of_isBlank (eq_true_of_ne_false hblank)).1] at hstart
      exact Bool.false_ne_true hstart
    refine ⟨c, cs, hlist, hblank, ?_⟩
    rw [read_word hstart hcs (hnot hrest), ← hlist, ofWord_of_isName hname]
  | yes =>
    have hword : ∀ d ∈ "rue".toList, continuesIdentifier d = true :=
      List.all_eq_true.1 (by decide)
    exact ⟨'t', "rue".toList, rfl, by decide, read_word (by decide) hword (hnot hrest)⟩
  | no =>
    have hword : ∀ d ∈ "alse".toList, continuesIdentifier d = true :=
      List.all_eq_true.1 (by decide)
    exact ⟨'f', "alse".toList, rfl, by decide, read_word (by decide) hword (hnot hrest)⟩
  | null =>
    have hword : ∀ d ∈ "ull".toList, continuesIdentifier d = true :=
      List.all_eq_true.1 (by decide)
    exact ⟨'n', "ull".toList, rfl, by decide, read_word (by decide) hword (hnot hrest)⟩
  | @number text hnumber =>
    obtain ⟨c, cs, hlist, hcs, hstart⟩ := hnumber
    have hblank : Text.isBlank c = false := by
      rcases hstart with hdigit | ⟨rfl, -⟩
      · exact (facts_of_isDigit hdigit).2.1
      · decide
    refine ⟨c, cs, hlist, hblank, ?_⟩
    rw [read_number hcs hstart (hnot hrest), ← hlist, String.ofList_toList]
  | string s =>
    refine ⟨'\'', doubleQuotes s.toList ++ ['\''], rfl, by decide, ?_⟩
    have htail := stringTail?_doubleQuotes s.toList fun d hd => by simpa [stopsAt] using hrest d hd
    rw [List.append_assoc, List.singleton_append]
    simp only [read, htail, String.ofList_toList]
  | compare op =>
    cases op with
    | eq => exact ⟨'=', ['='], rfl, by decide, rfl⟩
    | ne => exact ⟨'!', ['='], rfl, by decide, rfl⟩
    | le => exact ⟨'<', ['='], rfl, by decide, rfl⟩
    | ge => exact ⟨'>', ['='], rfl, by decide, rfl⟩
    -- A shorter sign is taken for a longer one only if this is what follows.
    | lt =>
      refine ⟨'<', [], rfl, by decide, ?_⟩
      simp only [List.nil_append, read]
      split
      · exact absurd (hrest '=' rfl) (by decide)
      · exact absurd (hrest '>' rfl) (by decide)
      · rfl
    | gt =>
      refine ⟨'>', [], rfl, by decide, ?_⟩
      simp only [List.nil_append, read]
      split
      · exact absurd (hrest '=' rfl) (by decide)
      · rfl
  | differs => exact ⟨'<', ['>'], rfl, by decide, rfl⟩
  | and => exact ⟨'&', ['&'], rfl, by decide, rfl⟩
  | or => exact ⟨'|', ['|'], rfl, by decide, rfl⟩
  | not =>
    refine ⟨'!', [], rfl, by decide, ?_⟩
    simp only [List.nil_append, read]
    split
    · exact absurd (hrest '=' rfl) (by decide)
    · rfl
  | dot => exact ⟨'.', [], rfl, by decide, rfl⟩
  | leftParen => exact ⟨'(', [], rfl, by decide, rfl⟩
  | rightParen => exact ⟨')', [], rfl, by decide, rfl⟩

/-! ## Reading all tokens -/

/-- Blanks are skipped. -/
theorem scan_blanks {gap : List Char} (hgap : ∀ d ∈ gap, Text.isBlank d = true)
    (rest : List Char) : scan (gap ++ rest) = scan rest := by
  induction gap with
  | nil => rfl
  | cons d gap ih =>
    obtain ⟨hd, hgap⟩ := List.forall_mem_cons.1 hgap
    rw [List.cons_append, scan, if_pos hd, ih hgap]

/-- A token that is read is the first one. -/
theorem scan_cons_of_read {tokens : List ConditionToken} (hblank : Text.isBlank c = false)
    (hread : read c cs = .ok (t, rest)) (hrest : scan rest = .ok tokens) :
    scan (c :: cs) = .ok (t :: tokens) := by
  rw [scan, if_neg (by simp [hblank])]
  split
  · next herror => simp [hread] at herror
  · next t' rest' hok =>
    obtain ⟨rfl, rfl⟩ := Prod.mk.inj (Except.ok.inj (hread.symm.trans hok))
    rw [hrest]

/-- What follows a token, blanks or the next one, does not lengthen it. -/
theorem Spreads.stopsAt {tokens : List ConditionToken} (h : Spreads tokens rest)
    (hnext : ∀ next ∈ tokens.head?, t.adjoins next = true) :
    ∀ d ∈ rest.head?, t.stopsAt d = true := by
  intro d hd
  cases h with
  | nil hgap => exact stopsAt_of_isBlank t (hgap d (List.mem_of_mem_head? hd))
  | @cons gap source _ next _ hgap hsource =>
    cases gap with
    | nil =>
      -- Without a blank between them, it is the next token that must not lengthen this one.
      have halone : ∀ d ∈ ([] : List Char).head?, next.stopsAt d = true := nofun
      obtain ⟨c, cs, rfl, -⟩ := read_of_spells hsource halone
      obtain rfl := Option.some.inj hd
      exact stopsAt_of_adjoins (hnext next rfl) hsource
    | cons blank gap =>
      obtain rfl := Option.some.inj hd
      exact stopsAt_of_isBlank t (hgap blank List.mem_cons_self)

/-- Tokens that do not run together are read back, whatever blanks stand around them. -/
theorem scan_of_spreads {tokens : List ConditionToken} {source : List Char}
    (h : Spreads tokens source) (hchain : tokens.IsChain fun a b => a.adjoins b = true) :
    scan source = .ok tokens := by
  induction h with
  | nil hgap =>
    have hscan := scan_blanks hgap []
    rwa [List.append_nil, scan] at hscan
  | @cons gap source rest t tokens hgap hsource hrest ih =>
    obtain ⟨hnext, hchain⟩ := List.isChain_cons.1 hchain
    obtain ⟨c, cs, rfl, hblank, hread⟩ := read_of_spells hsource (hrest.stopsAt hnext)
    rw [List.append_assoc, scan_blanks hgap]
    exact scan_cons_of_read hblank hread (ih hchain)

end ConditionToken

end SqlTemplate
