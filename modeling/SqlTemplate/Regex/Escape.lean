import SqlTemplate.Regex.Flags

/-!
# The escapes of a regular expression

What a backslash and the text behind it stand for. Digits, which would refer back to a group, are no
escapes. The classes of digits, blanks and word characters are those of ASCII, and so there are none
of characters; there are no classes by Unicode property at all.
-/

namespace SqlTemplate.Regex

/-- A part of an expression that takes up one place in it. -/
inductive Atom where
  /-- A character; `code` says that it is written as two hexadecimal digits. -/
  | literal (c : Char) (code : Bool)
  /-- A class of digits, blanks or word characters, or of all others. -/
  | shorthand (negated : Bool)
  /-- The start or the end of the text. -/
  | edge
  /-- The start or the end of a word. -/
  | boundary

namespace Atom

/-- The atom may stand in an expression. Without case, characters have no meaning for want of a
table of their cases, and bytes beyond ASCII are no text. -/
def isValid (f : Flags) : Atom → Bool
  | literal c code => if f.unicode then !f.ignoreCase else !(code && c.toNat > 0x7f)
  | shorthand negated => !f.unicode && !negated
  | edge | boundary => true

/-- The atom is an edge of a word. -/
def isBoundary : Atom → Bool
  | boundary => true
  | _ => false

/-- The atom may be a member of a class, where everything is a byte unless it is a character. -/
def isMember (f : Flags) : Atom → Bool
  | literal c _ => if f.unicode then !f.ignoreCase else c.toNat ≤ 0x7f
  | shorthand negated => !f.unicode && !negated
  | edge | boundary => false

end Atom

/-- The value of a hexadecimal digit. -/
def hexDigit? (c : Char) : Option Nat :=
  if '0' ≤ c ∧ c ≤ '9' then some (c.toNat - '0'.toNat)
  else if 'a' ≤ c ∧ c ≤ 'f' then some (c.toNat - 'a'.toNat + 10)
  else if 'A' ≤ c ∧ c ≤ 'F' then some (c.toNat - 'A'.toNat + 10)
  else none

/-- A number of hexadecimal digits behind those that have the value `n`. -/
def hexDigits? (f : Flags) : Nat → Nat → List Char → Option (Nat × List Char)
  | 0, n, cs => some (n, cs)
  | _ + 1, _, [] => none
  | count + 1, n, c :: cs =>
    match hexDigit? c with
    | some d => hexDigits? f count (16 * n + d) (f.skip cs)
    | none => none

/-- The character with a code of a number of hexadecimal digits. -/
def hexChar? (f : Flags) (count : Nat) (cs : List Char) : Option (Atom × List Char) :=
  match hexDigits? f count 0 (f.skip cs) with
  | some (n, rest) =>
    if n.isValidChar then some (.literal (Char.ofNat n) (count == 2), rest) else none
  | none => none

/-- What a letter behind a backslash stands for, where no more is needed. -/
def ofLetter? : Char → Option Atom
  | 'a' => some (.literal '\x07' false)
  | 't' => some (.literal '\t' false)
  | 'n' => some (.literal '\n' false)
  | 'v' => some (.literal '\x0b' false)
  | 'f' => some (.literal '\x0c' false)
  | 'r' => some (.literal '\r' false)
  | 'd' | 's' | 'w' => some (.shorthand false)
  | 'D' | 'S' | 'W' => some (.shorthand true)
  | 'A' | 'z' => some .edge
  | 'b' | 'B' => some .boundary
  | _ => none

/-- What a backslash before this text stands for, and the text after it. -/
def escape? (f : Flags) : List Char → Option (Atom × List Char)
  | [] => none
  | 'x' :: cs => hexChar? f 2 cs
  | 'u' :: cs => hexChar? f 4 cs
  | 'U' :: cs => hexChar? f 8 cs
  | c :: cs =>
    if c.isAlphanum then (ofLetter? c).map fun atom => (atom, cs)
    else if c = '<' ∨ c = '>' then some (.boundary, cs)
    else if c.toNat < 0x80 then some (.literal c false, cs)
    else none

/-- The digits of a code are taken off the pattern. -/
theorem length_hexDigits?_le {f : Flags} {count n m : Nat} {cs rest : List Char}
    (h : hexDigits? f count n cs = some (m, rest)) : rest.length ≤ cs.length := by
  fun_induction hexDigits? f count n cs with
  | case1 => simp_all
  | case2 => simp at h
  | case3 _ _ c cs _ _ ih =>
    have := ih h
    have := f.length_skip_le cs
    simp only [List.length_cons]
    omega
  | case4 => simp at h

/-- So is a code with its braces. -/
theorem length_hexChar?_le {f : Flags} {count : Nat} {cs rest : List Char} {a : Atom}
    (h : hexChar? f count cs = some (a, rest)) : rest.length ≤ cs.length := by
  unfold hexChar? at h
  split at h
  · next hd =>
    split at h
    · obtain ⟨_, rfl⟩ := Prod.mk.inj (Option.some.inj h)
      exact Nat.le_trans (length_hexDigits?_le hd) (f.length_skip_le cs)
    · simp at h
  · simp at h

/-- So is an escape. -/
theorem length_escape?_le {f : Flags} {cs rest : List Char} {a : Atom}
    (h : escape? f cs = some (a, rest)) : rest.length ≤ cs.length := by
  unfold escape? at h
  split at h
  · simp at h
  iterate 3 exact Nat.le_succ_of_le (length_hexChar?_le h)
  · split at h
    · obtain ⟨_, _, heq⟩ := Option.map_eq_some_iff.mp h
      obtain ⟨_, rfl⟩ := Prod.mk.inj heq
      simp
    · split at h
      · simp_all
      · split at h <;> simp_all

end SqlTemplate.Regex
