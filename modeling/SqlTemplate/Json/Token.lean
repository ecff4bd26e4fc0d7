import SqlTemplate.Json.Numeral
import SqlTemplate.Json.Quoted

/-!
# The tokens of a JSON text

A text is cut into brackets, braces, commas, colons, words, numbers and strings, with blanks
between them skipped. The reading stops at the first character that fits no token, where the token
`broken` stands. A string that spells half of a surrogate pair has the form of a string but stands
for no text. Every token takes at least one character (`length_read_le`), so that the reading
ends.
-/

namespace SqlTemplate.Json

/-- A token. -/
inductive Token where
  /-- The opening bracket of an array. -/
  | openArray
  /-- The closing bracket of an array. -/
  | closeArray
  /-- The opening brace of an object. -/
  | openObject
  /-- The closing brace of an object. -/
  | closeObject
  /-- What stands between items and between members. -/
  | comma
  /-- What stands between a name and its value. -/
  | colon
  /-- The word for null. -/
  | null
  /-- A truth value. -/
  | bool (b : Bool)
  /-- A number. -/
  | number (n : Numeral)
  /-- A string, and its text unless a surrogate in it has no partner. -/
  | string (s : Option String)
  /-- Something that is no token. -/
  | broken
  deriving DecidableEq, Repr

/-- Blanks between tokens. -/
def isSpace (c : Char) : Bool :=
  c == ' ' || c == '\n' || c == '\t' || c == '\r'

/-- A token where there is one, and the text after it. -/
def orBroken : Option (Token × List Char) → Token × List Char
  | some result => result
  | none => (.broken, [])

/-- A word whose first character has been read. -/
def word? (tail : String) (t : Token) (cs : List Char) : Option (Token × List Char) :=
  if tail.toList.isPrefixOf cs then some (t, cs.drop tail.length) else none

/-- The token that starts with `c`, and the text after it. -/
def read (c : Char) (cs : List Char) : Token × List Char :=
  match c with
  | '[' => (.openArray, cs)
  | ']' => (.closeArray, cs)
  | '\x7b' => (.openObject, cs)
  | '\x7d' => (.closeObject, cs)
  | ',' => (.comma, cs)
  | ':' => (.colon, cs)
  | 'n' => orBroken (word? "ull" .null cs)
  | 't' => orBroken (word? "rue" (.bool true) cs)
  | 'f' => orBroken (word? "alse" (.bool false) cs)
  | '"' =>
    orBroken ((units? cs).map fun (us, rest) => (.string ((decode? us).map String.ofList), rest))
  | '-' => orBroken ((numeral? true cs).map fun (n, rest) => (.number n, rest))
  | c => orBroken ((numeral? false (c :: cs)).map fun (n, rest) => (.number n, rest))

/-- What is not found leaves nothing, and so no more than the bound. -/
theorem length_orBroken_le {found : Option (Token × List Char)} {bound : Nat}
    (h : ∀ result ∈ found, result.2.length ≤ bound) : (orBroken found).2.length ≤ bound := by
  cases found with
  | none => simp [orBroken]
  | some result => exact h result rfl

/-- The rest of a word is taken off the text. -/
theorem length_word?_le {tail : String} {t : Token} {cs : List Char} :
    ∀ result ∈ word? tail t cs, result.2.length ≤ cs.length := by
  intro result h
  unfold word? at h
  split at h
  · simp only [Option.mem_def, Option.some.injEq] at h
    subst h
    simp
  · simp at h

/-- What follows a token is no longer than what follows its first character. -/
theorem length_read_le (c : Char) (cs : List Char) : (read c cs).2.length ≤ cs.length := by
  unfold read
  split
  iterate 6 exact Nat.le_refl _
  iterate 3 exact length_orBroken_le length_word?_le
  · refine length_orBroken_le fun result h => ?_
    obtain ⟨_, hu, rfl⟩ := Option.map_eq_some_iff.mp h
    exact Nat.le_of_lt (length_units?_lt hu)
  · refine length_orBroken_le fun result h => ?_
    obtain ⟨_, hn, rfl⟩ := Option.map_eq_some_iff.mp h
    exact Nat.le_of_lt (length_numeral?_lt hn)
  · refine length_orBroken_le fun result h => ?_
    obtain ⟨_, hn, rfl⟩ := Option.map_eq_some_iff.mp h
    exact Nat.le_of_lt_succ (length_numeral?_lt hn)

/-- The tokens of a text. -/
def scan : List Char → List Token
  | [] => []
  | c :: cs =>
    if isSpace c then scan cs
    else (read c cs).1 :: scan (read c cs).2
termination_by cs => cs.length
decreasing_by
  · simp
  · have := length_read_le c cs
    simp only [List.length_cons]
    omega

end SqlTemplate.Json
