import SqlTemplate.Template.Stretch
import SqlTemplate.Text.Blank

/-!
# Test values

A variable directive comments out the literal behind it, its test value, so that the template
itself stays a statement that runs. The test value is a quoted string, a list in parentheses, or
a word that runs up to a blank, a comma, a closing parenthesis, a semicolon or a comment; a word
may be empty. Only its form matters: a list makes the variable an in-list, a quote makes an
embedded text a string literal.
-/

namespace SqlTemplate

/-- The literal that a variable directive stands for. -/
structure TestValue where
  /-- Its text. -/
  text : String := ""
  /-- It is a quoted string, or a list whose first element is one. -/
  quoted : Bool := false
  /-- It is a list in parentheses. -/
  inList : Bool := false
  deriving DecidableEq, Repr

namespace TestValue

/-- A word ends before this text. -/
def endsWord : List Char → Bool
  | [] => true
  | '/' :: '*' :: _ => true
  | '-' :: '-' :: _ => true
  | c :: _ => Text.isAsciiBlank c || c == ',' || c == ')' || c == ';'

/-- The word that a text starts with, and the text after it. -/
def word : List Char → List Char × List Char
  | [] => ([], [])
  | c :: cs =>
    if endsWord (c :: cs) then ([], c :: cs)
    else
      let (w, rest) := word cs
      (c :: w, rest)

/-- Nothing of a word is lost. -/
theorem word_append (cs : List Char) : (word cs).1 ++ (word cs).2 = cs := by
  induction cs with
  | nil => rfl
  | cons c cs ih =>
    simp only [word]
    split
    · rfl
    · simp [ih]

/-- The test value that a text starts with, and the text after it; there is none if a list is not
closed. -/
def read? : List Char → Option (TestValue × List Char)
  | '\'' :: cs =>
    let (tail, rest) := Template.quotedTail cs
    some (⟨String.ofList ('\'' :: tail), true, false⟩, rest)
  | '(' :: cs =>
    (Template.listTail? 0 cs).map fun (tail, rest) =>
      let quoted := (Text.trimStart tail).head? == some '\''
      (⟨String.ofList ('(' :: tail), quoted, true⟩, rest)
  | cs =>
    let (w, rest) := word cs
    some (⟨String.ofList w, false, false⟩, rest)

/-- Nothing of a test value is lost. -/
theorem eq_append_of_read? {cs rest : List Char} {value : TestValue}
    (h : read? cs = some (value, rest)) : cs = value.text.toList ++ rest := by
  unfold read? at h
  split at h
  · next cs =>
    simp only [Option.some.injEq, Prod.mk.injEq] at h
    obtain ⟨rfl, rfl⟩ := h
    simp [Template.quotedTail_append]
  · next cs =>
    obtain ⟨⟨tail, r⟩, h', heq⟩ := Option.map_eq_some_iff.mp h
    obtain ⟨rfl, rfl⟩ := Prod.mk.inj heq
    simp [Template.eq_append_of_listTail? h']
  · simp only [Option.some.injEq, Prod.mk.injEq] at h
    obtain ⟨rfl, rfl⟩ := h
    simp [word_append]

/-- A test value is taken off the text. -/
theorem length_read?_le {cs rest : List Char} {value : TestValue}
    (h : read? cs = some (value, rest)) : rest.length ≤ cs.length := by
  rw [eq_append_of_read? h, List.length_append]
  omega

end TestValue

end SqlTemplate
