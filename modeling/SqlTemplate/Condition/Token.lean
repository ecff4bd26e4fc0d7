import SqlTemplate.Condition.Error
import SqlTemplate.Text.Letter

/-!
# The tokens of a condition

A condition is read from the left, blanks between its tokens skipped. A string runs to the next
quote that is not doubled, a number is a run of digits and points with an optional minus before
it, and an identifier is a run of letters, numerals and underscores, which may start with `#`.
Every token takes at least one character (`length_read_le`), so that the reading ends.
-/

namespace SqlTemplate.ConditionToken

/-- A character of a number literal. -/
def isNumberChar (c : Char) : Bool :=
  c.isDigit || c == '.'

/-- A character that an identifier may start with. -/
def startsIdentifier (c : Char) : Bool :=
  Text.isLetter c || c == '_' || c == '#'

/-- A character that an identifier may go on with. -/
def continuesIdentifier (c : Char) : Bool :=
  Text.isLetter c || Text.isNumeral c || c == '_'

/-- The rest of a string after its opening quote, quotes no longer doubled, and the text after the
closing quote. -/
def stringTail? : List Char → Option (List Char × List Char)
  | [] => none
  | '\'' :: '\'' :: cs => (stringTail? cs).map fun (s, rest) => ('\'' :: s, rest)
  | '\'' :: cs => some ([], cs)
  | c :: cs => (stringTail? cs).map fun (s, rest) => (c :: s, rest)

/-- A string takes its closing quote at least. -/
theorem length_stringTail?_lt {cs s rest : List Char} (h : stringTail? cs = some (s, rest)) :
    rest.length < cs.length := by
  fun_induction stringTail? cs generalizing s rest with
  | case1 => simp at h
  -- A doubled quote, and any other character, leave the rest to the tail of the text.
  | case2 cs ih =>
    obtain ⟨⟨s', rest'⟩, h', heq⟩ := Option.map_eq_some_iff.mp h
    obtain ⟨rfl, rfl⟩ := Prod.mk.inj heq
    have := ih h'
    simp only [List.length_cons]
    omega
  | case3 => simp_all
  | case4 c cs _ _ ih =>
    obtain ⟨⟨s', rest'⟩, h', heq⟩ := Option.map_eq_some_iff.mp h
    obtain ⟨rfl, rfl⟩ := Prod.mk.inj heq
    have := ih h'
    simp only [List.length_cons]
    omega

/-- The token of a word: a keyword or an identifier. -/
def ofWord (word : List Char) : ConditionToken :=
  match String.ofList word with
  | "true" => bool true
  | "false" => bool false
  | "null" => null
  | name => identifier name

/-- The second character of a sign that is written double. -/
def double (c : Char) (token : ConditionToken) :
    List Char → Except ConditionError (ConditionToken × List Char)
  | [] => .error (.unexpected (.token token) (.char c))
  | d :: rest =>
    if d = c then .ok (token, rest) else .error (.unexpected (.token token) (.char c))

/-- The token that starts with `c`, and the text after it. -/
def read (c : Char) (cs : List Char) : Except ConditionError (ConditionToken × List Char) :=
  match c with
  | '\'' =>
    match stringTail? cs with
    | some (s, rest) => .ok (string (String.ofList s), rest)
    | none => .error .unexpectedEnd
  | '=' => double '=' (compare .eq) cs
  | '&' => double '&' and cs
  | '|' => double '|' or cs
  | '!' =>
    match cs with
    | '=' :: rest => .ok (compare .ne, rest)
    | _ => .ok (not, cs)
  | '<' =>
    match cs with
    | '=' :: rest => .ok (compare .le, rest)
    | '>' :: rest => .ok (compare .ne, rest)
    | _ => .ok (compare .lt, cs)
  | '>' =>
    match cs with
    | '=' :: rest => .ok (compare .ge, rest)
    | _ => .ok (compare .gt, cs)
  | '.' => .ok (dot, cs)
  | '(' => .ok (leftParen, cs)
  | ')' => .ok (rightParen, cs)
  | '-' =>
    -- There is no subtraction: a minus belongs to the number behind it.
    let digits := cs.takeWhile isNumberChar
    if digits.isEmpty then .error (.unexpected .numberAfterMinus (.char '-'))
    else .ok (number (String.ofList ('-' :: digits)), cs.dropWhile isNumberChar)
  | c =>
    if c.isDigit then
      .ok (number (String.ofList (c :: cs.takeWhile isNumberChar)), cs.dropWhile isNumberChar)
    else if startsIdentifier c then
      .ok (ofWord (c :: cs.takeWhile continuesIdentifier), cs.dropWhile continuesIdentifier)
    else .error (.unexpected .anyToken (.char c))

/-- A run that is dropped leaves no longer text. -/
theorem length_dropWhile_le {α : Type} (p : α → Bool) (cs : List α) :
    (cs.dropWhile p).length ≤ cs.length :=
  (cs.dropWhile_sublist p).length_le

/-- An operator of two signs takes the second one from the text. -/
theorem length_double_le {c : Char} {token t : ConditionToken} {cs rest : List Char}
    (h : double c token cs = .ok (t, rest)) : rest.length ≤ cs.length := by
  cases cs with
  | nil => simp [double] at h
  | cons d cs =>
    simp only [double] at h
    split at h <;> simp_all

/-- What follows a token is no longer than what follows its first character. -/
theorem length_read_le {c : Char} {cs rest : List Char} {t : ConditionToken}
    (h : read c cs = .ok (t, rest)) : rest.length ≤ cs.length := by
  unfold read at h
  split at h
  · split at h
    · next hs =>
      have := length_stringTail?_lt hs
      simp_all
      omega
    · simp at h
  -- Operators of two signs, those of one sign or two, and signs that stand by themselves.
  iterate 3 exact length_double_le h
  iterate 3
    split at h <;> simp only [Except.ok.injEq, Prod.mk.injEq] at h <;> obtain ⟨_, rfl⟩ := h <;>
      simp
  iterate 3 simp_all
  -- A minus begins a number; what is left are numbers and words, which are runs of characters.
  · dsimp only at h
    split at h
    · simp at h
    · simp only [Except.ok.injEq, Prod.mk.injEq] at h
      exact h.2 ▸ length_dropWhile_le _ _
  · split at h
    · simp only [Except.ok.injEq, Prod.mk.injEq] at h
      exact h.2 ▸ length_dropWhile_le _ _
    · split at h
      · simp only [Except.ok.injEq, Prod.mk.injEq] at h
        exact h.2 ▸ length_dropWhile_le _ _
      · simp at h

/-- The tokens of a text. -/
def scan : List Char → Except ConditionError (List ConditionToken)
  | [] => .ok []
  | c :: cs =>
    if Text.isBlank c then scan cs
    else
      match h : read c cs with
      | .error e => .error e
      | .ok (t, rest) =>
        have : rest.length ≤ cs.length := length_read_le h
        match scan rest with
        | .error e => .error e
        | .ok ts => .ok (t :: ts)
termination_by cs => cs.length

end SqlTemplate.ConditionToken
