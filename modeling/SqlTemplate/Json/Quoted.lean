/-!
# JSON strings

How a string is written between quotes, and how it is read. Writing escapes quotes, backslashes and
control characters and nothing else. Reading accepts every escape, also those of characters that
need none; beyond the characters of four hexadecimal digits an escape is half of a surrogate pair,
and a half without its partner spells no text.
-/

namespace SqlTemplate.Json

/-- The hexadecimal digits of a code point below 256, two of them. -/
def hexPair (n : Nat) : List Char :=
  [Nat.digitChar (n / 16), Nat.digitChar (n % 16)]

/-- What stands for a character inside a string. -/
def escapeChar (c : Char) : List Char :=
  match c with
  | '"' => ['\\', '"']
  | '\\' => ['\\', '\\']
  | '\x08' => ['\\', 'b']
  | '\x0c' => ['\\', 'f']
  | '\n' => ['\\', 'n']
  | '\r' => ['\\', 'r']
  | '\t' => ['\\', 't']
  | c => if c.toNat < 0x20 then '\\' :: 'u' :: '0' :: '0' :: hexPair c.toNat else [c]

/-- A string between its quotes. -/
def quoted (s : String) : List Char :=
  '"' :: s.toList.flatMap escapeChar ++ ['"']

/-- The value of a hexadecimal digit. -/
def hexDigit? (c : Char) : Option Nat :=
  if c.isDigit then some (c.toNat - '0'.toNat)
  else if 'a' ≤ c ∧ c ≤ 'f' then some (c.toNat - 'a'.toNat + 10)
  else if 'A' ≤ c ∧ c ≤ 'F' then some (c.toNat - 'A'.toNat + 10)
  else none

/-- The value of four hexadecimal digits. -/
def hexQuad? (a b c d : Char) : Option Nat := do
  return ((16 * (← hexDigit? a) + (← hexDigit? b)) * 16 + (← hexDigit? c)) * 16 + (← hexDigit? d)

/-- The character that a letter stands for behind a backslash. -/
def escaped? : Char → Option Char
  | '"' => some '"'
  | '\\' => some '\\'
  | '/' => some '/'
  | 'b' => some '\x08'
  | 'f' => some '\x0c'
  | 'n' => some '\n'
  | 'r' => some '\r'
  | 't' => some '\t'
  | _ => none

/-- A part of a string: a character, or half of a surrogate pair. -/
inductive Unit16 where
  /-- A character. -/
  | char (c : Char)
  /-- The first half of a pair. -/
  | high (n : Nat)
  /-- The second half of a pair. -/
  | low (n : Nat)
  deriving DecidableEq, Repr

/-- The unit that four hexadecimal digits spell. -/
def Unit16.ofNat (n : Nat) : Unit16 :=
  if 0xd800 ≤ n ∧ n < 0xdc00 then high (n - 0xd800)
  else if 0xdc00 ≤ n ∧ n < 0xe000 then low (n - 0xdc00)
  else char (Char.ofNat n)

/-- The units of a string up to its closing quote, and what follows it. -/
def units? : List Char → Option (List Unit16 × List Char)
  | [] => none
  | '"' :: rest => some ([], rest)
  | '\\' :: 'u' :: a :: b :: c :: d :: rest =>
    match hexQuad? a b c d, units? rest with
    | some n, some (us, after) => some (.ofNat n :: us, after)
    | _, _ => none
  | '\\' :: e :: rest =>
    match escaped? e, units? rest with
    | some c, some (us, after) => some (.char c :: us, after)
    | _, _ => none
  | c :: rest =>
    if c.toNat < 0x20 || c == '\\' then none
    else
      match units? rest with
      | some (us, after) => some (.char c :: us, after)
      | none => none

/-- The text of units, if every half of a pair stands beside the other one. -/
def decode? : List Unit16 → Option (List Char)
  | [] => some []
  | .char c :: rest => (decode? rest).map (c :: ·)
  | .high h :: .low l :: rest =>
    (decode? rest).map (Char.ofNat (0x10000 + 0x400 * h + l) :: ·)
  | _ => none

/-- A string takes its closing quote at least. -/
theorem length_units?_lt {cs rest : List Char} {us : List Unit16}
    (h : units? cs = some (us, rest)) : rest.length < cs.length := by
  fun_induction units? cs generalizing us rest with
  | case1 => simp at h
  | case2 rest => simp_all
  -- A code, an escape and a plain character each leave the rest to the tail of the text.
  | case3 _ _ _ _ _ _ _ _ hrest _ ih =>
    obtain ⟨_, rfl⟩ := Prod.mk.inj (Option.some.inj h)
    have := ih hrest
    simp only [List.length_cons]
    omega
  | case4 => simp at h
  | case5 _ _ _ _ _ _ hrest _ ih =>
    obtain ⟨_, rfl⟩ := Prod.mk.inj (Option.some.inj h)
    have := ih hrest
    simp only [List.length_cons]
    omega
  | case6 => simp at h
  | case7 => simp at h
  | case8 _ _ _ _ _ _ _ _ hrest ih =>
    obtain ⟨_, rfl⟩ := Prod.mk.inj (Option.some.inj h)
    have := ih hrest
    simp only [List.length_cons]
    omega
  | case9 => simp at h

end SqlTemplate.Json
