import SqlTemplate.Text.Letter
import SqlTemplate.Text.Search

/-!
# The flags of a regular expression

Flags decide how what follows them is read, up to the end of the group in which they stand: whether
case counts, whether characters or bytes are meant, and whether blanks and comments are skipped.
They are given in parentheses of their own or at the opening of a group.
-/

namespace SqlTemplate.Regex

/-- The flags that validity depends on. -/
structure Flags where
  /-- Letters stand for both their cases. -/
  ignoreCase : Bool := false
  /-- The expression is about characters, not about bytes. -/
  unicode : Bool := true
  /-- Blanks and comments are skipped. -/
  verbose : Bool := false

/-- The text without the blanks and comments that it starts with. -/
def skipBlanks : List Char → List Char
  | [] => []
  | c :: cs =>
    if Text.isBlank c then skipBlanks cs
    else if c = '#' then skipBlanks (Text.afterFirst '\n' cs)
    else c :: cs
termination_by cs => cs.length
decreasing_by
  · simp
  · have := Text.length_afterFirst_le '\n' cs
    simp only [List.length_cons]
    omega

/-- Blanks and comments are taken off the pattern. -/
theorem length_skipBlanks_le (cs : List Char) : (skipBlanks cs).length ≤ cs.length := by
  fun_induction skipBlanks cs with
  | case1 => simp
  | case2 c cs _ ih => simp only [List.length_cons]; omega
  | case3 cs _ ih =>
    have := Text.length_afterFirst_le '\n' cs
    simp only [List.length_cons]
    omega
  | case4 => simp

namespace Flags

/-- The text without what does not count at its start. -/
def skip (f : Flags) (cs : List Char) : List Char :=
  if f.verbose then skipBlanks cs else cs

/-- So they are where the flags let them stand. -/
theorem length_skip_le (f : Flags) (cs : List Char) : (f.skip cs).length ≤ cs.length := by
  unfold skip
  split
  · exact length_skipBlanks_le cs
  · exact Nat.le_refl _

/-- Sets the flag of a letter. -/
def set? (f : Flags) (on : Bool) : Char → Option Flags
  | 'i' => some { f with ignoreCase := on }
  | 'u' => some { f with unicode := on }
  | 'x' => some { f with verbose := on }
  | 'm' | 's' | 'U' | 'R' => some f
  | _ => none

end Flags

/-- What an opening parenthesis stands for. -/
inductive Opening where
  /-- Flags for what follows. -/
  | flags (f : Flags)
  /-- A group, with the flags in it and its name. -/
  | group (f : Flags) (name : Option (List Char))

/-- The flags up to a colon or a closing parenthesis. Each letter stands once at most, and so does
the minus, which turns off the flags behind it and is not the last; `seen` are the letters so far,
the last one first. -/
def flagList? (f : Flags) (seen : List Char) : List Char → Option (Opening × List Char)
  | [] => none
  | c :: cs =>
    if c = ':' ∨ c = ')' then
      if seen.head? = some '-' then none
      else if c = ':' then some (.group f none, cs)
      else if seen.isEmpty then none
      else some (.flags f, cs)
    else if seen.contains c then none
    else if c = '-' then flagList? f (c :: seen) cs
    else
      match f.set? (!seen.contains '-') c with
      | some f => flagList? f (c :: seen) cs
      | none => none

/-- A character that the name of a group may start with. -/
def startsName (c : Char) : Bool :=
  Text.isLetter c || c == '_'

/-- A character that the name of a group may go on with. -/
def continuesName (c : Char) : Bool :=
  startsName c || Text.isNumeral c || c == '.' || c == '[' || c == ']'

/-- The name of a group up to its closing bracket. -/
def groupName? (cs : List Char) : Option (List Char × List Char) :=
  match cs.takeWhile (· != '>'), cs.dropWhile (· != '>') with
  | c :: name, _ :: rest =>
    if startsName c && name.all continuesName then some (c :: name, rest) else none
  | _, _ => none

/-- What an opening parenthesis before this text stands for, and the text after it. -/
def opening? (f : Flags) (cs : List Char) : Option (Opening × List Char) :=
  match f.skip cs with
  | '?' :: 'P' :: '<' :: rest | '?' :: '<' :: rest =>
    (groupName? rest).map fun (name, rest) => (.group f (some name), rest)
  | '?' :: rest => flagList? f [] rest
  | rest => some (.group f none, rest)

/-- A list of flags is taken off the pattern. -/
theorem length_flagList?_le {f : Flags} {seen cs rest : List Char} {o : Opening}
    (h : flagList? f seen cs = some (o, rest)) : rest.length ≤ cs.length := by
  fun_induction flagList? f seen cs <;> simp_all <;> omega

/-- So is the name of a group. -/
theorem length_groupName?_le {cs name rest : List Char} (h : groupName? cs = some (name, rest)) :
    rest.length ≤ cs.length := by
  unfold groupName? at h
  split at h
  · next hd =>
    split at h
    · obtain ⟨_, rfl⟩ := Prod.mk.inj (Option.some.inj h)
      have := (cs.dropWhile_sublist (· != '>')).length_le
      rw [hd, List.length_cons] at this
      omega
    · simp at h
  · simp at h

/-- So is what opens a group. -/
theorem length_opening?_le {f : Flags} {cs rest : List Char} {o : Opening}
    (h : opening? f cs = some (o, rest)) : rest.length ≤ cs.length := by
  have hs := f.length_skip_le cs
  unfold opening? at h
  split at h
  · next hc =>
    obtain ⟨_, hn, heq⟩ := Option.map_eq_some_iff.mp h
    obtain ⟨_, rfl⟩ := Prod.mk.inj heq
    have := length_groupName?_le hn
    rw [hc] at hs
    simp only [List.length_cons] at hs
    omega
  · next hc =>
    obtain ⟨_, hn, heq⟩ := Option.map_eq_some_iff.mp h
    obtain ⟨_, rfl⟩ := Prod.mk.inj heq
    have := length_groupName?_le hn
    rw [hc] at hs
    simp only [List.length_cons] at hs
    omega
  · next hc =>
    have := length_flagList?_le h
    rw [hc] at hs
    simp only [List.length_cons] at hs
    omega
  · obtain ⟨_, rfl⟩ := Prod.mk.inj (Option.some.inj h)
    exact hs

end SqlTemplate.Regex
