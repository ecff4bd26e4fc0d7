import SqlTemplate.Regex.Escape
import SqlTemplate.Regex.Nesting

/-!
# The classes of a regular expression

A class in brackets holds characters, ranges of them, classes with a name and further classes in
brackets; classes can be intersected and subtracted, all operators being equal and joined from the
left. A class of bytes must not hold bytes beyond ASCII, which are no text, so that it cannot be
negated, and neither can a class with a name in it. What a class holds does not matter otherwise:
only how deep it is nested is kept.
-/

namespace SqlTemplate.Regex

/-- A class whose closing bracket has not been read yet. -/
structure OpenClass where
  /-- The depth of what is on the left of the last operator. -/
  left : Option Nat := none
  /-- The depths of the members behind the last operator, the last one first. -/
  members : List Nat := []

namespace OpenClass

/-- The depth of what the class holds. -/
def depth (s : OpenClass) : Nat :=
  depthOf (depthOf s.members :: s.left.toList)

/-- The class with one more member, which has the given depth. -/
def push (s : OpenClass) (depth : Nat) : OpenClass :=
  { s with members := depth :: s.members }

/-- The class with one more operator. -/
def join (s : OpenClass) : OpenClass :=
  { left := some s.depth }

end OpenClass

/-- The classes that have a name. -/
def classNames : List String :=
  ["alnum", "alpha", "ascii", "blank", "cntrl", "digit", "graph", "lower", "print", "punct",
    "space", "upper", "word", "xdigit"]

/-- The text after the name of a class and what closes it. -/
def afterName? (cs : List Char) : Option (List Char) :=
  match cs.dropWhile (· != ':') with
  | ':' :: ']' :: rest =>
    if classNames.contains (String.ofList (cs.takeWhile (· != ':'))) then some rest else none
  | _ => none

/-- Whether the class with a name is negated that a bracket before this text opens, and the text
after it. -/
def namedClass? : List Char → Option (Bool × List Char)
  | ':' :: '^' :: cs => (afterName? cs).map fun rest => (true, rest)
  | ':' :: cs => (afterName? cs).map fun rest => (false, rest)
  | _ => none

/-- A class may be negated. -/
def takesNegation (f : Flags) : Bool :=
  f.unicode

/-- A literal character may be a member of a class. -/
def takesMembers (f : Flags) : Bool :=
  (Atom.literal '-' false).isMember f

/-- A class with the hyphens that a text starts with, and the text after them. -/
def pushHyphens (f : Flags) (s : OpenClass) : List Char → OpenClass × List Char
  | '-' :: cs => pushHyphens f (s.push 0) (f.skip cs)
  | cs => (s, cs)
termination_by cs => cs.length
decreasing_by
  have := f.length_skip_le cs
  simp only [List.length_cons]
  omega

/-- Whether a caret negates the class that is opened before this text, and the text after it. -/
def caret (f : Flags) (cs : List Char) : Bool × List Char :=
  match f.skip cs with
  | '^' :: rest => (true, f.skip rest)
  | rest => (false, rest)

/-- The first members of a class as far as they would be operators or close it elsewhere: hyphens,
or else a closing bracket. -/
def lead (f : Flags) : List Char → OpenClass × List Char
  | ']' :: cs => (OpenClass.push {} 0, f.skip cs)
  | cs => pushHyphens f {} cs

/-- The class that a bracket before this text opens, and the text after its start. -/
def openClass? (f : Flags) (cs : List Char) : Option (OpenClass × List Char) :=
  let (negated, cs) := caret f cs
  let (s, rest) := lead f cs
  if (negated && !takesNegation f) || (!s.members.isEmpty && !takesMembers f) then none
  else some (s, rest)

/-- The atom that a text in a class starts with. -/
def classAtom? (f : Flags) : List Char → Option (Atom × List Char)
  | [] => none
  | '\\' :: cs => escape? f cs
  | c :: cs => some (.literal c false, cs)

/-- The text in a verbose expression without its blanks and the sign of a comment. -/
def skipSign (cs : List Char) : List Char :=
  match cs.dropWhile Text.isBlank with
  | '#' :: rest => rest.dropWhile Text.isBlank
  | rest => rest

/-- The character that is looked at beyond a hyphen. -/
def peek (f : Flags) (cs : List Char) : Option Char :=
  if f.verbose then (skipSign cs).head? <|> cs.head? else cs.head?

/-- The text after a member of a class, which is an atom or a range. A hyphen makes no range before
the closing bracket and before another hyphen. -/
def member? (f : Flags) (cs : List Char) : Option (List Char) :=
  match classAtom? f cs with
  | none => none
  | some (first, rest) =>
    match f.skip rest with
    | '-' :: after =>
      if peek f after = some ']' ∨ peek f after = some '-' then
        if first.isMember f then some (f.skip rest) else none
      else
        match first, classAtom? f (f.skip after) with
        | .literal a _, some (.literal b code, rest) =>
          if first.isMember f && (Atom.literal b code).isMember f && a ≤ b then some rest else none
        | _, _ => none
    | rest => if first.isMember f then some rest else none

/-- The end of a name is taken off the pattern. -/
theorem length_afterName?_le {cs rest : List Char} (h : afterName? cs = some rest) :
    rest.length ≤ cs.length := by
  unfold afterName? at h
  split at h
  · next hd =>
    split at h
    · obtain rfl := Option.some.inj h
      have := (cs.dropWhile_sublist (· != ':')).length_le
      rw [hd] at this
      simp only [List.length_cons] at this
      omega
    · simp at h
  · simp at h

/-- A named class takes a character at least. -/
theorem length_namedClass?_lt {cs rest : List Char} {negated : Bool}
    (h : namedClass? cs = some (negated, rest)) : rest.length < cs.length := by
  unfold namedClass? at h
  split at h
  iterate 2
    obtain ⟨_, hn, heq⟩ := Option.map_eq_some_iff.mp h
    obtain ⟨_, rfl⟩ := Prod.mk.inj heq
    have := length_afterName?_le hn
    simp only [List.length_cons]
    omega
  simp at h

/-- Hyphens at the start of a class are taken off the pattern. -/
theorem length_pushHyphens_le (f : Flags) (s : OpenClass) (cs : List Char) :
    (pushHyphens f s cs).2.length ≤ cs.length := by
  fun_induction pushHyphens f s cs with
  | case1 _ cs ih =>
    have := f.length_skip_le cs
    simp only [List.length_cons]
    omega
  | case2 => simp

/-- The sign of a negated class, if there is one, is taken off the pattern. -/
theorem length_caret_le (f : Flags) (cs : List Char) : (caret f cs).2.length ≤ cs.length := by
  have h := f.length_skip_le cs
  unfold caret
  split
  · next rest hs =>
    have := f.length_skip_le rest
    rw [hs, List.length_cons] at h
    dsimp only
    omega
  · exact h

/-- What may stand first in a class is taken off the pattern. -/
theorem length_lead_le (f : Flags) (cs : List Char) : (lead f cs).2.length ≤ cs.length := by
  unfold lead
  split
  · next cs => exact Nat.le_succ_of_le (f.length_skip_le cs)
  · exact length_pushHyphens_le f _ _

/-- The opening of a class is taken off the pattern. -/
theorem length_openClass?_le {f : Flags} {cs rest : List Char} {s : OpenClass}
    (h : openClass? f cs = some (s, rest)) : rest.length ≤ cs.length := by
  unfold openClass? at h
  dsimp only at h
  split at h
  · simp at h
  · obtain ⟨_, rfl⟩ := Prod.mk.inj (Option.some.inj h)
    exact Nat.le_trans (length_lead_le f _) (length_caret_le f cs)

/-- An atom of a class takes a character at least. -/
theorem length_classAtom?_lt {f : Flags} {cs rest : List Char} {a : Atom}
    (h : classAtom? f cs = some (a, rest)) : rest.length < cs.length := by
  unfold classAtom? at h
  split at h
  · simp at h
  · exact Nat.lt_succ_of_le (length_escape?_le h)
  · obtain ⟨_, rfl⟩ := Prod.mk.inj (Option.some.inj h)
    simp

/-- A member of a class takes a character at least. -/
theorem length_member?_lt {f : Flags} {cs rest : List Char} (h : member? f cs = some rest) :
    rest.length < cs.length := by
  unfold member? at h
  split at h
  · simp at h
  · next first text ha =>
    have h₁ := length_classAtom?_lt ha
    -- The first end of a range has been read; behind the dash stands the other one.
    have h₂ := f.length_skip_le text
    split at h
    · next after hs =>
      rw [hs, List.length_cons] at h₂
      split at h
      · split at h
        · obtain rfl := Option.some.inj h
          rw [hs, List.length_cons]
          omega
        · simp at h
      · split at h
        · next hb =>
          split at h
          · obtain rfl := Option.some.inj h
            have := length_classAtom?_lt hb
            have := f.length_skip_le after
            omega
          · simp at h
        · simp at h
    · split at h
      · obtain rfl := Option.some.inj h
        omega
      · simp at h

/-- The state of the reading of a class between two parts of it. -/
inductive ClassProgress where
  /-- The class is closed and has this depth. -/
  | closed (depth : Nat)
  /-- A class is open, in the classes around it, the innermost first. -/
  | within (s : OpenClass) (outer : List OpenClass)

/-- The state once a class of this depth is closed. -/
def ClassProgress.close (depth : Nat) : List OpenClass → ClassProgress
  | [] => closed depth
  | s :: outer => within (s.push depth) outer

/-- The state behind the next part of the class `s`, and the text after it. -/
def classStep? (f : Flags) (s : OpenClass) (outer : List OpenClass) :
    List Char → Option (ClassProgress × List Char)
  | [] => none
  | '[' :: cs =>
    match namedClass? cs with
    | some (negated, rest) =>
      if takesMembers f && (!negated || takesNegation f) then some (.within (s.push 0) outer, rest)
      else none
    | none => (openClass? f cs).map fun (inner, rest) => (.within inner (s :: outer), rest)
  | ']' :: cs => some (.close (s.depth + 1) outer, cs)
  | '&' :: '&' :: cs | '-' :: '-' :: cs | '~' :: '~' :: cs => some (.within s.join outer, cs)
  | cs => (member? f cs).map fun rest => (.within (s.push 0) outer, rest)

/-- A step inside a class takes a character at least. -/
theorem length_classStep?_lt {f : Flags} {s : OpenClass} {outer : List OpenClass}
    {p : ClassProgress} {cs rest : List Char} (h : classStep? f s outer cs = some (p, rest)) :
    rest.length < cs.length := by
  unfold classStep? at h
  split at h
  · simp at h
  · split at h
    · next hn =>
      split at h
      · obtain ⟨_, rfl⟩ := Prod.mk.inj (Option.some.inj h)
        exact Nat.lt_succ_of_lt (length_namedClass?_lt hn)
      · simp at h
    · obtain ⟨_, ho, heq⟩ := Option.map_eq_some_iff.mp h
      obtain ⟨_, rfl⟩ := Prod.mk.inj heq
      exact Nat.lt_succ_of_le (length_openClass?_le ho)
  -- The closing bracket and the three operators are fixed characters.
  iterate 4
    obtain ⟨_, rfl⟩ := Prod.mk.inj (Option.some.inj h)
    simp only [List.length_cons]
    omega
  · obtain ⟨_, hm, heq⟩ := Option.map_eq_some_iff.mp h
    obtain ⟨_, rfl⟩ := Prod.mk.inj heq
    exact length_member?_lt hm

/-- The depth of the class that is being read, and the text after it. -/
def closeClass? (f : Flags) (s : OpenClass) (outer : List OpenClass) (cs : List Char) :
    Option (Nat × List Char) :=
  match h : classStep? f s outer (f.skip cs) with
  | some (.closed depth, rest) => some (depth, rest)
  | some (.within s outer, rest) =>
    have := Nat.lt_of_lt_of_le (length_classStep?_lt h) (f.length_skip_le cs)
    closeClass? f s outer rest
  | none => none
termination_by cs.length

/-- The depth of the class that a bracket before this text opens, and the text after it. -/
def bracket? (f : Flags) (cs : List Char) : Option (Nat × List Char) :=
  match openClass? f cs with
  | some (s, rest) => closeClass? f s [] rest
  | none => none

/-- A class is taken off the pattern up to its end. -/
theorem length_closeClass?_le {f : Flags} {s : OpenClass} {outer : List OpenClass} {depth : Nat}
    {cs rest : List Char} (h : closeClass? f s outer cs = some (depth, rest)) :
    rest.length ≤ cs.length := by
  fun_induction closeClass? f s outer cs with
  | case1 _ _ cs _ _ hs =>
    obtain ⟨_, rfl⟩ := Prod.mk.inj (Option.some.inj h)
    exact Nat.le_of_lt (Nat.lt_of_lt_of_le (length_classStep?_lt hs) (f.length_skip_le cs))
  | case2 _ _ _ _ _ _ _ hlt ih => exact Nat.le_trans (ih h) (Nat.le_of_lt hlt)
  | case3 => simp at h

/-- So is a class with its opening bracket. -/
theorem length_bracket?_le {f : Flags} {cs rest : List Char} {depth : Nat}
    (h : bracket? f cs = some (depth, rest)) : rest.length ≤ cs.length := by
  unfold bracket? at h
  split at h
  · next ho => exact Nat.le_trans (length_closeClass?_le h) (length_openClass?_le ho)
  · simp at h

end SqlTemplate.Regex
