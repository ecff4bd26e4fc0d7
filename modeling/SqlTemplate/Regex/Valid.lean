import SqlTemplate.Regex.Bracket

/-!
# Valid regular expressions

Whether a text is a regular expression, read without tables of Unicode properties and for matching
text only, and whether it can be turned into an automaton. It is read from left to right: `Reader`
is what the reading depends on between two parts, `Reader.step?` reads one part, and `check` says
that no part of the text is refused, that no group is left open and that the parts are not nested
too deep. A count in braces is always refused: where expressions stand here, no closing brace is to
be had.
-/

namespace SqlTemplate.Regex

/-- What is wrong with an expression. -/
inductive Fault where
  /-- It is none. -/
  | malformed
  /-- It asks for the edges of words of characters, which no automaton finds. -/
  | wordEdge
  deriving DecidableEq, Repr

/-- The wording of the fault. -/
def Fault.message : Fault → String
  | malformed => "error building NFA"
  | wordEdge => "unsupported regex feature for DFAs: cannot build DFAs for regexes with Unicode " ++
    "word boundaries; switch to ASCII word boundaries, or heuristically enable Unicode word " ++
    "boundaries or use a different regex engine"

/-- What has been read of an expression or of a group in it. -/
structure Group where
  /-- The flags for what follows. -/
  flags : Flags := {}
  /-- The depths of the alternatives so far. -/
  alternatives : List Nat := []
  /-- The depths of the parts behind the last alternative, the last part first. -/
  parts : List Nat := []
  /-- The last part may be repeated. -/
  repeatable : Bool := false

namespace Group

/-- The depth of the alternatives. -/
def depth (g : Group) : Nat :=
  depthOf (depthOf g.parts :: g.alternatives)

/-- The group with one more part, which has the given depth and may be repeated. -/
def push (g : Group) (depth : Nat) : Group :=
  { g with parts := depth :: g.parts, repeatable := true }

/-- The group with its last part repeated. -/
def repeatPart (g : Group) : Group :=
  { g with parts := repeatLast g.parts }

/-- The group with other flags, which are a part of it. -/
def setFlags (g : Group) (f : Flags) : Group :=
  { g with flags := f, parts := 0 :: g.parts, repeatable := false }

/-- The group with one more alternative. -/
def alternate (g : Group) : Group :=
  { flags := g.flags, alternatives := depthOf g.parts :: g.alternatives }

end Group

/-- What is known of an expression that has been read up to some place. -/
structure Reader where
  /-- The innermost open group, or the whole expression. -/
  group : Group := {}
  /-- What is around it, the innermost first. -/
  outer : List Group := []
  /-- The names of the groups so far. -/
  names : List (List Char) := []
  /-- The edges of words of characters have been asked for. -/
  wordEdge : Bool := false

namespace Reader

/-- The flags for what follows. -/
def flags (r : Reader) : Flags :=
  r.group.flags

/-- The reader behind a part of the given depth that may be repeated. -/
def push (r : Reader) (depth : Nat) : Reader :=
  { r with group := r.group.push depth }

/-- The reader behind an opening parenthesis, unless another group has its name. -/
def opened? (r : Reader) : Opening → Option Reader
  | .flags f => some { r with group := r.group.setFlags f }
  | .group f name =>
    if name.any r.names.contains then none
    else
      some { r with
        group := { flags := f }
        outer := r.group :: r.outer
        names := name.toList ++ r.names }

/-- The reader behind a closing parenthesis. -/
def closed? (r : Reader) : Option Reader :=
  match r.outer with
  | g :: outer => some { r with group := g.push (r.group.depth + 1), outer }
  | [] => none

/-- The reader behind an atom. -/
def atom? (r : Reader) (a : Atom) : Option Reader :=
  if a.isValid r.flags then
    some { r.push 0 with wordEdge := r.wordEdge || (a.isBoundary && r.flags.unicode) }
  else none

/-- The text after a sign of repetition, which may be a lazy one. -/
def afterRepetition : List Char → List Char
  | '?' :: cs => cs
  | cs => cs

/-- The reader behind the first part of a text, and the text after it. -/
def step? (r : Reader) : List Char → Option (Reader × List Char)
  | [] => none
  | '(' :: cs => (opening? r.flags cs).bind fun (o, rest) => (r.opened? o).map fun r => (r, rest)
  | ')' :: cs => r.closed?.map fun r => (r, cs)
  | '|' :: cs => some ({ r with group := r.group.alternate }, cs)
  | '[' :: cs => (bracket? r.flags cs).map fun (depth, rest) => (r.push depth, rest)
  | '\\' :: cs => (escape? r.flags cs).bind fun (a, rest) => (r.atom? a).map fun r => (r, rest)
  | '\x7b' :: _ => none
  | '.' :: cs => if r.flags.unicode then some (r.push 0, cs) else none
  | '^' :: cs | '$' :: cs => some (r.push 0, cs)
  | c :: cs =>
    if c = '*' ∨ c = '+' ∨ c = '?' then
      if r.group.repeatable then some ({ r with group := r.group.repeatPart }, afterRepetition cs)
      else none
    else (r.atom? (.literal c false)).map fun r => (r, cs)

/-- The mark behind a repetition is taken off the pattern. -/
theorem length_afterRepetition_le (cs : List Char) :
    (afterRepetition cs).length ≤ cs.length := by
  unfold afterRepetition
  split <;> simp

/-- A step takes a character of the pattern at least. -/
theorem length_step?_lt {r r' : Reader} {cs rest : List Char}
    (h : r.step? cs = some (r', rest)) : rest.length < cs.length := by
  unfold step? at h
  split at h
  · simp at h
  · obtain ⟨⟨_, _⟩, ho, hr⟩ := Option.bind_eq_some_iff.mp h
    obtain ⟨_, _, heq⟩ := Option.map_eq_some_iff.mp hr
    obtain ⟨_, rfl⟩ := Prod.mk.inj heq
    exact Nat.lt_succ_of_le (length_opening?_le ho)
  · obtain ⟨_, _, heq⟩ := Option.map_eq_some_iff.mp h
    obtain ⟨_, rfl⟩ := Prod.mk.inj heq
    simp
  · obtain ⟨_, rfl⟩ := Prod.mk.inj (Option.some.inj h)
    simp
  · obtain ⟨⟨_, _⟩, hb, heq⟩ := Option.map_eq_some_iff.mp h
    obtain ⟨_, rfl⟩ := Prod.mk.inj heq
    exact Nat.lt_succ_of_le (length_bracket?_le hb)
  · obtain ⟨⟨_, _⟩, he, hr⟩ := Option.bind_eq_some_iff.mp h
    obtain ⟨_, _, heq⟩ := Option.map_eq_some_iff.mp hr
    obtain ⟨_, rfl⟩ := Prod.mk.inj heq
    exact Nat.lt_succ_of_le (length_escape?_le he)
  · simp at h
  · split at h
    · obtain ⟨_, rfl⟩ := Prod.mk.inj (Option.some.inj h)
      simp
    · simp at h
  iterate 2
    obtain ⟨_, rfl⟩ := Prod.mk.inj (Option.some.inj h)
    simp
  · split at h
    · split at h
      · obtain ⟨_, rfl⟩ := Prod.mk.inj (Option.some.inj h)
        exact Nat.lt_succ_of_le (length_afterRepetition_le _)
      · simp at h
    · obtain ⟨_, _, heq⟩ := Option.map_eq_some_iff.mp h
      obtain ⟨_, rfl⟩ := Prod.mk.inj heq
      simp

/-- The reader behind the whole text. -/
def read? (r : Reader) (cs : List Char) : Option Reader :=
  match h : r.step? (r.flags.skip cs) with
  | some (r', rest) =>
    have := Nat.lt_of_lt_of_le (length_step?_lt h) (r.flags.length_skip_le cs)
    r'.read? rest
  | none => if (r.flags.skip cs).isEmpty then some r else none
termination_by cs.length

end Reader

/-- The text is a regular expression that can be turned into an automaton. -/
def check (text : List Char) : Except Fault Unit :=
  match Reader.read? {} text with
  | none => .error .malformed
  | some r =>
    if !r.outer.isEmpty || r.group.depth > maxDepth then .error .malformed
    else if r.wordEdge then .error .wordEdge
    else .ok ()

end SqlTemplate.Regex
