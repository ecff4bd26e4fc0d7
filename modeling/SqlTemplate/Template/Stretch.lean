/-!
# Stretches of a template

What the reading of a template takes as one piece: the rest of a quoted string, the body of a
comment, the rest of a list in parentheses, a word. Each function yields the piece and the text
after it, and the lemmas say that the two make up the text it was given, so that nothing is lost
and the reading ends.
-/

namespace SqlTemplate.Template

/-- The rest of a string after its opening quote, up to and with the next quote that is not
doubled; a string that is not closed runs to the end. -/
def quotedTail : List Char → List Char × List Char
  | [] => ([], [])
  | '\'' :: '\'' :: cs =>
    let (tail, rest) := quotedTail cs
    ('\'' :: '\'' :: tail, rest)
  | '\'' :: cs => (['\''], cs)
  | c :: cs =>
    let (tail, rest) := quotedTail cs
    (c :: tail, rest)

/-- Nothing of a string is lost. -/
theorem quotedTail_append (cs : List Char) : (quotedTail cs).1 ++ (quotedTail cs).2 = cs := by
  fun_induction quotedTail cs <;> simp_all

/-- The rest of a string is taken off the text. -/
theorem length_quotedTail_le (cs : List Char) : (quotedTail cs).2.length ≤ cs.length := by
  have := congrArg List.length (quotedTail_append cs)
  rw [List.length_append] at this
  omega

/-- The body of a comment after its opening, up to the closing that matches it, and the text after
that closing; `nested` comments are open inside it. Where the body holds strings (`withStrings`), a
quote that a later one can close starts one, and no comment opens or closes inside it. -/
def commentBody? (withStrings : Bool) (nested : Nat) : List Char → Option (List Char × List Char)
  | [] => none
  | '/' :: '*' :: cs =>
    (commentBody? withStrings (nested + 1) cs).map fun (body, rest) => ('/' :: '*' :: body, rest)
  | '*' :: '/' :: cs =>
    match nested with
    | 0 => some ([], cs)
    | nested + 1 =>
      (commentBody? withStrings nested cs).map fun (body, rest) => ('*' :: '/' :: body, rest)
  | c :: cs =>
    if withStrings && c == '\'' && cs.contains '\'' then
      (commentBody? withStrings nested (quotedTail cs).2).map fun (body, rest) =>
        (c :: (quotedTail cs).1 ++ body, rest)
    else (commentBody? withStrings nested cs).map fun (body, rest) => (c :: body, rest)
termination_by cs => cs.length
decreasing_by
  · simp only [List.length_cons]; omega
  · simp only [List.length_cons]; omega
  · have := length_quotedTail_le cs; simp only [List.length_cons]; omega
  · simp

/-- Nothing of a comment is lost. -/
theorem eq_append_of_commentBody? {withStrings : Bool} {nested : Nat} {cs body rest : List Char}
    (h : commentBody? withStrings nested cs = some (body, rest)) :
    cs = body ++ '*' :: '/' :: rest := by
  fun_induction commentBody? withStrings nested cs generalizing body with
  | case1 => simp at h
  | case2 nested cs ih =>
    obtain ⟨⟨b, r⟩, h', heq⟩ := Option.map_eq_some_iff.mp h
    obtain ⟨rfl, rfl⟩ := Prod.mk.inj heq
    simp [ih h']
  | case3 => simp_all
  | case4 cs nested ih =>
    obtain ⟨⟨b, r⟩, h', heq⟩ := Option.map_eq_some_iff.mp h
    obtain ⟨rfl, rfl⟩ := Prod.mk.inj heq
    simp [ih h']
  -- A string in the comment is taken as a whole.
  | case5 nested c cs _ _ _ ih =>
    obtain ⟨⟨b, r⟩, h', heq⟩ := Option.map_eq_some_iff.mp h
    obtain ⟨rfl, rfl⟩ := Prod.mk.inj heq
    rw [List.cons_append, List.cons_append, List.append_assoc, ← ih h', quotedTail_append]
  | case6 nested c cs _ _ _ ih =>
    obtain ⟨⟨b, r⟩, h', heq⟩ := Option.map_eq_some_iff.mp h
    obtain ⟨rfl, rfl⟩ := Prod.mk.inj heq
    rw [List.cons_append, ← ih h']

/-- The rest of a list after its opening parenthesis, up to and with the closing one that matches
it; `nested` parentheses are open inside it and strings are passed over. There is none if a comment
or the end of the text comes first. -/
def listTail? (nested : Nat) : List Char → Option (List Char × List Char)
  | [] => none
  | '\'' :: cs =>
    (listTail? nested (quotedTail cs).2).map fun (tail, rest) =>
      ('\'' :: (quotedTail cs).1 ++ tail, rest)
  | '/' :: '*' :: _ => none
  | '(' :: cs => (listTail? (nested + 1) cs).map fun (tail, rest) => ('(' :: tail, rest)
  | ')' :: cs =>
    match nested with
    | 0 => some ([')'], cs)
    | nested + 1 => (listTail? nested cs).map fun (tail, rest) => (')' :: tail, rest)
  | c :: cs => (listTail? nested cs).map fun (tail, rest) => (c :: tail, rest)
termination_by cs => cs.length
decreasing_by
  · have := length_quotedTail_le cs; simp only [List.length_cons]; omega
  · simp
  · simp
  · simp

/-- Nothing of a list is lost. -/
theorem eq_append_of_listTail? {nested : Nat} {cs tail rest : List Char}
    (h : listTail? nested cs = some (tail, rest)) : cs = tail ++ rest := by
  fun_induction listTail? nested cs generalizing tail with
  | case1 => simp at h
  -- A string in the list is taken as a whole.
  | case2 nested cs ih =>
    obtain ⟨⟨b, r⟩, h', heq⟩ := Option.map_eq_some_iff.mp h
    obtain ⟨rfl, rfl⟩ := Prod.mk.inj heq
    rw [List.cons_append, List.cons_append, List.append_assoc, ← ih h', quotedTail_append]
  | case3 => simp at h
  | case4 nested cs ih =>
    obtain ⟨⟨b, r⟩, h', heq⟩ := Option.map_eq_some_iff.mp h
    obtain ⟨rfl, rfl⟩ := Prod.mk.inj heq
    rw [List.cons_append, ← ih h']
  | case5 =>
    obtain ⟨rfl, rfl⟩ := Prod.mk.inj (Option.some.inj h)
    rfl
  | case6 cs nested ih =>
    obtain ⟨⟨b, r⟩, h', heq⟩ := Option.map_eq_some_iff.mp h
    obtain ⟨rfl, rfl⟩ := Prod.mk.inj heq
    rw [List.cons_append, ← ih h']
  | case7 nested c cs _ _ _ _ ih =>
    obtain ⟨⟨b, r⟩, h', heq⟩ := Option.map_eq_some_iff.mp h
    obtain ⟨rfl, rfl⟩ := Prod.mk.inj heq
    rw [List.cons_append, ← ih h']

end SqlTemplate.Template
