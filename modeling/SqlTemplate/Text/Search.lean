/-!
# Searching a text

The first occurrence of a mark in a text, as the two parts of the text around it, and a run of
characters of one kind, as it is cut off the text behind it.
-/

namespace SqlTemplate.Text

/-- The characters of one kind are taken up to the first one of another kind. -/
theorem takeWhile_append_of_stop {p : Char → Bool} {cs rest : List Char}
    (hcs : ∀ d ∈ cs, p d = true) (hrest : ∀ d ∈ rest.head?, p d = false) :
    (cs ++ rest).takeWhile p = cs ∧ (cs ++ rest).dropWhile p = rest := by
  have hnone : rest.takeWhile p = [] ∧ rest.dropWhile p = rest := by
    cases rest with
    | nil => exact ⟨rfl, rfl⟩
    | cons d rest =>
      have hd := hrest d rfl
      simp [hd]
  rw [List.takeWhile_append_of_pos hcs, List.dropWhile_append_of_pos hcs, hnone.1, hnone.2,
    List.append_nil]
  exact ⟨rfl, rfl⟩

/-- The text after the first occurrence of a character, and nothing if there is none. -/
def afterFirst (mark : Char) (cs : List Char) : List Char :=
  (cs.dropWhile (· != mark)).tail

/-- What stands behind a character is no longer than the text. -/
theorem length_afterFirst_le (mark : Char) (cs : List Char) :
    (afterFirst mark cs).length ≤ cs.length := by
  have := (cs.dropWhile_sublist (· != mark)).length_le
  simp only [afterFirst, List.length_tail]
  omega

/-- What stands before and after the first occurrence of `mark` in a text. -/
def splitAtFirst? (mark : List Char) : List Char → Option (List Char × List Char)
  | [] => if mark.isEmpty then some ([], []) else none
  | c :: cs =>
    if mark.isPrefixOf (c :: cs) then some ([], (c :: cs).drop mark.length)
    else (splitAtFirst? mark cs).map fun (before, after) => (c :: before, after)

/-- A text without the first character of the mark is passed over. -/
theorem splitAtFirst?_append {c : Char} {mark text : List Char} (h : c ∉ text)
    (after : List Char) :
    splitAtFirst? (c :: mark) (text ++ after) =
      (splitAtFirst? (c :: mark) after).map fun (before, behind) => (text ++ before, behind) := by
  induction text with
  | nil =>
    rw [List.nil_append]
    cases splitAtFirst? (c :: mark) after <;> rfl
  | cons d text ih =>
    rw [List.mem_cons, not_or] at h
    have hfirst : (c :: mark).isPrefixOf (d :: (text ++ after)) = false := by
      rw [List.isPrefixOf, beq_false_of_ne h.1, Bool.false_and]
    rw [List.cons_append, splitAtFirst?, hfirst, if_neg Bool.false_ne_true, ih h.2]
    cases splitAtFirst? (c :: mark) after <;> rfl

end SqlTemplate.Text
