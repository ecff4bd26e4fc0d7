import Mathlib.Data.List.Basic

/-!
# Doubled quotes

Inside quotes a quote is written twice. `Text.doubleQuotes` writes a text in this way, as strings of
a condition and test values have it. The connector of a loop is read the other way round:
`Text.Undoubled` says of two texts that the second one has a quote where the first one has two of
them. Quotes are paired from the front, so that of three quotes the last one is left alone.
-/

namespace SqlTemplate

namespace Text

/-- A text with each quote doubled. -/
def doubleQuotes (cs : List Char) : List Char :=
  cs.flatMap fun c => if c = '\'' then ['\'', '\''] else [c]

/-- The second text is the first one with one quote for two. -/
inductive Undoubled : List Char → List Char → Prop
  /-- The end of both texts. -/
  | nil : Undoubled [] []
  /-- Two quotes stand for one. -/
  | pair {cs ds : List Char} (h : Undoubled cs ds) : Undoubled ('\'' :: '\'' :: cs) ('\'' :: ds)
  /-- Any other character stands for itself, and so does a quote that no quote follows. -/
  | single {c : Char} {cs ds : List Char} (hpair : c = '\'' → cs.head? ≠ some '\'')
    (h : Undoubled cs ds) : Undoubled (c :: cs) (c :: ds)

variable {c : Char} {cs ds : List Char}

/-- A quote is written twice. -/
theorem doubleQuotes_quote (cs : List Char) :
    doubleQuotes ('\'' :: cs) = '\'' :: '\'' :: doubleQuotes cs :=
  rfl

/-- Any other character is written as it is. -/
theorem doubleQuotes_cons_of_ne (h : c ≠ '\'') : doubleQuotes (c :: cs) = c :: doubleQuotes cs := by
  simp [doubleQuotes, h]

/-- No character comes from elsewhere. -/
theorem Undoubled.subset (h : Undoubled cs ds) : ds ⊆ cs := by
  induction h with
  | nil => exact List.Subset.refl _
  | pair _ ih => exact List.cons_subset_cons _ (List.subset_cons_of_subset _ ih)
  | single _ _ ih => exact List.cons_subset_cons _ ih

end Text

end SqlTemplate
