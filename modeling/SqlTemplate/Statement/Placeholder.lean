import SqlTemplate.Text.Search

/-!
# Counting placeholders

A `?` in the text of a statement is a placeholder unless it stands in a quoted string, in a block
comment or in a line comment. `countPlaceholders` reads the text from the left and passes over
each of those as a whole; one that is not closed runs to the end of the text. A string ends at
the next quote, so that a doubled quote closes one string and opens another, and block comments
do not nest.
-/

namespace SqlTemplate.Statement

/-- The text after the next end of a block comment. -/
def afterBlock : List Char → List Char
  | [] => []
  | '*' :: '/' :: cs => cs
  | _ :: cs => afterBlock cs

/-- The rest of a comment is taken off the text. -/
theorem length_afterBlock_le (cs : List Char) : (afterBlock cs).length ≤ cs.length := by
  fun_induction afterBlock cs <;> simp_all <;> omega

/-- The number of placeholders in a text that starts outside strings and comments. -/
def countMarks : List Char → Nat
  | [] => 0
  | '\'' :: cs => countMarks (Text.afterFirst '\'' cs)
  | '/' :: '*' :: cs => countMarks (afterBlock cs)
  | '-' :: '-' :: cs => countMarks (Text.afterFirst '\n' cs)
  | '?' :: cs => countMarks cs + 1
  | _ :: cs => countMarks cs
termination_by cs => cs.length
decreasing_by
  · have := Text.length_afterFirst_le '\'' cs; simp only [List.length_cons]; omega
  · have := length_afterBlock_le cs; simp only [List.length_cons]; omega
  · have := Text.length_afterFirst_le '\n' cs; simp only [List.length_cons]; omega
  · simp
  · simp

/-- The number of placeholders in the text of a statement. -/
def countPlaceholders (sql : String) : Nat :=
  countMarks sql.toList

end SqlTemplate.Statement
