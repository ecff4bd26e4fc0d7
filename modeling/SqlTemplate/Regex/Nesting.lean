/-!
# The nesting of a regular expression

How deep the parts of an expression are nested is bounded. What holds other parts is one level
deeper than the deepest of them: a group, a class in brackets, a repetition, and also parts that
stand side by side, be they in a row, alternatives, members of a class or the two sides of an
operator on classes. `depthOf` says so for parts side by side, where a part alone is no level of its
own.
-/

namespace SqlTemplate.Regex

/-- The depth of the deepest expression that is read. -/
def maxDepth : Nat := 250

/-- The depth of parts that stand side by side, by the depths of the parts. -/
def depthOf : List Nat → Nat
  | [] => 0
  | [d] => d
  | ds => ds.foldl max 0 + 1

/-- The depths of parts in a row, the last one first, once the last one is repeated. -/
def repeatLast : List Nat → List Nat
  | [] => []
  | d :: ds => (d + 1) :: ds

end SqlTemplate.Regex
