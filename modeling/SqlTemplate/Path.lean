/-!
# Property paths

A path names a value by segments joined with points: a root, which is the alias of the parameter
object, the loop variable or a property of the parameter object, and then properties below it.
-/

namespace SqlTemplate

/-- A path; it has at least its root. -/
structure Path where
  /-- The first segment. -/
  root : String
  /-- The segments below it. -/
  below : List String
  deriving DecidableEq, Repr

namespace Path

/-- The pieces of a text between its points; there is one more of them than there are points. -/
def pieces : List Char → List Char × List (List Char)
  | [] => ([], [])
  | c :: cs =>
    let (first, rest) := pieces cs
    if c = '.' then ([], first :: rest) else (c :: first, rest)

/-- The path that a text spells; no segment of it may be empty. -/
def parse? (text : String) : Option Path :=
  let (root, below) := pieces text.toList
  if root.isEmpty || below.any List.isEmpty then none
  else some ⟨String.ofList root, below.map String.ofList⟩

/-- The segments of the path, the root first. -/
def segments (p : Path) : List String :=
  p.root :: p.below

/-- The path as it is written. -/
def text (p : Path) : String :=
  ".".intercalate p.segments

/-- The path one segment further down. -/
def child (p : Path) (segment : String) : Path :=
  { p with below := p.below ++ [segment] }

end Path

end SqlTemplate
