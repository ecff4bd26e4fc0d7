import SqlTemplate.Dialect
import SqlTemplate.Text.Search

/-!
# Inlining binds

For display, the placeholders of a statement are replaced by the literals of its values. Each
placeholder is the first occurrence of its text in what is left of the statement after the one
before it; where one is not found, the rest of the text stays as it is.
-/

namespace SqlTemplate

namespace Dialect

/-- The text with the placeholders from `position` on replaced by the literals of the values. -/
def inlineFrom (d : Dialect) : Nat → List Value → List Char → List Char
  | _, [], text => text
  | position, v :: rest, text =>
    match Text.splitAtFirst? (d.placeholder position).toList text with
    | none => text
    | some (before, after) =>
      before ++ (d.literal v).toList ++ d.inlineFrom (position + 1) rest after

/-- The text of a statement with its values in the place of their placeholders. -/
def inline (d : Dialect) (s : Statement) : String :=
  String.ofList (d.inlineFrom 1 s.values s.sql.toList)

end Dialect

end SqlTemplate
