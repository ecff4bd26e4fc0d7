/-!
# Maps from names

A map from names is the list of its entries in increasing order of their names, compared by code
point, so that two maps with the same entries are equal. `set` keeps that order (`Sorted`), and
`get?` finds what was set last.
-/

namespace SqlTemplate

/-- A map from names. -/
abbrev NameMap (α : Type) := List (String × α)

namespace NameMap

variable {α : Type}

/-- Puts an entry in its place, over an earlier one of its name. -/
def set (name : String) (value : α) : NameMap α → NameMap α
  | [] => [(name, value)]
  | (key, old) :: rest =>
    if name < key then (name, value) :: (key, old) :: rest
    else if name = key then (name, value) :: rest
    else (key, old) :: set name value rest

/-- The value under a name. -/
def get? (name : String) : NameMap α → Option α
  | [] => none
  | (key, value) :: rest => if name = key then some value else get? name rest

/-- The names, in order. -/
def names (map : NameMap α) : List String :=
  map.map Prod.fst

/-- The map of entries given one after the other, the last one of a name kept. -/
def ofEntries (entries : List (String × α)) : NameMap α :=
  entries.foldl (fun map entry => set entry.1 entry.2 map) []

/-- The names increase, so that each occurs once. -/
def Sorted (map : NameMap α) : Prop :=
  map.names.Pairwise (· < ·)

/-- No name has an entry in the empty map. -/
@[simp] theorem get?_nil (name : String) : get? name ([] : NameMap α) = none := rfl

/-- What was set under a name is found there. -/
@[simp] theorem get?_set_self (name : String) (value : α) (map : NameMap α) :
    get? name (set name value map) = some value := by
  induction map with
  | nil => simp [set, get?]
  | cons entry rest ih =>
    obtain ⟨key, old⟩ := entry
    simp only [set]
    split
    · simp [get?]
    · split
      · simp [get?]
      · next h => simp [get?, h, ih]

/-- Setting an entry leaves those of other names alone. -/
theorem get?_set_of_ne {name other : String} (h : other ≠ name) (value : α) (map : NameMap α) :
    get? other (set name value map) = get? other map := by
  induction map with
  | nil => simp [set, get?, h]
  | cons entry rest ih =>
    obtain ⟨key, old⟩ := entry
    simp only [set]
    split
    · simp [get?, h]
    · split
      · next heq => subst heq; simp [get?, h]
      · simp [get?, ih]

end NameMap

end SqlTemplate
