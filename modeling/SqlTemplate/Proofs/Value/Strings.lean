import SqlTemplate.Proofs.Scope

/-!
# The strings inside a value

`Value.strings` lists the strings that a value holds at any depth. Resolving a path only goes down
into the parameter object, so every string of the value it finds is one of the object's or of the
element of an open loop: `strings_resolve_subset` states this for a scope whose loops run over
parts of its own parameter object.
-/

namespace SqlTemplate

namespace Value

mutual

/-- The strings that the value holds, at any depth and in order; names of properties are none. -/
def strings : Value → List String
  | string s => [s]
  | list items => stringsOfItems items
  | object properties => stringsOfProperties properties
  | _ => []

/-- The strings of the items of a list. -/
def stringsOfItems : List Value → List String
  | [] => []
  | v :: rest => v.strings ++ stringsOfItems rest

/-- The strings of the values of an object's properties. -/
def stringsOfProperties : List (String × Value) → List String
  | [] => []
  | (_, v) :: rest => v.strings ++ stringsOfProperties rest

end

/-- The strings of an item are strings of the list. -/
theorem strings_subset_of_mem {v : Value} {items : List Value} (h : v ∈ items) :
    v.strings ⊆ stringsOfItems items := by
  induction items with
  | nil => simp at h
  | cons w rest ih =>
    rw [stringsOfItems]
    rcases List.mem_cons.1 h with rfl | h
    · exact List.subset_append_left _ _
    · exact List.subset_append_of_subset_right _ (ih h)

/-- The strings of a property are strings of the object. -/
theorem strings_subset_of_get? {name : String} {v : Value} {properties : Properties}
    (h : NameMap.get? name properties = some v) : v.strings ⊆ stringsOfProperties properties := by
  induction properties with
  | nil => simp at h
  | cons entry rest ih =>
    obtain ⟨key, w⟩ := entry
    rw [stringsOfProperties]
    rw [NameMap.get?] at h
    split_ifs at h with hkey
    · obtain rfl := Option.some.inj h
      exact List.subset_append_left _ _
    · exact List.subset_append_of_subset_right _ (ih h)

/-- The strings of a property of a value are strings of the value. -/
theorem strings_property?_subset {v child : Value} {name : String}
    (h : v.property? name = some child) : child.strings ⊆ v.strings := by
  obtain ⟨properties, hobject, hget⟩ := Option.bind_eq_some_iff.1 h
  cases v with
  | object =>
    obtain rfl := Option.some.inj hobject
    exact strings_subset_of_get? hget
  | _ => simp [asObject?] at hobject

end Value

/-- The strings that the parameter object holds. -/
def Parameters.strings (p : Parameters) : List String :=
  Value.stringsOfProperties p.properties

namespace Scope

/-- Everything that a path can lead to holds strings of `texts` only. -/
structure Holds (s : Scope) (texts : List String) : Prop where
  /-- The parameter object does. -/
  parameters : s.parameters.strings ⊆ texts
  /-- So does the element of each open loop. -/
  loops : ∀ frame ∈ s.loops, frame.element.strings ⊆ texts

/-- The value of a path holds strings of the scope only. -/
theorem strings_resolve_subset {s : Scope} {texts : List String} (hs : s.Holds texts)
    {path : Path} {v : Value} (h : s.resolve path = .ok v) : v.strings ⊆ texts := by
  refine resolve_induction (P := fun v => v.strings ⊆ texts) (List.nil_subset _) ?_ ?_ hs.loops h
  · intro v child name hv hchild
    exact List.Subset.trans (Value.strings_property?_subset hchild) hv
  · intro name v hget
    exact List.Subset.trans (Value.strings_subset_of_get? hget) hs.parameters

/-- A round of a loop over a value of the scope leads to no other strings. -/
theorem Holds.enter {s : Scope} {texts : List String} (hs : s.Holds texts) {frame : LoopFrame}
    (hframe : frame.element.strings ⊆ texts) : (s.enter frame).Holds texts := by
  refine ⟨hs.parameters, ?_⟩
  intro other hother
  rcases List.mem_cons.1 hother with rfl | hother
  · exact hframe
  · exact hs.loops other hother

end Scope

end SqlTemplate
