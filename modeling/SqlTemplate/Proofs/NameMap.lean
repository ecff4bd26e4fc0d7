import Mathlib.Data.List.Nodup
import Mathlib.Tactic.SplitIfs
import SqlTemplate.NameMap

/-!
# Maps from names in order

Setting an entry keeps a map sorted, so that a map of entries is sorted whatever their order
(`sorted_ofEntries`), and it is these entries if they were sorted already (`ofEntries_of_sorted`).
Entries of different names can be set in either order (`set_comm`), so that the map does not depend
on the order of its entries if their names are distinct (`ofEntries_perm`). In a sorted map the
least name is the first one (`isLeast_cons_iff`).
-/

namespace SqlTemplate.NameMap

variable {α : Type} {map rest : NameMap α} {name key : String} {value : α}

/-- The name is in the map, and none before it. -/
def IsLeast (name : String) (map : NameMap α) : Prop :=
  name ∈ map.names ∧ ∀ other ∈ map.names, name ≤ other

/-- Neighbouring names are compared. -/
instance (map : NameMap α) : Decidable (Sorted map) :=
  inferInstanceAs (Decidable (map.names.Pairwise (· < ·)))

/-- Setting an entry adds its name. -/
theorem mem_names_set {other : String} :
    other ∈ names (set name value map) ↔ other = name ∨ other ∈ names map := by
  induction map with
  | nil => exact List.mem_cons
  | cons entry rest ih =>
    obtain ⟨key, old⟩ := entry
    unfold set
    split_ifs with hbefore hsame
    · exact List.mem_cons
    · subst hsame
      simp [names]
    · simp only [names, List.map_cons, List.mem_cons] at ih ⊢
      rw [ih]
      exact or_left_comm

/-- Setting an entry keeps the order. -/
theorem Sorted.set (h : Sorted map) : Sorted (NameMap.set name value map) := by
  induction map with
  | nil => exact List.pairwise_singleton _ _
  | cons entry rest ih =>
    obtain ⟨key, old⟩ := entry
    obtain ⟨hfirst, hrest⟩ := List.pairwise_cons.1 h
    unfold NameMap.set
    split_ifs with hbefore hsame
    -- Before the first name, the new one is the least of all.
    · refine List.pairwise_cons.2 ⟨List.forall_mem_cons.2 ⟨hbefore, ?_⟩, h⟩
      exact fun other hother => String.lt_trans hbefore (hfirst other hother)
    · subst hsame
      exact List.pairwise_cons.2 ⟨hfirst, hrest⟩
    · -- The name lies behind the first one, so it is set in the rest.
      have hafter : key < name :=
        Decidable.byContradiction fun hnot => hsame (String.le_antisymm hnot hbefore)
      refine List.pairwise_cons.2 ⟨fun other hother => ?_, ih hrest⟩
      rcases mem_names_set.1 hother with rfl | hother
      · exact hafter
      · exact hfirst other hother

/-- The map of entries is sorted, in whichever order they come. -/
theorem sorted_ofEntries (entries : List (String × α)) : Sorted (ofEntries entries) := by
  have hfold : ∀ map : NameMap α, Sorted map →
      Sorted (entries.foldl (fun map entry => set entry.1 entry.2 map) map) := by
    induction entries with
    | nil => exact fun _ h => h
    | cons entry rest ih => exact fun map h => ih _ h.set
  exact hfold [] .nil

/-- An entry beyond all others is set at the end. -/
theorem set_of_forall_lt (h : ∀ key ∈ map.names, key < name) :
    set name value map = map ++ [(name, value)] := by
  induction map with
  | nil => rfl
  | cons entry rest ih =>
    obtain ⟨key, old⟩ := entry
    obtain ⟨hkey, hrest⟩ := List.forall_mem_cons.1 h
    rw [set, if_neg (String.lt_asymm hkey), if_neg (String.ne_of_lt hkey).symm, ih hrest,
      List.cons_append]

/-- Entries that come behind those of a map one after the other are set at its end. -/
theorem foldl_set_of_sorted (h : Sorted (map ++ rest)) :
    rest.foldl (fun map entry => set entry.1 entry.2 map) map = map ++ rest := by
  induction rest generalizing map with
  | nil => rw [List.append_nil, List.foldl_nil]
  | cons entry rest ih =>
    have hlast : ∀ key ∈ map.names, key < entry.1 := by
      rw [Sorted, names, List.map_append, List.pairwise_append] at h
      exact fun key hkey => h.2.2 key hkey entry.1 List.mem_cons_self
    rw [List.append_cons] at h
    rw [List.foldl_cons, set_of_forall_lt hlast, ih h, List.append_assoc, List.singleton_append]

/-- Sorted entries are their own map. -/
theorem ofEntries_of_sorted (h : Sorted map) : ofEntries map = map :=
  foldl_set_of_sorted h

/-! ## The order of the entries -/

/-- An entry is set before one of a later name. -/
theorem set_cons_of_lt (h : name < key) (old : α) :
    set name value ((key, old) :: rest) = (name, value) :: (key, old) :: rest := by
  rw [set, if_pos h]

/-- It is set over one of its own name. -/
theorem set_cons_self (old : α) : set name value ((name, old) :: rest) = (name, value) :: rest := by
  rw [set, if_neg (String.lt_irrefl name), if_pos rfl]

/-- It is set behind one of an earlier name. -/
theorem set_cons_of_gt (h : key < name) (old : α) :
    set name value ((key, old) :: rest) = (key, old) :: set name value rest := by
  rw [set, if_neg (String.lt_asymm h), if_neg (String.ne_of_lt h).symm]

/-- Entries of different names are set in either order, the lesser name first. -/
theorem set_comm_of_lt {other : String} (h : name < other) (value value' : α) (map : NameMap α) :
    set name value (set other value' map) = set other value' (set name value map) := by
  induction map with
  | nil => rw [set, set, set_cons_of_lt h, set_cons_of_gt h, set]
  | cons entry rest ih =>
    obtain ⟨key, old⟩ := entry
    -- The later name lies before the first entry, at it, or behind it.
    rcases Std.lt_trichotomy other key with hother | rfl | hother
    · rw [set_cons_of_lt hother, set_cons_of_lt h, set_cons_of_lt (String.lt_trans h hother),
        set_cons_of_gt h, set_cons_of_lt hother]
    · rw [set_cons_self, set_cons_of_lt h, set_cons_of_lt h, set_cons_of_gt h, set_cons_self]
    · -- The later name lies behind the first entry, and the earlier one may lie on either side.
      rw [set_cons_of_gt hother]
      rcases Std.lt_trichotomy name key with hname | rfl | hname
      · rw [set_cons_of_lt hname, set_cons_of_lt hname, set_cons_of_gt h, set_cons_of_gt hother]
      · rw [set_cons_self, set_cons_self, set_cons_of_gt h]
      · rw [set_cons_of_gt hname, set_cons_of_gt hname, set_cons_of_gt hother, ih]

/-- Two entries of different names can be set in either order. -/
theorem set_comm {other : String} (h : name ≠ other) (value value' : α) (map : NameMap α) :
    set name value (set other value' map) = set other value' (set name value map) := by
  rcases Std.lt_trichotomy name other with hbefore | heq | hafter
  · exact set_comm_of_lt hbefore value value' map
  · exact absurd heq h
  · exact (set_comm_of_lt hafter value' value map).symm

/-- Entries of distinct names make the same map in whichever order they come. -/
theorem ofEntries_perm {entries entries' : List (String × α)} (h : entries.Perm entries')
    (hnodup : (names entries).Nodup) : ofEntries entries = ofEntries entries' := by
  refine h.foldl_eq' (fun first hfirst second hsecond map => ?_) []
  by_cases hname : first.1 = second.1
  · rw [List.inj_on_of_nodup_map hnodup hfirst hsecond hname]
  · exact set_comm (Ne.symm hname) second.2 first.2 map

/-! ## The least name -/

/-- The least name of a sorted map is its first one. -/
theorem isLeast_cons_iff (h : Sorted ((key, value) :: rest)) :
    IsLeast name ((key, value) :: rest) ↔ name = key := by
  have hlater : ∀ other ∈ names rest, key < other := (List.pairwise_cons.1 h).1
  constructor
  · rintro ⟨hname, hleast⟩
    rcases List.mem_cons.1 hname with rfl | hname
    · rfl
    · exact absurd (hlater name hname) (hleast key List.mem_cons_self)
  · rintro rfl
    refine ⟨List.mem_cons_self, List.forall_mem_cons.2 ⟨String.le_refl name, ?_⟩⟩
    exact fun other hother => String.lt_asymm (hlater other hother)

/-- An empty map has no least name. -/
theorem not_isLeast_nil : ¬IsLeast name ([] : NameMap α) :=
  fun h => List.not_mem_nil h.1

end SqlTemplate.NameMap
