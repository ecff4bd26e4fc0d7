import SqlTemplate.Value

/-!
# Equality of values without decimals

Decimals are compared as floating-point numbers, so that two decimals may be the same without being
equal. Values that hold no decimal at any depth are the same only if they are equal
(`Value.eq_of_same`).
-/

namespace SqlTemplate.Value

mutual

/-- The value holds no decimal, at any depth. -/
def decimalFree : Value → Bool
  | decimal _ => false
  | list items => decimalFreeItems items
  | object properties => decimalFreeProperties properties
  | _ => true

/-- The items hold no decimal. -/
def decimalFreeItems : List Value → Bool
  | [] => true
  | v :: rest => v.decimalFree && decimalFreeItems rest

/-- The values of the properties hold no decimal. -/
def decimalFreeProperties : List (String × Value) → Bool
  | [] => true
  | (_, v) :: rest => v.decimalFree && decimalFreeProperties rest

end

mutual

/-- A value without decimals is the same as equal values only. -/
theorem eq_of_same : (v w : Value) → v.decimalFree = true → v.same w = true → v = w
  | null, w, _, h => by
    cases w <;> first | rfl | exact absurd h Bool.false_ne_true
  | bool a, w, _, h => by
    cases w with
    | bool b => rw [eq_of_beq (show (a == b) = true from h)]
    | _ => exact absurd h Bool.false_ne_true
  | integer a, w, _, h => by
    cases w with
    | integer b => rw [eq_of_beq (show (a == b) = true from h)]
    | _ => exact absurd h Bool.false_ne_true
  | decimal _, _, hfree, _ => absurd hfree Bool.false_ne_true
  | string a, w, _, h => by
    cases w with
    | string b => rw [eq_of_beq (show (a == b) = true from h)]
    | _ => exact absurd h Bool.false_ne_true
  | date a, w, _, h => by
    cases w with
    | date b => rw [eq_of_beq (show (a == b) = true from h)]
    | _ => exact absurd h Bool.false_ne_true
  | timestamp a, w, _, h => by
    cases w with
    | timestamp b => rw [eq_of_beq (show (a == b) = true from h)]
    | _ => exact absurd h Bool.false_ne_true
  | list items, w, hfree, h => by
    cases w with
    | list others => rw [eq_of_sameItems items others hfree h]
    | _ => exact absurd h Bool.false_ne_true
  | object properties, w, hfree, h => by
    cases w with
    | object others => rw [eq_of_sameProperties properties others hfree h]
    | _ => exact absurd h Bool.false_ne_true

/-- So are lists of such values. -/
theorem eq_of_sameItems : (vs ws : List Value) → decimalFreeItems vs = true →
    sameItems vs ws = true → vs = ws
  | [], [], _, _ => rfl
  | [], _ :: _, _, h => absurd h Bool.false_ne_true
  | _ :: _, [], _, h => absurd h Bool.false_ne_true
  | v :: vs, w :: ws, hfree, h => by
    obtain ⟨hv, hvs⟩ := Bool.and_eq_true_iff.1 hfree
    obtain ⟨hfirst, hrest⟩ := Bool.and_eq_true_iff.1 h
    rw [eq_of_same v w hv hfirst, eq_of_sameItems vs ws hvs hrest]

/-- So are properties with such values. -/
theorem eq_of_sameProperties : (vs ws : List (String × Value)) → decimalFreeProperties vs = true →
    sameProperties vs ws = true → vs = ws
  | [], [], _, _ => rfl
  | [], _ :: _, _, h => absurd h Bool.false_ne_true
  | _ :: _, [], _, h => absurd h Bool.false_ne_true
  | (name, v) :: vs, (other, w) :: ws, hfree, h => by
    obtain ⟨hv, hvs⟩ := Bool.and_eq_true_iff.1 hfree
    obtain ⟨hentry, hrest⟩ := Bool.and_eq_true_iff.1 h
    obtain ⟨hname, hfirst⟩ := Bool.and_eq_true_iff.1 hentry
    rw [eq_of_beq hname, eq_of_same v w hv hfirst, eq_of_sameProperties vs ws hvs hrest]

end

end SqlTemplate.Value
