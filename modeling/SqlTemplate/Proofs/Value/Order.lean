import SqlTemplate.Condition.Compare

/-!
# The order of values

The order of two values, if they have one, is the opposite one from the other side
(`Value.order?_swap`), and whether they are the same does not depend on the side
(`Value.same_comm`). Decimals are compared as floating-point numbers are
(`Value.compareFloats_eq`): the two zeros agree, and "not a number" has no order with anything,
itself included.
-/

namespace SqlTemplate

/-! ## Dates -/

/-- Exchanged dates compare the other way round. -/
theorem Date.compare_swap (a b : Date) : b.compare a = (a.compare b).swap := by
  simp only [Date.compare, Ordering.swap_then, ← Std.OrientedOrd.eq_swap]

/-- Exchanged timestamps compare the other way round. -/
theorem Timestamp.compare_swap (a b : Timestamp) : b.compare a = (a.compare b).swap := by
  simp only [Timestamp.compare, Ordering.swap_then, ← Std.OrientedOrd.eq_swap, ← Date.compare_swap]

namespace Value

/-! ## Decimals -/

section Decimals

open Float.Model (UnpackedFloat)

/-- The order of floating-point numbers is the opposite one from the other side. -/
theorem compare_unpacked_swap (x y : UnpackedFloat) :
    y.compare x = (x.compare y).map Ordering.swap := by
  match x, y with
  | .finite s m e _, .finite t m' e' _ =>
    -- Numbers of one sign are compared by exponent and mantissa.
    have hsize : (compare e' e).then (compare m' m) =
        ((compare e e').then (compare m m')).swap := by
      rw [Ordering.swap_then, ← Std.OrientedOrd.eq_swap, ← Std.OrientedOrd.eq_swap]
    cases s with
    | negative =>
      cases t with
      | negative => exact congrArg (fun o => some o.swap) hsize
      | positive => rfl
    | positive =>
      cases t with
      | negative => rfl
      | positive => exact congrArg some hsize
  | .infinity s, .infinity t | .infinity s, .finite t _ _ _ | .finite s _ _ _, .infinity t =>
    cases s <;> cases t <;> rfl
  | .infinity s, .zero _ | .zero _, .infinity s | .finite s _ _ _, .zero _
  | .zero _, .finite s _ _ _ | .infinity s, .notANumber | .finite s _ _ _, .notANumber =>
    cases s <;> rfl
  | .zero _, .zero _ | .zero _, .notANumber => rfl
  | .notANumber, y => cases y <;> rfl

/-- Decimals are in the order of floating-point numbers. -/
theorem compareFloats_eq (x y : Float) : compareFloats x y = x.toModel.compare y.toModel := by
  have hlt (x y : Float) : x < y ↔ x.toModel.compare y.toModel = some .lt :=
    decide_eq_true_iff.trans (beq_iff_eq (a := x.toModel.compare y.toModel))
  have heq (x y : Float) : (x == y) = true ↔ x.toModel.compare y.toModel = some .eq :=
    beq_iff_eq (a := x.toModel.compare y.toModel)
  have hswap : y.toModel.compare x.toModel = (x.toModel.compare y.toModel).map Ordering.swap :=
    compare_unpacked_swap _ _
  simp only [compareFloats, hlt, heq, hswap]
  rcases x.toModel.compare y.toModel with _ | _ | _ | _ <;> rfl

/-- Exchanged decimals compare the other way round. -/
theorem compareFloats_swap (x y : Float) :
    compareFloats y x = (compareFloats x y).map Ordering.swap := by
  rw [compareFloats_eq, compareFloats_eq]
  exact compare_unpacked_swap _ _

/-- Decimals are equal in either order. -/
theorem beq_float_comm (x y : Float) : (x == y) = (y == x) := by
  have hcompare : y.toModel.compare x.toModel = (x.toModel.compare y.toModel).map Ordering.swap :=
    compare_unpacked_swap _ _
  show (x.toModel.compare y.toModel == some .eq) = (y.toModel.compare x.toModel == some .eq)
  rw [hcompare]
  rcases x.toModel.compare y.toModel with _ | _ | _ | _ <;> rfl

end Decimals

/-! ## Values -/

/-- The order of two values is the opposite one from the other side, if they have one. -/
theorem order?_swap (a b : Value) : b.order? a = (a.order? b).map Ordering.swap := by
  cases a <;> cases b <;>
    simp only [order?, Option.map_some, Option.map_none, ← Std.OrientedOrd.eq_swap,
      ← Date.compare_swap, ← Timestamp.compare_swap, ← compareFloats_swap]

mutual

/-- Two values are the same from both sides. -/
theorem same_comm : (a b : Value) → a.same b = b.same a
  | null, b => by
    cases b <;> rfl
  | bool a, b => by
    cases b with
    | bool b => exact BEq.comm
    | _ => rfl
  | integer a, b => by
    cases b with
    | integer b => exact BEq.comm
    | _ => rfl
  | decimal x, b => by
    cases b with
    | decimal y => exact beq_float_comm x y
    | _ => rfl
  | string a, b => by
    cases b with
    | string b => exact BEq.comm
    | _ => rfl
  | date a, b => by
    cases b with
    | date b => exact BEq.comm
    | _ => rfl
  | timestamp a, b => by
    cases b with
    | timestamp b => exact BEq.comm
    | _ => rfl
  | list items, b => by
    cases b with
    | list others => exact sameItems_comm items others
    | _ => rfl
  | object properties, b => by
    cases b with
    | object others => exact sameProperties_comm properties others
    | _ => rfl

/-- So are lists. -/
theorem sameItems_comm : (as bs : List Value) → sameItems as bs = sameItems bs as
  | [], [] | [], _ :: _ | _ :: _, [] => rfl
  | a :: as, b :: bs => by rw [sameItems, sameItems, same_comm a b, sameItems_comm as bs]

/-- So are the properties of objects. -/
theorem sameProperties_comm : (as bs : List (String × Value)) →
    sameProperties as bs = sameProperties bs as
  | [], [] | [], _ :: _ | _ :: _, [] => rfl
  | (name, a) :: as, (other, b) :: bs => by
    rw [sameProperties, sameProperties, same_comm a b, sameProperties_comm as bs,
      BEq.comm (a := name)]

end

end Value

end SqlTemplate
