import SqlTemplate.Condition.Holds
import SqlTemplate.Proofs.Outcome
import SqlTemplate.Proofs.Value.Order

/-!
# Comparisons that agree with each other

Two values are compared in one of three ways: a null decides (`CompareOp.apply_of_null`), the order
of the values does (`CompareOp.apply_of_order`), or it can only be asked whether they are the same
(`CompareOp.apply_of_unordered`). The law of each way makes the laws of comparisons.

A literal takes its value from the other side of the comparison, and that side may be the left one
or the right one. What one side comes to beside the other (`Scope.sideValue`) does not depend on
which of them is on the left (`Scope.operandValues_eq_ok_iff`), and a literal is not read as null
unless it is null (`Scope.isNull_sideValue`). So `Scope.compared?_coherent` is about all operands.
-/

namespace SqlTemplate

namespace CompareOp

/-- The comparison with its sides exchanged. -/
def mirror : CompareOp → CompareOp
  | lt => gt
  | le => ge
  | gt => lt
  | ge => le
  | op => op

/-- The mirrored operator holds with the operands exchanged. -/
theorem holds_mirror (op : CompareOp) (o : Ordering) : op.mirror.holds o.swap = op.holds o := by
  cases op <;> cases o <;> rfl

/-- At most is not greater. -/
theorem holds_le (o : Ordering) : le.holds o = !gt.holds o := rfl

/-- At least is not less. -/
theorem holds_ge (o : Ordering) : ge.holds o = !lt.holds o := rfl

/-- Values in order are in exactly one of three orders. -/
theorem existsUnique_holds (o : Ordering) : ∃! op, op ∈ [lt, eq, gt] ∧ op.holds o = true := by
  cases o with
  | lt => exact ⟨lt, by decide, fun op h => by cases op <;> revert h <;> decide⟩
  | eq => exact ⟨eq, by decide, fun op h => by cases op <;> revert h <;> decide⟩
  | gt => exact ⟨gt, by decide, fun op h => by cases op <;> revert h <;> decide⟩

/-- Where an operand is null, the mirrored operator holds as the operator itself does. -/
theorem holdsWithNull_mirror (op : CompareOp) (bothNull : Bool) :
    op.mirror.holdsWithNull bothNull = op.holdsWithNull bothNull := by
  cases op <;> rfl

/-- Where the operands have no order, the mirrored operator holds with them exchanged. -/
theorem holdsUnordered?_mirror (op : CompareOp) (a b : Value) :
    op.mirror.holdsUnordered? b a = op.holdsUnordered? a b := by
  unfold holdsUnordered?
  rw [Value.same_comm]
  cases a <;> cases b <;> cases op <;> rfl

variable {a b : Value}

/-- A null decides every comparison. -/
theorem apply_of_null (h : (a.isNull || b.isNull) = true) (op : CompareOp) :
    op.apply a b = .ok (op.holdsWithNull (a.isNull && b.isNull)) :=
  if_pos h

/-- Without a null the order of the values decides, if they have one. -/
theorem apply_of_order (h : (a.isNull || b.isNull) = false) {o : Ordering}
    (horder : a.order? b = some o) (op : CompareOp) : op.apply a b = .ok (op.holds o) := by
  simp [apply, h, horder]

/-- Otherwise only sameness can be asked for. -/
theorem apply_of_unordered (h : (a.isNull || b.isNull) = false) (horder : a.order? b = none)
    (op : CompareOp) : (op.apply a b).toOption = op.holdsUnordered? a b := by
  simp only [apply, h, horder, Bool.false_eq_true, if_false]
  cases op.holdsUnordered? a b <;> rfl

/-- Exchanging the sides makes no difference. -/
theorem apply_mirror (op : CompareOp) (a b : Value) :
    (op.mirror.apply b a).toOption = (op.apply a b).toOption := by
  -- Whether an operand is null, or the two have an order, does not depend on their sides.
  cases hnull : a.isNull || b.isNull with
  | true =>
    have hnull' : (b.isNull || a.isNull) = true := by rw [Bool.or_comm, hnull]
    rw [apply_of_null hnull, apply_of_null hnull', holdsWithNull_mirror, Bool.and_comm]
  | false =>
    have hnull' : (b.isNull || a.isNull) = false := by rw [Bool.or_comm, hnull]
    have hswap := Value.order?_swap a b
    cases horder : a.order? b with
    | some o =>
      rw [horder] at hswap
      rw [apply_of_order hnull horder, apply_of_order hnull' hswap, holds_mirror]
    | none =>
      rw [horder] at hswap
      rw [apply_of_unordered hnull horder, apply_of_unordered hnull' hswap, holdsUnordered?_mirror]

/-- Being different is the denial of being equal. -/
theorem apply_ne (a b : Value) : (ne.apply a b).toOption = (eq.apply a b).toOption.map not := by
  cases hnull : a.isNull || b.isNull with
  | true =>
    rw [apply_of_null hnull, apply_of_null hnull]
    rfl
  | false =>
    cases horder : a.order? b with
    | some o =>
      rw [apply_of_order hnull horder, apply_of_order hnull horder]
      rfl
    | none =>
      rw [apply_of_unordered hnull horder, apply_of_unordered hnull horder]
      unfold holdsUnordered?
      cases a <;> cases b <;> rfl

/-- Two values have an order if it can be said whether one is less than the other. -/
theorem exists_order_of_isSome_lt (hnull : (a.isNull || b.isNull) = false)
    (h : (lt.apply a b).toOption.isSome = true) : ∃ o, a.order? b = some o := by
  cases horder : a.order? b with
  | some o => exact ⟨o, rfl⟩
  | none =>
    rw [apply_of_unordered hnull horder] at h
    exact absurd h Bool.false_ne_true

end CompareOp

/-! ## Operands -/

namespace Literal

/-- A number that is spelled is not null. -/
theorem isNull_of_numberValue? {text : String} {v : Value} (h : numberValue? text = some v) :
    v.isNull = false := by
  unfold numberValue? at h
  split at h
  · rw [← Option.some.inj h]
    rfl
  · obtain ⟨x, -, rfl⟩ := Option.map_eq_some_iff.1 h
    rfl

/-- Only the null literal has the value null. -/
theorem isNull_value {l : Literal} {v : Value} (h : l.value = .ok v) :
    v.isNull = true ↔ l = .null := by
  cases l with
  | number text =>
    cases hvalue : numberValue? text with
    | none => simp [value, hvalue] at h
    | some w =>
      simp only [value, hvalue, Except.ok.injEq] at h
      rw [← h, isNull_of_numberValue? hvalue]
      exact iff_of_false Bool.false_ne_true nofun
  | _ =>
    obtain rfl := Except.ok.inj h
    simp [Value.isNull]

/-- Of the literals only null has the value null. -/
theorem value_eq_null_iff (l : Literal) : l.value = .ok .null ↔ l = .null := by
  constructor
  · exact fun h => (isNull_value h).1 rfl
  · rintro rfl
    rfl

/-- What a string literal is read as is not null. -/
theorem isNull_of_reading? {s : String} {target v : Value} (h : reading? s target = some (some v)) :
    v.isNull = false := by
  cases target with
  | integer | decimal => exact isNull_of_numberValue? (Option.some.inj h)
  | date | timestamp | bool =>
    obtain ⟨_, -, rfl⟩ := Option.map_eq_some_iff.1 (Option.some.inj h)
    rfl
  | _ => exact absurd h nofun

/-- A literal is null only if it is the null literal, whatever it is compared with. -/
theorem isNull_valueFor {l : Literal} {target v : Value} (h : l.valueFor target = .ok v) :
    v.isNull = true ↔ l = .null := by
  unfold valueFor at h
  split at h
  · obtain rfl := Except.ok.inj h
    exact iff_of_false Bool.false_ne_true nofun
  · split at h
    · next w hreading =>
      obtain rfl := Except.ok.inj h
      rw [isNull_of_reading? hreading]
      exact iff_of_false Bool.false_ne_true nofun
    · exact nomatch h
    · exact isNull_value h
  · exact isNull_value h

end Literal

namespace Scope

/-- The value of one side of a comparison, where `v` is the value of the other side. -/
def sideValue (s : Scope) (side other : Operand) (v : Value) : Except ConditionError Value :=
  match side, other with
  | .literal l, .literal _ => l.value
  | .literal l, _ => l.valueFor v
  | side, _ => s.operandValue side

/-- The truth value of a comparison, if it has one. -/
def compared? (s : Scope) (left : Operand) (op : CompareOp) (right : Operand) : Option Bool :=
  (s.holds (.compare left op right)).toOption

variable {s : Scope} {a b : Operand} {l r : Value}

/-- The values of two sides are those that each has beside the other. -/
theorem operandValues_eq_ok_iff :
    s.operandValues a b = .ok (l, r) ↔ s.sideValue a b r = .ok l ∧ s.sideValue b a l = .ok r := by
  have hpair (x y : Except ConditionError Value) :
      (do return (← x, ← y) : Except ConditionError _) = .ok (l, r) ↔ x = .ok l ∧ y = .ok r :=
    Outcome.pair_eq_ok Prod.mk.inj
  -- A literal is read once the value of the other side is known.
  have hleft (x : Except ConditionError Value) (f : Value → Except ConditionError Value) :
      (do let r ← x; return (← f r, r) : Except ConditionError _) = .ok (l, r) ↔
        f r = .ok l ∧ x = .ok r := by
    simp [Outcome.bind_eq_ok, pure, Except.pure, and_comm]
  have hright (x : Except ConditionError Value) (f : Value → Except ConditionError Value) :
      (do let l ← x; return (l, ← f l) : Except ConditionError _) = .ok (l, r) ↔
        x = .ok l ∧ f l = .ok r := by
    simp [Outcome.bind_eq_ok, pure, Except.pure]
  cases a <;> cases b <;> simp only [operandValues, sideValue, hpair, hleft, hright]

/-- A side that is compared is null exactly if it is so by itself. -/
theorem isNull_sideValue (h : s.sideValue a b r = .ok l) :
    l.isNull = true ↔ s.operandValue a = .ok .null := by
  have hself {a : Operand} (h : s.operandValue a = .ok l) :
      l.isNull = true ↔ s.operandValue a = .ok .null := by
    rw [h]
    cases l <;> simp [Value.isNull]
  cases a with
  | literal literal =>
    cases b with
    | literal => exact hself h
    | _ => exact (Literal.isNull_valueFor h).trans literal.value_eq_null_iff.symm
  | _ => exact hself h

/-- A comparison has the truth value that it has of the values of its sides. -/
theorem compared?_eq (s : Scope) (a : Operand) (op : CompareOp) (b : Operand) :
    s.compared? a op b =
      (s.operandValues a b).toOption.bind fun (l, r) => (op.apply l r).toOption := by
  rw [compared?, holds]
  cases s.operandValues a b <;> rfl

/-- Exchanging the sides of a comparison makes no difference. -/
theorem compared?_mirror (s : Scope) (a : Operand) (op : CompareOp) (b : Operand) :
    s.compared? b op.mirror a = s.compared? a op b := by
  have hswap (l r : Value) :
      s.operandValues b a = .ok (r, l) ↔ s.operandValues a b = .ok (l, r) := by
    rw [operandValues_eq_ok_iff, operandValues_eq_ok_iff, and_comm]
  rw [compared?_eq, compared?_eq]
  -- The operands are looked up in another order, but a fault remains a fault.
  cases hleft : s.operandValues a b with
  | ok values =>
    rw [(hswap values.1 values.2).2 hleft]
    exact op.apply_mirror values.1 values.2
  | error e =>
    cases hright : s.operandValues b a with
    | ok values =>
      rw [(hswap values.2 values.1).1 hright] at hleft
      exact nomatch hleft
    | error e => rfl

/-- Being different is the denial of being equal. -/
theorem compared?_ne (s : Scope) (a b : Operand) :
    s.compared? a .ne b = (s.compared? a .eq b).map not := by
  rw [compared?_eq, compared?_eq]
  cases (s.operandValues a b).toOption with
  | none => rfl
  | some values => exact CompareOp.apply_ne values.1 values.2

/-- The sides of a comparison with a truth value have values, and all comparisons of the sides are
comparisons of these. -/
theorem exists_of_isSome_compared? {op : CompareOp} (h : (s.compared? a op b).isSome = true) :
    ∃ l r, (∀ op, s.compared? a op b = (op.apply l r).toOption) ∧
      (l.isNull = true ↔ s.operandValue a = .ok .null) ∧
      (r.isNull = true ↔ s.operandValue b = .ok .null) := by
  rw [compared?_eq] at h
  cases hvalues : s.operandValues a b with
  | error e =>
    rw [hvalues] at h
    exact absurd h Bool.false_ne_true
  | ok values =>
    obtain ⟨hleft, hright⟩ := operandValues_eq_ok_iff.1 hvalues
    refine ⟨values.1, values.2, fun op => ?_, isNull_sideValue hleft, isNull_sideValue hright⟩
    rw [compared?_eq, hvalues]
    rfl

/-- Sides that are not null have an order if it can be said whether one is less than the other. -/
theorem compared?_of_order (ha : s.operandValue a ≠ .ok .null) (hb : s.operandValue b ≠ .ok .null)
    (h : (s.compared? a .lt b).isSome = true) :
    ∃ o, ∀ op, s.compared? a op b = some (op.holds o) := by
  obtain ⟨l, r, hall, hl, hr⟩ := exists_of_isSome_compared? h
  have hnull : (l.isNull || r.isNull) = false := by
    rw [Bool.or_eq_false_iff]
    exact ⟨eq_false_of_ne_true (mt hl.1 ha), eq_false_of_ne_true (mt hr.1 hb)⟩
  obtain ⟨o, horder⟩ := CompareOp.exists_order_of_isSome_lt hnull (hall .lt ▸ h)
  refine ⟨o, fun op => ?_⟩
  rw [hall, CompareOp.apply_of_order hnull horder]
  rfl

/-- A side that is null decides every comparison. -/
theorem compared?_of_null {op : CompareOp}
    (hnull : s.operandValue a = .ok .null ∨ s.operandValue b = .ok .null)
    (h : (s.compared? a op b).isSome = true) :
    ∃ both, (both = true ↔ s.operandValue a = .ok .null ∧ s.operandValue b = .ok .null) ∧
      ∀ op, s.compared? a op b = some (op.holdsWithNull both) := by
  obtain ⟨l, r, hall, hl, hr⟩ := exists_of_isSome_compared? h
  have hnull' : (l.isNull || r.isNull) = true := by
    rw [Bool.or_eq_true, hl, hr]
    exact hnull
  refine ⟨l.isNull && r.isNull, ?_, fun op => ?_⟩
  · rw [Bool.and_eq_true, hl, hr]
  · rw [hall, CompareOp.apply_of_null hnull']
    rfl

/-- The comparisons of two sides agree with each other: those with the sides exchanged; being equal
and being different; and where it can be said whether one side is less than the other, the orders,
of which exactly one holds. A side that is null is equal to one that is null only, and no order
holds of it. -/
theorem compared?_coherent (s : Scope) (a b : Operand) :
    (∀ op, s.compared? a op b = s.compared? b op.mirror a) ∧
    s.compared? a .ne b = (s.compared? a .eq b).map not ∧
    (s.operandValue a ≠ .ok .null → s.operandValue b ≠ .ok .null →
      (s.compared? a .lt b).isSome = true →
        (∃! op, op ∈ [.lt, .eq, .gt] ∧ s.compared? a op b = some true) ∧
        (∀ op, (s.compared? a op b).isSome = true) ∧
        s.compared? a .le b = (s.compared? a .gt b).map not ∧
        s.compared? a .ge b = (s.compared? a .lt b).map not) ∧
    (s.operandValue a = .ok .null ∨ s.operandValue b = .ok .null →
      ∀ op, (s.compared? a op b).isSome = true →
        (∀ op ∈ [.lt, .le, .gt, .ge], s.compared? a op b = some false) ∧
        ∃ both, s.compared? a .eq b = some both ∧
          (both = true ↔ s.operandValue a = .ok .null ∧ s.operandValue b = .ok .null)) := by
  refine ⟨fun op => (s.compared?_mirror a op b).symm, s.compared?_ne a b, fun ha hb h => ?_,
    fun hnull op h => ?_⟩
  · obtain ⟨o, hall⟩ := compared?_of_order ha hb h
    simp only [hall, Option.some.injEq, Option.map_some, CompareOp.holds_le, CompareOp.holds_ge]
    exact ⟨CompareOp.existsUnique_holds o, fun _ => rfl, trivial, trivial⟩
  · obtain ⟨both, hboth, hall⟩ := compared?_of_null hnull h
    simp only [hall]
    exact ⟨by cases both <;> decide, both, rfl, hboth⟩

/-- A number beside a text that is read as a number, and null beside the text. -/
theorem compared?_coherent_read :
    let s : Scope := ⟨"pmb", { properties := [("missing", .null), ("n", .integer 5)] }, []⟩
    let n : Operand := .path ⟨"n", []⟩
    let missing : Operand := .path ⟨"missing", []⟩
    let seven : Operand := .literal (.string " 7")
    s.compared? n .lt seven = some true ∧ s.compared? seven .gt n = some true ∧
    (∃! op, op ∈ [.lt, .eq, .gt] ∧ s.compared? n op seven = some true) ∧
    s.compared? missing .le seven = some false ∧ s.compared? missing .ne seven = some true := by
  intro s n missing seven
  obtain ⟨hmirror, -, horder, -⟩ := compared?_coherent s n seven
  obtain ⟨-, hne, -, hnull⟩ := compared?_coherent s missing seven
  have hless : s.compared? n .lt seven = some true := by decide
  have htruth : (s.compared? n .lt seven).isSome = true := by
    rw [hless]
    rfl
  -- The number is less than the one that the text spells, and null is no number.
  refine ⟨hless, (hmirror .lt).symm.trans hless, (horder nofun nofun htruth).1, ?_, ?_⟩
  · exact (hnull (.inl rfl) .eq rfl).1 .le (by decide)
  · exact hne.trans rfl

end Scope

end SqlTemplate
