import Mathlib.Tactic.SplitIfs
import SqlTemplate.Proofs.Outcome
import SqlTemplate.Proofs.Render.FaultKind
import SqlTemplate.Scope

/-!
# Values of one shape

Two values are alike if they have the same shape: null where the other is null, lists of the same
length, objects with the same names, and scalars of whatever type and content in the same places.
Alike scopes resolve a path to alike values or both fail for the same kind of reason
(`Scope.Alike.resolve`).
-/

namespace SqlTemplate

open Outcome (rel_cases)

namespace Value

/-- The value is neither null nor a list nor an object. -/
def isScalar (v : Value) : Bool :=
  !v.isNull && !v.isCompound

/-- The two values have the same shape. -/
inductive Alike : Value → Value → Prop
  /-- Null is alike to itself only. -/
  | null : Alike null null
  /-- Any two scalars are alike. -/
  | scalar {v w : Value} (hv : v.isScalar = true) (hw : w.isScalar = true) : Alike v w
  /-- Lists of alike elements. -/
  | list {vs ws : List Value} (h : List.Forall₂ Alike vs ws) : Alike (list vs) (list ws)
  /-- Objects with the same names and alike values. -/
  | object {vs ws : List (String × Value)} (hnames : vs.map Prod.fst = ws.map Prod.fst)
      (h : List.Forall₂ Alike (vs.map Prod.snd) (ws.map Prod.snd)) : Alike (object vs) (object ws)

/-- A scalar is not null. -/
theorem isNull_of_isScalar {v : Value} (h : v.isScalar = true) : v.isNull = false := by
  cases v <;> first | rfl | simp [isScalar, isNull] at h

/-- A scalar is no list and no object. -/
theorem isCompound_of_isScalar {v : Value} (h : v.isScalar = true) : v.isCompound = false := by
  cases v <;> first | rfl | simp [isScalar, isCompound] at h

/-- A scalar has no properties. -/
theorem property?_of_isScalar {v : Value} (h : v.isScalar = true) (name : String) :
    v.property? name = none := by
  cases v <;> first | rfl | simp [isScalar, isCompound] at h

/-- Objects with the same names and alike values have alike properties. -/
theorem alike_get? {vs ws : Properties} (hnames : vs.map Prod.fst = ws.map Prod.fst)
    (h : List.Forall₂ Alike (vs.map Prod.snd) (ws.map Prod.snd)) (name : String) :
    Option.Rel Alike (NameMap.get? name vs) (NameMap.get? name ws) := by
  -- The names are compared in the same order in both maps.
  induction vs generalizing ws with
  | nil =>
    obtain rfl : ws = [] := List.map_eq_nil_iff.1 hnames.symm
    exact .none
  | cons entry rest ih =>
    cases ws with
    | nil => simp at hnames
    | cons entry' rest' =>
      obtain ⟨hname, hrest⟩ := List.cons.inj hnames
      cases h with
      | cons hvalue hvalues =>
        rw [NameMap.get?, NameMap.get?, ← show entry.1 = entry'.1 from hname]
        split_ifs
        · exact .some hvalue
        · exact ih hrest hvalues

namespace Alike

variable {v w : Value}

/-- Of two values that are alike none is null unless both are. -/
theorem isNull_eq (h : v.Alike w) : v.isNull = w.isNull := by
  cases h with
  | scalar hv hw => rw [isNull_of_isScalar hv, isNull_of_isScalar hw]
  | _ => rfl

/-- And none is a list or an object unless both are. -/
theorem isCompound_eq (h : v.Alike w) : v.isCompound = w.isCompound := by
  cases h with
  | scalar hv hw => rw [isCompound_of_isScalar hv, isCompound_of_isScalar hw]
  | _ => rfl

/-- Alike values have alike properties. -/
theorem property? (h : v.Alike w) (name : String) :
    Option.Rel Alike (v.property? name) (w.property? name) := by
  cases h with
  | null => exact .none
  | scalar hv hw =>
    rw [property?_of_isScalar hv, property?_of_isScalar hw]
    exact .none
  | list h => exact .none
  | object hnames h => exact alike_get? hnames h name

end Alike

end Value

/-- The two parameter objects have the same shape. The names of their types may differ. -/
def Parameters.Alike (p q : Parameters) : Prop :=
  (Value.object p.properties).Alike (Value.object q.properties)

/-- Parameter objects that are alike have properties that are alike. -/
theorem Parameters.Alike.get? {p q : Parameters} (h : p.Alike q) (name : String) :
    Option.Rel Value.Alike (p.get? name) (q.get? name) :=
  Value.Alike.property? h name

/-- The two rounds have the same place in loops over lists of the same length. -/
structure LoopFrame.Alike (f g : LoopFrame) : Prop where
  /-- Their elements have the same shape. -/
  element : f.element.Alike g.element
  /-- They are at the same position. -/
  index : f.index = g.index
  /-- The lists have the same length. -/
  length : f.length = g.length

namespace LoopFrame

variable {f g : LoopFrame}

/-- Frames that are alike are of the first round together. -/
theorem Alike.isFirst_eq (h : f.Alike g) : f.isFirst = g.isFirst := by
  rw [isFirst, isFirst, h.index]

/-- And of the last one. -/
theorem Alike.isLast_eq (h : f.Alike g) : f.isLast = g.isLast := by
  rw [isLast, isLast, h.index, h.length]

/-- Lists of alike elements have alike rounds. -/
theorem alike_ofItems {vs ws : List Value} (h : List.Forall₂ Value.Alike vs ws) :
    List.Forall₂ Alike (ofItems vs) (ofItems ws) := by
  have hlength := h.length_eq
  -- The positions are counted from any number on, so that the rest of a list is a case, too.
  have hfrom : ∀ {vs' ws' : List Value} (index : Nat), List.Forall₂ Value.Alike vs' ws' →
      List.Forall₂ Alike
        ((vs'.zipIdx index).map fun entry => ⟨entry.1, entry.2, vs.length⟩)
        ((ws'.zipIdx index).map fun entry => ⟨entry.1, entry.2, ws.length⟩) := by
    intro vs' ws' index h'
    induction h' generalizing index with
    | nil => exact .nil
    | cons hhead _ ih => exact .cons ⟨hhead, rfl, hlength⟩ (ih (index + 1))
  exact hfrom 0 h

end LoopFrame

namespace Scope

/-- The two scopes have the same shape. -/
structure Alike (s t : Scope) : Prop where
  /-- The parameter object is reached under the same alias. -/
  rootAlias : s.rootAlias = t.rootAlias
  /-- The parameter objects have the same shape. -/
  parameters : s.parameters.Alike t.parameters
  /-- So have the rounds of the open loops. -/
  loops : List.Forall₂ LoopFrame.Alike s.loops t.loops

/-- Going down from alike values finds alike values. -/
theorem alike_descend? {v w : Value} (h : v.Alike w) (segments : List String) :
    Option.Rel Value.Alike (descend? v segments) (descend? w segments) := by
  induction segments generalizing v w with
  | nil => exact .some h
  | cons segment rest ih =>
    rw [descend?, descend?, h.isNull_eq]
    split_ifs with hnull
    · exact .some .null
    · rcases rel_cases (h.property? segment) with ⟨hv, hw⟩ | ⟨_, _, hv, hw, hchild⟩
      · rw [hv, hw]
        exact .none
      · rw [hv, hw]
        exact ih hchild

/-- What lies below alike starts is alike, or there is nothing below either. -/
theorem alike_below {start start' : Option Value} (h : Option.Rel Value.Alike start start')
    (segments : List String) :
    Option.Rel Value.Alike (start.bind fun v => descend? v segments)
      (start'.bind fun v => descend? v segments) := by
  cases h with
  | none => exact .none
  | some hvalue => exact alike_descend? hvalue segments

namespace Alike

variable {s t : Scope}

/-- The innermost rounds of alike scopes are alike. -/
theorem current? (h : s.Alike t) : Option.Rel LoopFrame.Alike s.current? t.current? :=
  Outcome.rel_head? h.loops

/-- What is asked of the innermost round has the same answer in alike scopes. -/
theorem any_current? (h : s.Alike t) {test : LoopFrame → Bool}
    (htest : ∀ {f g : LoopFrame}, f.Alike g → test f = test g) :
    s.current?.any test = t.current?.any test := by
  rcases rel_cases h.current? with ⟨hs, ht⟩ | ⟨_, _, hs, ht, hframe⟩
  · rw [hs, ht]
  · rw [hs, ht]
    exact htest hframe

/-- A root stands for alike values in alike scopes. -/
theorem rootValue? (h : s.Alike t) (root : String) :
    Option.Rel Value.Alike (s.rootValue? root) (t.rootValue? root) := by
  unfold Scope.rootValue?
  split_ifs
  · rcases rel_cases h.current? with ⟨hs, ht⟩ | ⟨_, _, hs, ht, hframe⟩
    · rw [hs, ht]
      exact .none
    · rw [hs, ht]
      exact .some hframe.element
  · exact h.parameters.get? root

/-- A path leads to alike values in alike scopes, or nowhere in both. -/
theorem resolve (h : s.Alike t) (path : Path) :
    Outcome.Agree ConditionError.kind Value.Alike (s.resolve path) (t.resolve path) := by
  -- Both runs take the same way into the path, since the alias is the same.
  unfold Scope.resolve
  rw [← h.rootAlias]
  dsimp only
  split_ifs with halias
  · split
    · exact .error rfl
    · next segment rest _ =>
      rcases rel_cases (alike_below (h.parameters.get? segment) rest) with
        ⟨hs, ht⟩ | ⟨_, _, hs, ht, hfound⟩
      · rw [hs, ht]
        exact .error rfl
      · rw [hs, ht]
        exact .ok hfound
  · rcases rel_cases (alike_below (h.rootValue? path.root) path.below) with
      ⟨hs, ht⟩ | ⟨_, _, hs, ht, hfound⟩
    · rw [hs, ht]
      exact .error rfl
    · rw [hs, ht]
      exact .ok hfound

/-- Alike rounds make alike scopes. -/
theorem enter (h : s.Alike t) {f g : LoopFrame} (hframe : f.Alike g) :
    (s.enter f).Alike (t.enter g) :=
  ⟨h.rootAlias, h.parameters, .cons hframe h.loops⟩

end Alike

end Scope

end SqlTemplate
