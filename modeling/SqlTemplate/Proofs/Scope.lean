import Mathlib.Tactic.SplitIfs
import SqlTemplate.Scope

/-!
# Where a path leads

A path starts at a property of the parameter object or at the element of an open loop and goes down
from there, and null ends its way. So what holds of null and of every start, and is kept on the way
down, holds of the value that the path leads to (`Scope.resolve_induction`).

`Value.Contains` says that a value is a part of another one, at any depth. In a scope within a value
every path leads to null or to a part of this value (`Scope.Within.resolve`).
-/

namespace SqlTemplate

/-- The value of a name is the one of an entry. -/
theorem NameMap.mem_of_get? {α : Type} {name : String} {value : α} {map : NameMap α}
    (h : get? name map = some value) : (name, value) ∈ map := by
  induction map with
  | nil => simp at h
  | cons entry rest ih =>
    obtain ⟨key, first⟩ := entry
    rw [get?] at h
    split_ifs at h with hkey
    · obtain rfl := Option.some.inj h
      rw [hkey]
      exact List.mem_cons_self
    · exact List.mem_cons_of_mem _ (ih h)

namespace Scope

variable {P : Value → Prop}

/-- What is kept on the way down holds of the value below another one. -/
theorem descend_induction (hnull : P .null)
    (hproperty : ∀ {v child : Value} {name : String}, P v → v.property? name = some child → P child)
    {start found : Value} {segments : List String} (hstart : P start)
    (h : descend? start segments = some found) : P found := by
  -- On the segments: each leads to a property of the value before it, or null ends the way.
  induction segments generalizing start with
  | nil =>
    obtain rfl := Option.some.inj h
    exact hstart
  | cons segment rest ih =>
    rw [descend?] at h
    split_ifs at h
    · obtain rfl := Option.some.inj h
      exact hnull
    · split at h
      · next child hchild => exact ih (hproperty hstart hchild) h
      · simp at h

/-- What is kept on the way down holds of the value of a path, if it holds of every start. -/
theorem resolve_induction (hnull : P .null)
    (hproperty : ∀ {v child : Value} {name : String}, P v → v.property? name = some child → P child)
    {s : Scope} (hparameters : ∀ {name : String} {v : Value},
      s.parameters.get? name = some v → P v)
    (hloops : ∀ frame ∈ s.loops, P frame.element) {path : Path} {v : Value}
    (h : s.resolve path = .ok v) : P v := by
  -- From a start the segments lead down, and what starts a path is a property or an element.
  have hbelow : ∀ {start : Option Value} {segments : List String}, (∀ w, start = some w → P w) →
      (start.bind fun w => descend? w segments) = some v → P v := by
    intro start segments hstart hbind
    obtain ⟨w, hw, hdescend⟩ := Option.bind_eq_some_iff.1 hbind
    exact descend_induction hnull hproperty (hstart w hw) hdescend
  have hroot : ∀ root w, s.rootValue? root = some w → P w := by
    intro root w hw
    rw [rootValue?] at hw
    split_ifs at hw
    · obtain ⟨frame, hframe, rfl⟩ := Option.map_eq_some_iff.1 hw
      exact hloops frame (List.mem_of_head? hframe)
    · exact hparameters hw
  unfold resolve at h
  dsimp only at h
  split_ifs at h
  · split at h
    · simp at h
    · split at h
      · next w hw =>
        obtain rfl := Except.ok.inj h
        exact hbelow (fun _ => hparameters) hw
      · simp at h
  · split at h
    · next w hw =>
      obtain rfl := Except.ok.inj h
      exact hbelow (hroot path.root) hw
    · simp at h

end Scope

/-! ## Parts of a value -/

/-- The value is a part of another one, at any depth. -/
inductive Value.Contains (root : Value) : Value → Prop
  /-- The value itself. -/
  | self : Contains root root
  /-- An element of a list. -/
  | item {items : List Value} {v : Value} (h : Contains root (.list items)) (hv : v ∈ items) :
    Contains root v
  /-- A property of an object. -/
  | property {properties : Properties} {name : String} {v : Value}
    (h : Contains root (.object properties)) (hv : (name, v) ∈ properties) : Contains root v

/-- A property of a part is a part. -/
theorem Value.Contains.property? {root v child : Value} {name : String} (h : root.Contains v)
    (hchild : v.property? name = some child) : root.Contains child := by
  obtain ⟨properties, hobject, hget⟩ := Option.bind_eq_some_iff.1 hchild
  cases v with
  | object =>
    obtain rfl := Option.some.inj hobject
    exact h.property (NameMap.mem_of_get? hget)
  | _ => simp [asObject?] at hobject

namespace Scope

variable {s : Scope} {root : Value}

/-- All that a path may start at is a part of a value. -/
structure Within (s : Scope) (root : Value) : Prop where
  /-- The parameter object is. -/
  parameters : root.Contains (.object s.parameters.properties)
  /-- So is the element of each open loop. -/
  loops : ∀ frame ∈ s.loops, root.Contains frame.element

/-- A path leads to null or to a part of the value. -/
theorem Within.resolve (h : s.Within root) {path : Path} {v : Value}
    (hv : s.resolve path = .ok v) : v = .null ∨ root.Contains v := by
  refine resolve_induction (P := fun v => v = .null ∨ root.Contains v) (.inl rfl) ?_
    (fun hget => .inr (h.parameters.property (NameMap.mem_of_get? hget)))
    (fun frame hframe => .inr (h.loops frame hframe)) hv
  rintro v child name (rfl | hcontains) hchild
  · exact nomatch hchild
  · exact .inr (hcontains.property? hchild)

/-- A round of a loop over such a part is within the value, too. -/
theorem Within.enter (h : s.Within root) {frame : LoopFrame}
    (hframe : root.Contains frame.element) : (s.enter frame).Within root :=
  ⟨h.parameters, List.forall_mem_cons.2 ⟨hframe, h.loops⟩⟩

end Scope

end SqlTemplate
