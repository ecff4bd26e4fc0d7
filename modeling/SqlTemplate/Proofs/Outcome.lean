import Mathlib.Data.List.Forall2

/-!
# Computations that may fail

A computation in `Except` that is put together from steps succeeds exactly when its steps do, one
after the other. The lemmas take a successful computation apart into the results of its steps, so
that the proofs about evaluation and parsing name those results and open no bind.

Two runs of such a computation are compared by `Outcome.Agree`: both succeed, with results that are
related, or both fail, with faults of one kind. Steps that agree make computations that agree.
Where one of the runs is stricter than the other, they are compared by `Outcome.Relaxes`: the strict
one ends with a fault that the other need not have, or both come to the same.
-/

namespace SqlTemplate.Outcome

variable {ε δ α β : Type}

/-- A sequence goes on with the result of its first step. -/
theorem ok_bind (a : α) (f : α → Except ε β) : (Except.ok a >>= f) = f a :=
  rfl

/-- A sequence succeeds when its first step does and the rest succeeds on the result. -/
theorem bind_eq_ok {x : Except ε α} {f : α → Except ε β} {b : β} :
    x >>= f = .ok b ↔ ∃ a, x = .ok a ∧ f a = .ok b := by
  cases x with
  | ok a => simp [bind, Except.bind]
  | error e => simp [bind, Except.bind]

/-- A result that is carried on succeeds with its image. -/
theorem map_eq_ok {x : Except ε α} {f : α → β} {b : β} :
    x.map f = .ok b ↔ ∃ a, x = .ok a ∧ f a = b := by
  cases x with
  | ok a => simp [Except.map]
  | error e => simp [Except.map]

/-- A result that is carried on fails when it does. -/
theorem map_eq_error {x : Except ε α} {f : α → β} {e : ε} :
    x.map f = .error e ↔ x = .error e := by
  cases x with
  | ok a => simp [Except.map]
  | error e => simp [Except.map]

/-- A result that is carried on injectively shows what it was. -/
theorem image_eq_ok {x : Except ε α} {f : α → β} (hf : ∀ {a a'}, f a = f a' → a = a') {a : α} :
    (do return f (← x) : Except ε β) = .ok (f a) ↔ x = .ok a := by
  constructor
  · intro h
    obtain ⟨a', hx, h⟩ := bind_eq_ok.1 h
    obtain rfl := hf (Except.ok.inj h)
    exact hx
  · rintro rfl
    rfl

/-- A result that is carried on twice is carried on once by both. -/
theorem map_image {γ : Type} (x : Except ε α) (g : α → β) (f : β → γ) :
    (do return g (← x) : Except ε β).map f = x.map fun a => f (g a) := by
  cases x with
  | ok a => rfl
  | error e => rfl

/-- Two results that are put together injectively show what each of them was. -/
theorem pair_eq_ok {γ : Type} {x : Except ε α} {y : Except ε β} {f : α → β → γ}
    (hf : ∀ {a a' b b'}, f a b = f a' b' → a = a' ∧ b = b') {a : α} {b : β} :
    (do return f (← x) (← y) : Except ε γ) = .ok (f a b) ↔ x = .ok a ∧ y = .ok b := by
  constructor
  · intro h
    obtain ⟨a', hx, h⟩ := bind_eq_ok.1 h
    obtain ⟨b', hy, h⟩ := bind_eq_ok.1 h
    obtain ⟨rfl, rfl⟩ := hf (Except.ok.inj h)
    exact ⟨hx, hy⟩
  · rintro ⟨rfl, rfl⟩
    rfl

/-- Another wording of the fault does not touch a success. -/
theorem mapError_eq_ok {x : Except ε α} {f : ε → δ} {a : α} :
    x.mapError f = .ok a ↔ x = .ok a := by
  cases x with
  | ok a => simp [Except.mapError]
  | error e => simp [Except.mapError]

/-- A computation succeeds if something is known of its result. -/
theorem exists_of_toOption_map {x : Except ε α} {f : α → β} {b : β}
    (h : x.toOption.map f = some b) : ∃ a, x = .ok a ∧ f a = b := by
  cases x with
  | ok a => exact ⟨a, rfl, Option.some.inj h⟩
  | error e => exact absurd h.symm (Option.some_ne_none b)

/-- Each result of a list of computations comes from one of its elements. -/
theorem exists_of_mem_mapM {f : α → Except ε β} {as : List α} {bs : List β}
    (h : as.mapM f = .ok bs) {b : β} (hb : b ∈ bs) : ∃ a ∈ as, f a = .ok b := by
  induction as generalizing bs with
  | nil =>
    obtain rfl := Except.ok.inj h
    simp at hb
  | cons a rest ih =>
    rw [List.mapM_cons] at h
    obtain ⟨first, hfirst, h⟩ := bind_eq_ok.1 h
    obtain ⟨others, hothers, h⟩ := bind_eq_ok.1 h
    obtain rfl := Except.ok.inj h
    rcases List.mem_cons.1 hb with rfl | hb
    · exact ⟨a, List.mem_cons_self, hfirst⟩
    · obtain ⟨other, hmem, hother⟩ := ih hothers hb
      exact ⟨other, List.mem_cons_of_mem _ hmem, hother⟩

/-- Steps that each add to a state add together what each of them does. -/
theorem foldlM_flatMap {γ : Type} {R : β → List γ → β → Prop} {f : β → α → Except ε β}
    {added : α → List γ} (hrefl : ∀ b, R b [] b)
    (htrans : ∀ {b₁ b₂ b₃ : β} {cs ds : List γ}, R b₁ cs b₂ → R b₂ ds b₃ → R b₁ (cs ++ ds) b₃)
    {as : List α} (hstep : ∀ a ∈ as, ∀ {b b' : β}, f b a = .ok b' → R b (added a) b') {b b' : β}
    (h : as.foldlM f b = .ok b') : R b (as.flatMap added) b' := by
  induction as generalizing b with
  | nil =>
    obtain rfl := Except.ok.inj h
    exact hrefl b
  | cons a rest ih =>
    rw [List.foldlM_cons] at h
    obtain ⟨next, hfirst, hrest⟩ := bind_eq_ok.1 h
    rw [List.flatMap_cons]
    refine htrans (hstep a List.mem_cons_self hfirst) (ih ?_ hrest)
    intro other hother
    exact hstep other (List.mem_cons_of_mem _ hother)

/-- Steps that each keep a property keep it together. -/
theorem foldlM_preserves {P : β → Prop} {f : β → α → Except ε β}
    (hstep : ∀ {b b' : β} {a : α}, P b → f b a = .ok b' → P b') {as : List α} {b b' : β} (hb : P b)
    (h : as.foldlM f b = .ok b') : P b' := by
  induction as generalizing b with
  | nil =>
    obtain rfl := Except.ok.inj h
    exact hb
  | cons a rest ih =>
    rw [List.foldlM_cons] at h
    obtain ⟨next, hfirst, hrest⟩ := bind_eq_ok.1 h
    exact ih (hstep hb hfirst) hrest

/-! ## Two runs -/

/-- Both runs succeed, with related results, or both fail, with faults of one kind. -/
inductive Agree {κ : Type} (kind : ε → κ) (R : α → β → Prop) : Except ε α → Except ε β → Prop
  /-- Both succeed. -/
  | ok {a : α} {b : β} (h : R a b) : Agree kind R (.ok a) (.ok b)
  /-- Both fail. -/
  | error {e f : ε} (h : kind e = kind f) : Agree kind R (.error e) (.error f)

/-- Two options are related that are both missing, or both there and related. -/
theorem rel_cases {R : α → β → Prop} {x : Option α} {y : Option β} (h : Option.Rel R x y) :
    (x = none ∧ y = none) ∨ ∃ a b, x = some a ∧ y = some b ∧ R a b := by
  cases h with
  | none => exact .inl ⟨rfl, rfl⟩
  | some h => exact .inr ⟨_, _, rfl, rfl, h⟩

/-- The first elements of related lists are related. -/
theorem rel_head? {R : α → β → Prop} {as : List α} {bs : List β} (h : List.Forall₂ R as bs) :
    Option.Rel R as.head? bs.head? := by
  cases h with
  | nil => exact .none
  | cons hfirst _ => exact .some hfirst

/-- An element of a list is related to one of a related list. -/
theorem exists_of_forall₂ {R : α → β → Prop} {as : List α} {bs : List β}
    (h : List.Forall₂ R as bs) {a : α} (ha : a ∈ as) : ∃ b ∈ bs, R a b := by
  induction h with
  | nil => simp at ha
  | @cons first first' rest rest' hfirst _ ih =>
    rcases List.mem_cons.1 ha with rfl | ha
    · exact ⟨first', List.mem_cons_self, hfirst⟩
    · obtain ⟨b, hb, hab⟩ := ih ha
      exact ⟨b, List.mem_cons_of_mem _ hb, hab⟩

namespace Agree

variable {κ : Type} {kind : ε → κ} {α' β' : Type} {R : α → β → Prop} {S : α' → β' → Prop}
  {x : Except ε α} {y : Except ε β}

/-- A run agrees with itself. -/
theorem refl {R : α → α → Prop} (hR : ∀ a, R a a) (x : Except ε α) : Agree kind R x x := by
  cases x with
  | ok a => exact .ok (hR a)
  | error e => exact .error rfl

/-- Two sequences agree if their first steps do and the rests do on related results. -/
theorem bind (h : Agree kind R x y) {f : α → Except ε α'} {g : β → Except ε β'}
    (hrest : ∀ {a b}, R a b → Agree kind S (f a) (g b)) : Agree kind S (x >>= f) (y >>= g) := by
  cases h with
  | ok h => exact hrest h
  | error h => exact .error h

/-- Two results that are carried on agree if their images are related. -/
theorem map (h : Agree kind R x y) {f : α → α'} {g : β → β'}
    (hrest : ∀ {a b}, R a b → S (f a) (g b)) : Agree kind S (x.map f) (y.map g) := by
  cases h with
  | ok h => exact .ok (hrest h)
  | error h => exact .error h

/-- Another wording of the faults keeps two runs in agreement if it keeps their kinds. -/
theorem mapError {δ : Type} {kind' : δ → κ} (h : Agree kind R x y) {f : ε → δ}
    (hf : ∀ e, kind' (f e) = kind e) : Agree kind' R (x.mapError f) (y.mapError f) := by
  cases h with
  | ok h => exact .ok h
  | @error e e' h =>
    refine .error ?_
    rw [hf, hf]
    exact h

/-- Two folds agree whose steps do on related elements. -/
theorem foldlM {f : α → α' → Except ε α} {g : β → β' → Except ε β}
    (hstep : ∀ {a b a' b'}, R a b → S a' b' → Agree kind R (f a a') (g b b')) {as : List α'}
    {bs : List β'} (h : List.Forall₂ S as bs) {a : α} {b : β} (hstart : R a b) :
    Agree kind R (as.foldlM f a) (bs.foldlM g b) := by
  induction h generalizing a b with
  | nil => exact .ok hstart
  | cons hfirst _ ih =>
    rw [List.foldlM_cons, List.foldlM_cons]
    exact (hstep hstart hfirst).bind ih

end Agree

/-! ## A run and a stricter one -/

/-- The strict run is refused, or it comes to what the other one does. -/
def Relaxes (refused : ε → Prop) (strict lenient : Except ε α) : Prop :=
  (∃ e, refused e ∧ strict = .error e) ∨ strict = lenient

namespace Relaxes

variable {refused : ε → Prop} {x y : Except ε α}

/-- Every outcome relaxes itself. -/
theorem refl (x : Except ε α) : Relaxes refused x x :=
  .inr rfl

/-- A fault that may be refused is relaxed by any outcome. -/
theorem error {e : ε} (he : refused e) (y : Except ε α) : Relaxes refused (.error e) y :=
  .inl ⟨e, he, rfl⟩

/-- A run that is not refused comes to what the other one does. -/
theorem eq (h : Relaxes refused x y) (hx : ∀ e, refused e → x ≠ .error e) : y = x := by
  rcases h with ⟨e, he, herror⟩ | h
  · exact absurd herror (hx e he)
  · exact h.symm

/-- Two sequences are related if their first steps are and the rests are on each result. -/
theorem bind (h : Relaxes refused x y) {f g : α → Except ε β}
    (hrest : ∀ a, Relaxes refused (f a) (g a)) : Relaxes refused (x >>= f) (y >>= g) := by
  rcases h with ⟨e, he, rfl⟩ | rfl
  · exact .error he _
  · cases x with
    | ok a => exact hrest a
    | error e => exact .refl _

/-- Two folds are related whose steps are. -/
theorem foldlM {f g : β → α → Except ε β} (hstep : ∀ b a, Relaxes refused (f b a) (g b a))
    (as : List α) (b : β) : Relaxes refused (as.foldlM f b) (as.foldlM g b) := by
  induction as generalizing b with
  | nil => exact .refl _
  | cons a rest ih =>
    rw [List.foldlM_cons, List.foldlM_cons]
    exact (hstep b a).bind ih

end Relaxes

end SqlTemplate.Outcome
