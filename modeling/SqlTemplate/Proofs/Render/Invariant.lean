import Mathlib.Tactic.SplitIfs
import SqlTemplate.Proofs.Render.Steps

/-!
# Invariants of the buffer

An evaluation writes to its buffer in three ways: it adds a text, a bind with its placeholder, or
what a scope contributes. A property that survives these and holds of the empty buffer of a scope
(`Buffer.Invariant`) therefore survives every part of a template (`Node.invariant_walk`), embedded
templates included (`invariant_expansion`).
-/

namespace SqlTemplate

/-- The property holds of a buffer once more has been written to it. -/
structure Buffer.Invariant (d : Dialect) (P : Buffer → Prop) : Prop where
  /-- A text is added. -/
  push : ∀ {b : Buffer} (text : String), P b → P (b.push text)
  /-- A bind is added with its placeholder. -/
  pushBind : ∀ {b : Buffer} (bind : Bind), P b → P (b.pushBind d bind)
  /-- A scope opens. -/
  fork : ∀ {b : Buffer}, P b → P b.fork
  /-- A scope adds what it contributes. -/
  mergePruned : ∀ {b child : Buffer}, P b → P child → P (b.mergePruned child)

variable {d : Dialect} {P : Buffer → Prop}

namespace Variable

variable {v : Variable} {b b' : Buffer} {value : Value}

/-- The elements of an in-list keep the invariant. -/
theorem invariant_pushItems (hP : Buffer.Invariant d P) {index : Nat} {items : List Value}
    (hb : P b) (h : v.pushItems d index items b = .ok b') : P b' := by
  induction items generalizing index b with
  | nil =>
    obtain rfl := Except.ok.inj h
    exact hb
  | cons item rest ih =>
    unfold pushItems at h
    split_ifs at h with hcompound hindex
    · exact ih (hP.pushBind _ hb) h
    · exact ih (hP.pushBind _ (hP.push _ hb)) h

/-- So does a variable that is bound. -/
theorem invariant_pushBound (hP : Buffer.Invariant d P) (hb : P b)
    (h : v.pushBound d value b = .ok b') : P b' := by
  rcases pushBound_eq_ok h with ⟨-, rfl⟩ | ⟨-, -, rfl⟩ | ⟨-, rfl⟩ |
    ⟨items, inner, -, -, -, hitems, rfl⟩
  · exact hb
  · exact hP.pushBind _ hb
  · exact hP.push _ hb
  · exact hP.push _ (invariant_pushItems hP (hP.push _ hb) hitems)

/-- So does a variable that is embedded, if the templates that its value may be keep it. -/
theorem invariant_pushEmbedded (hP : Buffer.Invariant d P) {expand : String → Step}
    (hexpand : ∀ {text : String} {b b' : Buffer}, P b → expand text b = .ok b' → P b') (hb : P b)
    (h : v.pushEmbedded d expand value b = .ok b') : P b' := by
  rcases pushEmbedded_eq_ok h with ⟨-, rfl⟩ | ⟨text, -, htext⟩ | ⟨text, -, -, rfl⟩ | ⟨-, rfl⟩ |
    ⟨items, texts, -, -, -, -, rfl⟩
  · exact hb
  · exact hexpand hb htext
  · exact hP.push _ hb
  · exact hP.push _ hb
  · exact hP.push _ hb

end Variable

/-- Embedded templates keep the property. -/
def Expansion.Keeps (P : Buffer → Prop) (expand : Expansion) : Prop :=
  ∀ {v : Variable} {s : Scope} {text : String} {b b' : Buffer}, P b →
    expand v s text b = .ok b' → P b'

namespace Node

variable {expand : Expansion}

mutual

/-- A part of a template keeps the property. -/
theorem invariant_walk (hP : Buffer.Invariant d P) (hexpand : expand.Keeps P) {s : Scope}
    {b b' : Buffer} (hb : P b) : (node : Node) → node.walk d expand s b = .ok b' → P b'
  | .literal text, h => by
    obtain rfl := Except.ok.inj h
    exact hP.push text hb
  | .bind v, h => by
    obtain ⟨value, -, h⟩ := Outcome.bind_eq_ok.1 h
    exact Variable.invariant_pushBound hP hb h
  | .embedded v, h => by
    obtain ⟨value, -, h⟩ := Outcome.bind_eq_ok.1 h
    exact Variable.invariant_pushEmbedded hP hexpand hb h
  | .branch condition _ yes no, h => by
    obtain ⟨holds, -, h⟩ := Outcome.bind_eq_ok.1 h
    cases holds with
    | true => exact invariant_walkAll hP hexpand hb yes h
    | false => exact invariant_walkAll hP hexpand hb no h
  | .scope children, h => by
    obtain ⟨child, hchild, h⟩ := Outcome.bind_eq_ok.1 h
    obtain rfl := Except.ok.inj h
    -- Forking, the walk of the children and merging all keep it.
    exact hP.mergePruned hb (invariant_walkAll hP hexpand (hP.fork hb) children hchild)
  | .loop path children, h => by
    obtain ⟨items, -, h⟩ := Outcome.bind_eq_ok.1 h
    refine Outcome.foldlM_preserves (fun hb hround => ?_) hb h
    exact invariant_walkAll hP hexpand hb children hround
  | .connector text, h => by
    obtain rfl := Except.ok.inj h
    split
    · exact hP.push text hb
    · exact hb
  | .first children, h | .last children, h => by
    rw [Node.walk] at h
    split_ifs at h
    · exact invariant_walkAll hP hexpand hb children h
    · obtain rfl := Except.ok.inj h
      exact hb

/-- So do parts of a template one after the other. -/
theorem invariant_walkAll (hP : Buffer.Invariant d P) (hexpand : expand.Keeps P) {s : Scope}
    {b b' : Buffer} (hb : P b) : (nodes : List Node) → walkAll d expand s nodes b = .ok b' → P b'
  | [], h => by
    obtain rfl := Except.ok.inj h
    exact hb
  | node :: rest, h => by
    obtain ⟨next, hfirst, hrest⟩ := Outcome.bind_eq_ok.1 h
    exact invariant_walkAll hP hexpand (invariant_walk hP hexpand hb node hfirst) rest hrest

end

end Node

/-- Templates in embedded values keep the property, however deep they nest. -/
theorem invariant_expansion (hP : Buffer.Invariant d P) (room : Nat) :
    (expansion d room).Keeps P := by
  induction room with
  | zero =>
    intro v s text b b' hb h
    simp [expansion] at h
  | succ room ih =>
    intro v s text b b' hb h
    obtain ⟨t, -, h⟩ := Outcome.bind_eq_ok.1 h
    exact Node.invariant_walkAll hP ih hb t.nodes h

end SqlTemplate
