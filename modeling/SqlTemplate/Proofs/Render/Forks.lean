import Mathlib.Data.List.Induction
import Mathlib.Data.List.Infix
import SqlTemplate.Render.Buffer

/-!
# Forked buffers

Buffers are forked, and a fork is merged or dropped, in any order that only closes a fork where one
is open. The main statement, `BufferStack.run_transparent`, is that the forks leave no trace: once
all of them are closed, the buffer that is left is one that has been written into directly, by the
same steps without those between a dropped fork and its drop, so that its placeholders are numbered
from 1 without a gap. At all times a buffer counts its placeholders on from the binds of those
below it.

`Leaves` says what steps that close all of their forks leave behind, and `Layers` lays any other
steps out along the forks that are open. One more step keeps them laid out (`Layers.exists_snoc`),
and what is laid out runs to a stack that is told from it (`run?_of_layers`). That a merge fits in
is `Buffer.merge_writeAll`: a fork counts on where the buffer below it stands.
-/

namespace SqlTemplate

/-- What is written into a buffer at a time. -/
inductive Write where
  /-- A text. -/
  | text (text : String)
  /-- A bind with its placeholder. -/
  | bind (bind : Bind)

/-- A step on a stack of buffers. -/
inductive BufferStep where
  /-- The topmost buffer is written into. -/
  | write (w : Write)
  /-- The topmost buffer is forked. -/
  | fork
  /-- The topmost buffer is merged into the one below it, with its own text. -/
  | merge
  /-- The topmost buffer is dropped. -/
  | drop

namespace Write

/-- The bind that is written. -/
def bind? : Write → Option Bind
  | text _ => none
  | bind b => some b

/-- The text of writes whose placeholders are numbered from `n` on. -/
def numbered (d : Dialect) (n : Nat) : List Write → String
  | [] => ""
  | text s :: rest => s ++ numbered d n rest
  | bind _ :: rest => d.placeholder n ++ numbered d (n + 1) rest

/-- The binds of writes. -/
def binds (writes : List Write) : List Bind :=
  writes.filterMap bind?

/-- A text binds nothing. -/
theorem binds_text (s : String) (writes : List Write) : binds (text s :: writes) = binds writes :=
  List.filterMap_cons_none rfl

/-- A bind is bound before those that follow. -/
theorem binds_bind (b : Bind) (writes : List Write) :
    binds (bind b :: writes) = b :: binds writes :=
  List.filterMap_cons_some rfl

end Write

namespace Buffer

/-- The buffer with one more write. -/
def write (d : Dialect) (b : Buffer) : Write → Buffer
  | .text s => b.push s
  | .bind bind => b.pushBind d bind

/-- The buffer with more writes, one after the other. -/
def writeAll (d : Dialect) (b : Buffer) (writes : List Write) : Buffer :=
  writes.foldl (write d) b

/-- Writes one after the other are made one after the other. -/
theorem writeAll_append (d : Dialect) (b : Buffer) (writes more : List Write) :
    b.writeAll d (writes ++ more) = (b.writeAll d writes).writeAll d more :=
  List.foldl_append

/-- Writes add their text, numbered on from the position of the buffer, and their binds. -/
theorem writeAll_eq (d : Dialect) (b : Buffer) (writes : List Write) :
    b.writeAll d writes = ⟨b.base, b.sql ++ Write.numbered d (b.position + 1) writes,
      b.binds ++ Write.binds writes⟩ := by
  induction writes generalizing b with
  | nil => simp [writeAll, Write.numbered, Write.binds]
  | cons w writes ih =>
    show (b.write d w).writeAll d writes = _
    rw [ih]
    cases w with
    | text s =>
      rw [write, position_push, Write.numbered, Write.binds_text]
      simp only [push, String.append_assoc]
    | bind bind =>
      rw [write, position_pushBind, Write.numbered, Write.binds_bind]
      simp only [pushBind, String.append_assoc, List.append_assoc, List.singleton_append]

/-- A fork that is merged has been written into as if it were the buffer below it. -/
theorem merge_writeAll (d : Dialect) (b : Buffer) (writes : List Write) :
    b.merge (b.fork.writeAll d writes) (b.fork.writeAll d writes).sql = b.writeAll d writes := by
  rw [writeAll_eq, writeAll_eq, position_fork, merge, fork]
  simp

/-- The number of binds that buffers hold. -/
def held : List Buffer → Nat
  | [] => 0
  | b :: below => b.binds.length + held below

/-- Each of the buffers counts its placeholders on from the binds of those behind it. -/
def Based (buffers : List Buffer) : Prop :=
  ∀ above b below, buffers = above ++ b :: below → b.base = held below

/-- Without buffers there is nothing to count on from. -/
theorem based_nil : Based [] := by
  intro above b below h
  exact absurd (List.append_eq_nil_iff.1 h.symm).2 (List.cons_ne_nil b below)

/-- Each buffer counts on from those below it, and these do among themselves. -/
theorem based_cons_iff {b : Buffer} {below : List Buffer} :
    Based (b :: below) ↔ b.base = held below ∧ Based below := by
  constructor
  · intro h
    refine ⟨h [] b below rfl, ?_⟩
    rintro above other rest rfl
    exact h (b :: above) other rest rfl
  · rintro ⟨hb, hbelow⟩ above other rest h
    rcases List.cons_eq_append_iff.1 h with ⟨rfl, hrest⟩ | ⟨above, rfl, hrest⟩
    · obtain ⟨rfl, rfl⟩ := List.cons.inj hrest
      exact hb
    · exact hbelow above other rest hrest

/-- A write does not change where the buffer counts on from. -/
theorem base_write (d : Dialect) (b : Buffer) (w : Write) : (b.write d w).base = b.base := by
  cases w <;> rfl

end Buffer

namespace BufferStep

/-- The number of forks among steps. -/
def forked (steps : List BufferStep) : Nat :=
  steps.countP fun step => step matches fork

/-- The number of forks that steps merge or drop. -/
def closed (steps : List BufferStep) : Nat :=
  steps.countP fun step => step matches merge | drop

/-- A fork is merged or dropped only where one is open. -/
def ClosesOpen (steps : List BufferStep) : Prop :=
  ∀ part, part <+: steps → closed part ≤ forked part

/-- The steps are counted in every first part of them. -/
instance (steps : List BufferStep) : Decidable (ClosesOpen steps) :=
  decidable_of_iff (∀ part ∈ steps.inits, closed part ≤ forked part)
    (forall_congr' fun _ => by rw [List.mem_inits])

/-- What steps that close all of their forks leave behind: all that is written, except between a
fork that is dropped and its drop. -/
inductive Leaves : List BufferStep → List Write → Prop
  /-- No step leaves nothing. -/
  | nil : Leaves [] []
  /-- What is written outside of forks is left. -/
  | write {steps : List BufferStep} {writes : List Write} (w : Write) (h : Leaves steps writes) :
      Leaves (.write w :: steps) (w :: writes)
  /-- A fork that is merged leaves what is left inside it. -/
  | merge {inner steps : List BufferStep} {writes more : List Write} (hinner : Leaves inner writes)
      (h : Leaves steps more) : Leaves (.fork :: inner ++ .merge :: steps) (writes ++ more)
  /-- A fork that is dropped leaves nothing. -/
  | drop {inner steps : List BufferStep} {writes more : List Write} (hinner : Leaves inner writes)
      (h : Leaves steps more) : Leaves (.fork :: inner ++ .drop :: steps) more

end BufferStep

/-- Buffers of which each is a fork of the one below it. -/
structure BufferStack where
  /-- The one that is written into. -/
  top : Buffer := {}
  /-- Those below it, the one that is no fork last. -/
  below : List Buffer := []

namespace BufferStack

/-- The buffers from the topmost one down. -/
def buffers (s : BufferStack) : List Buffer :=
  s.top :: s.below

/-- The stack behind one more step, which closes no fork where none is open. -/
def step? (d : Dialect) : BufferStack → BufferStep → Option BufferStack
  | ⟨top, below⟩, .write w => some ⟨top.write d w, below⟩
  | ⟨top, below⟩, .fork => some ⟨top.fork, top :: below⟩
  | ⟨top, b :: below⟩, .merge => some ⟨b.merge top top.sql, below⟩
  | ⟨_, b :: below⟩, .drop => some ⟨b, below⟩
  | ⟨_, []⟩, _ => none

/-- The stack behind steps. -/
def run? (d : Dialect) (s : BufferStack) (steps : List BufferStep) : Option BufferStack :=
  steps.foldlM (step? d) s

end BufferStack

namespace BufferStep

/-- Steps, laid out along the forks that are open behind them: what is left since the last of these
forks, and what was left between the earlier ones. -/
inductive Layers : List BufferStep → List Write → List (List Write) → Prop
  /-- No fork is open. -/
  | ground {steps : List BufferStep} {writes : List Write} (h : Leaves steps writes) :
      Layers steps writes []
  /-- A fork is open behind other steps. -/
  | fork {outer steps : List BufferStep} {writes others : List Write} {below : List (List Write)}
      (houter : Layers outer writes below) (h : Leaves steps others) :
      Layers (outer ++ .fork :: steps) others (writes :: below)

variable {step : BufferStep} {steps more : List BufferStep} {writes others : List Write}
  {below : List (List Write)}

/-! ## What steps leave -/

/-- Steps that leave writes, one after the other, leave the writes of both. -/
theorem Leaves.append (h : Leaves steps writes) (hmore : Leaves more others) :
    Leaves (steps ++ more) (writes ++ others) := by
  induction h with
  | nil => exact hmore
  | write w _ ih => exact .write w ih
  | merge hinner _ _ ih =>
    rw [List.append_assoc, List.cons_append, List.append_assoc]
    exact .merge hinner ih
  | drop hinner _ _ ih =>
    rw [List.append_assoc, List.cons_append]
    exact .drop hinner ih

/-- Such steps close as many forks as they open. -/
theorem Leaves.closed_eq (h : Leaves steps writes) : closed steps = forked steps := by
  induction h with
  | nil => rfl
  | write w _ ih => simpa [closed, forked] using ih
  | merge _ _ ihinner ih | drop _ _ ihinner ih =>
    simp [closed, forked] at ihinner ih ⊢
    omega

/-- What is left in the innermost buffer comes behind what is there. -/
theorem Layers.append (h : Layers steps writes below) (hmore : Leaves more others) :
    Layers (steps ++ more) (writes ++ others) below := by
  cases h with
  | ground h => exact .ground (h.append hmore)
  | fork houter h =>
    rw [List.append_assoc]
    exact .fork houter (h.append hmore)

/-- As many forks are open as there are layers below the last one. -/
theorem Layers.length_add_closed (h : Layers steps writes below) :
    below.length + closed steps = forked steps := by
  induction h with
  | ground h => rw [List.length_nil, Nat.zero_add, h.closed_eq]
  | fork _ h ih =>
    have hinner := h.closed_eq
    simp [closed, forked] at hinner ih ⊢
    omega

/-- One more step keeps the steps laid out if it closes no fork where none is open. -/
theorem Layers.exists_snoc (h : Layers steps writes below)
    (hopen : closed (steps ++ [step]) ≤ forked (steps ++ [step])) :
    ∃ writes' below', Layers (steps ++ [step]) writes' below' := by
  cases step with
  | write w => exact ⟨_, _, h.append (.write w .nil)⟩
  | fork => exact ⟨_, _, .fork h .nil⟩
  | merge =>
    cases h with
    -- Without an open buffer there would be more ends than forks.
    | ground h =>
      have hclosed := h.closed_eq
      simp [closed, forked] at hclosed hopen
      omega
    | fork houter h =>
      rw [List.append_assoc]
      exact ⟨_, _, houter.append (.merge h .nil)⟩
  | drop =>
    cases h with
    | ground h =>
      have hclosed := h.closed_eq
      simp [closed, forked] at hclosed hopen
      omega
    | fork houter h =>
      rw [List.append_assoc]
      exact ⟨_, _, houter.append (.drop h .nil)⟩

/-- Steps are laid out if they close forks only where one is open. -/
theorem exists_layers (h : ClosesOpen steps) : ∃ writes below, Layers steps writes below := by
  induction steps using List.reverseRecOn with
  | nil => exact ⟨[], [], .ground .nil⟩
  | append_singleton steps step ih =>
    have hsteps : ClosesOpen steps := fun part hpart =>
      h part (hpart.trans (List.prefix_append steps [step]))
    obtain ⟨writes, below, hlayers⟩ := ih hsteps
    exact hlayers.exists_snoc (h _ (List.prefix_refl _))

end BufferStep

namespace BufferStack

open BufferStep

variable {d : Dialect} {s s' : BufferStack} {step : BufferStep} {steps : List BufferStep}
  {writes : List Write} {below : List (List Write)}

/-! ## The stack behind steps -/

/-- The first step is made before the others. -/
theorem run?_cons (d : Dialect) (s : BufferStack) (step : BufferStep) (steps : List BufferStep) :
    s.run? d (step :: steps) = (s.step? d step).bind fun s => s.run? d steps :=
  rfl

/-- Steps one after the other are made one after the other. -/
theorem run?_append (d : Dialect) (s : BufferStack) (steps more : List BufferStep) :
    s.run? d (steps ++ more) = (s.run? d steps).bind fun s => s.run? d more :=
  List.foldlM_append

/-- A step keeps each buffer counting on from those below it. -/
theorem based_of_step? (h : s.step? d step = some s') (hs : Buffer.Based s.buffers) :
    Buffer.Based s'.buffers := by
  obtain ⟨top, below⟩ := s
  obtain ⟨htop, hbelow⟩ := Buffer.based_cons_iff.1 hs
  cases step with
  | write w =>
    obtain rfl := Option.some.inj h
    exact Buffer.based_cons_iff.2 ⟨(Buffer.base_write d top w).trans htop, hbelow⟩
  | fork =>
    obtain rfl := Option.some.inj h
    refine Buffer.based_cons_iff.2 ⟨?_, hs⟩
    -- The new buffer counts from the position of the one below it.
    show top.position = Buffer.held (top :: below)
    rw [Buffer.held, Buffer.position, htop, Nat.add_comm]
  | merge =>
    cases below with
    | nil => exact absurd h.symm (Option.some_ne_none s')
    | cons b below =>
      obtain rfl := Option.some.inj h
      obtain ⟨hb, hrest⟩ := Buffer.based_cons_iff.1 hbelow
      exact Buffer.based_cons_iff.2 ⟨hb, hrest⟩
  | drop =>
    cases below with
    | nil => exact absurd h.symm (Option.some_ne_none s')
    | cons b below =>
      obtain rfl := Option.some.inj h
      exact hbelow

/-- So do steps one after the other. -/
theorem based_of_run? (h : s.run? d steps = some s') (hs : Buffer.Based s.buffers) :
    Buffer.Based s'.buffers := by
  induction steps generalizing s with
  | nil =>
    obtain rfl := Option.some.inj h
    exact hs
  | cons step steps ih =>
    rw [run?_cons] at h
    obtain ⟨mid, hstep, hrest⟩ := Option.bind_eq_some_iff.1 h
    exact ih hrest (based_of_step? hstep hs)

/-- Steps that close all of their forks write what they leave into the topmost buffer. -/
theorem run?_of_leaves (h : Leaves steps writes) (s : BufferStack) :
    s.run? d steps = some ⟨s.top.writeAll d writes, s.below⟩ := by
  induction h generalizing s with
  | nil => rfl
  | write w _ ih =>
    rw [run?_cons]
    exact ih ⟨s.top.write d w, s.below⟩
  | merge _ _ ihinner ih =>
    rw [List.cons_append, run?_cons]
    -- The inner steps write to the buffer that the fork has put on top.
    show (run? d ⟨s.top.fork, s.buffers⟩ _) = _
    rw [run?_append, ihinner, Option.bind_some, run?_cons]
    show run? d ⟨s.top.merge _ _, s.below⟩ _ = _
    rw [Buffer.merge_writeAll, ih, Buffer.writeAll_append]
  | drop _ _ ihinner ih =>
    rw [List.cons_append, run?_cons]
    show (run? d ⟨s.top.fork, s.buffers⟩ _) = _
    rw [run?_append, ihinner, Option.bind_some, run?_cons]
    exact ih s

/-- The stack whose buffers have been written into as the layers say. -/
def ofLayers (d : Dialect) (writes : List Write) : List (List Write) → BufferStack
  | [] => ⟨({} : Buffer).writeAll d writes, []⟩
  | outer :: below =>
    let s := ofLayers d outer below
    ⟨s.top.fork.writeAll d writes, s.buffers⟩

/-- Steps lead to the stack of their layers. -/
theorem run?_of_layers (h : Layers steps writes below) :
    run? d {} steps = some (ofLayers d writes below) := by
  induction h with
  | ground h => exact run?_of_leaves h {}
  | fork _ h ih =>
    rw [run?_append, ih, Option.bind_some, run?_cons]
    exact run?_of_leaves h ⟨(ofLayers d _ _).top.fork, (ofLayers d _ _).buffers⟩

/-- There are as many buffers as layers below the innermost one. -/
theorem length_below_ofLayers (d : Dialect) (writes : List Write) (below : List (List Write)) :
    (ofLayers d writes below).below.length = below.length := by
  induction below generalizing writes with
  | nil => rfl
  | cons outer below ih => exact congrArg (· + 1) (ih outer)

/-- Forked buffers are transparent: steps that close a fork only where one is open lead to a stack
with a buffer for each fork that is open, each of which counts on from the binds of those below it.
If no fork is open, the one buffer is that of the same writes without those between a dropped fork
and its drop, with their placeholders numbered from 1 on. -/
theorem run_transparent (d : Dialect) {steps : List BufferStep} (h : ClosesOpen steps) :
    ∃ s, run? d {} steps = some s ∧ s.below.length + closed steps = forked steps ∧
      Buffer.Based s.buffers ∧
      (closed steps = forked steps → ∃ writes, Leaves steps writes ∧
        s = ⟨({} : Buffer).writeAll d writes, []⟩ ∧ s.top.sql = Write.numbered d 1 writes ∧
        s.top.binds = Write.binds writes) := by
  obtain ⟨writes, below, hlayers⟩ := exists_layers h
  have hlength := hlayers.length_add_closed
  have hrun := run?_of_layers (d := d) hlayers
  refine ⟨ofLayers d writes below, hrun, ?_, ?_, ?_⟩
  · rw [length_below_ofLayers, hlength]
  · exact based_of_run? hrun (Buffer.based_cons_iff.2 ⟨rfl, Buffer.based_nil⟩)
  · intro hclosed
    -- As many ends as forks leave no buffer open.
    obtain rfl : below = [] := List.eq_nil_of_length_eq_zero (by omega)
    cases hlayers with
    | ground hleaves =>
      have hwritten := Buffer.writeAll_eq d {} writes
      refine ⟨writes, hleaves, rfl, ?_, ?_⟩
      · show (Buffer.writeAll d {} writes).sql = _
        rw [hwritten]
        exact String.empty_append
      · show (Buffer.writeAll d {} writes).binds = _
        rw [hwritten]
        rfl

/-- Behind a first placeholder, a fork with two placeholders, one of them in a fork that is merged,
is dropped, and another fork is merged. -/
theorem run_transparent_dropped :
    let one : BufferStep := .write (.bind (.ofValue (.integer 1)))
    let steps := [one, .fork, one, .fork, one, .merge, .drop, .fork, .write (.text " and "), one,
      .merge]
    ClosesOpen steps ∧ closed steps = forked steps ∧
      ∃ s writes, run? ⟨.postgres, none⟩ {} steps = some s ∧ Leaves steps writes ∧
        s.top.sql = Write.numbered ⟨.postgres, none⟩ 1 writes := by
  intro one steps
  have hopen : ClosesOpen steps := by decide
  have hclosed : closed steps = forked steps := by decide
  obtain ⟨s, hrun, -, -, hs⟩ := run_transparent ⟨.postgres, none⟩ hopen
  obtain ⟨writes, hleaves, -, hsql, -⟩ := hs hclosed
  exact ⟨hopen, hclosed, s, writes, hrun, hleaves, hsql⟩

end BufferStack

end SqlTemplate
