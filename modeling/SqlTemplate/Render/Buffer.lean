import SqlTemplate.Dialect

/-!
# Buffers

The statement that is being written: its text and its binds so far. A scope is written into a
buffer of its own, which goes on counting placeholders where the buffer around it stands, and is
then merged into that one or dropped.
-/

namespace SqlTemplate

/-- A statement that is being written. -/
structure Buffer where
  /-- The number of binds in the buffers around it. -/
  base : Nat := 0
  /-- The text so far. -/
  sql : String := ""
  /-- The binds so far, in the order of their placeholders. -/
  binds : List Bind := []

namespace Buffer

/-- The number of binds up to here, those of the buffers around it included. -/
def position (b : Buffer) : Nat :=
  b.base + b.binds.length

/-- The buffer with more text. -/
def push (b : Buffer) (text : String) : Buffer :=
  { b with sql := b.sql ++ text }

/-- The buffer with one more bind and its placeholder. -/
def pushBind (b : Buffer) (d : Dialect) (bind : Bind) : Buffer :=
  { b with sql := b.sql ++ d.placeholder (b.position + 1), binds := b.binds ++ [bind] }

/-- An empty buffer for a scope inside this one. -/
def fork (b : Buffer) : Buffer :=
  { base := b.position }

/-- The buffer with the binds of a scope inside it and `text` for the text of that scope. -/
def merge (b child : Buffer) (text : String) : Buffer :=
  { b with sql := b.sql ++ text, binds := b.binds ++ child.binds }

/-- The statement that has been written. -/
def toStatement (b : Buffer) : Statement :=
  ⟨b.sql, b.binds⟩

/-- A text counts no placeholder. -/
@[simp] theorem position_push (b : Buffer) (text : String) :
    (b.push text).position = b.position := rfl

/-- A bind counts one placeholder. -/
@[simp] theorem position_pushBind (b : Buffer) (d : Dialect) (bind : Bind) :
    (b.pushBind d bind).position = b.position + 1 := by
  simp only [pushBind, position, List.length_append, List.length_singleton]
  omega

/-- An inner buffer counts on from the outer one. -/
@[simp] theorem position_fork (b : Buffer) : b.fork.position = b.position := rfl

end Buffer

end SqlTemplate
