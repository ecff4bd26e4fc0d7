import SqlTemplate.Proofs.Dialect.Inlining

/-!
# Placeholders at their own positions

A text with the placeholders of some binds in order, and no other mark of the dialect around them,
is inlined by putting each literal in the place of its own placeholder (`Dialect.inline_weave`). A
numbered placeholder may begin like one with a longer number, or go on with a digit of the text
behind it, and a literal may look like a placeholder: since what is behind the last literal is all
that is searched, and the next mark in it is the placeholder looked for, none of this matters.
-/

namespace SqlTemplate.Dialect

variable {d : Dialect}

/-- A text with the literals of values in it: `first`, and then each literal with the text behind
it. -/
def weaveLiterals (d : Dialect) (first : String) (parts : List (Bind × String)) : String :=
  first ++ String.join (parts.map fun part => d.literal part.1.value ++ part.2)

/-- The first text and the first literal stand before the rest of the weave. -/
theorem toList_weaveLiterals_cons (first text : String) (bind : Bind)
    (rest : List (Bind × String)) :
    (d.weaveLiterals first ((bind, text) :: rest)).toList =
      first.toList ++ (d.literal bind.value).toList ++ (d.weaveLiterals text rest).toList := by
  simp [weaveLiterals]

/-- From any position on, each placeholder becomes the literal of its own value. -/
theorem inlineFrom_weave (position : Nat) (first : String) (parts : List (Bind × String))
    (h : ∀ text ∈ first :: parts.map Prod.snd, d.marker ∉ text.toList) :
    d.inlineFrom position (parts.map fun part => part.1.value)
        (d.weave position first (parts.map Prod.snd)).toList =
      (d.weaveLiterals first parts).toList := by
  -- On the parts: the first text is passed over, and the placeholder behind it is the next one.
  induction parts generalizing position first with
  | nil => simp [inlineFrom, weave, weaveLiterals]
  | cons part rest ih =>
    obtain ⟨bind, text⟩ := part
    obtain ⟨hfirst, hrest⟩ := List.forall_mem_cons.1 h
    rw [List.map_cons, List.map_cons, weave, String.toList_append, String.toList_append,
      List.append_assoc, inlineFrom_text_append hfirst, inlineFrom_placeholder_append,
      ih (position + 1) text hrest, toList_weaveLiterals_cons, List.append_assoc]

/-- A statement whose text has the placeholders of its binds in order, with texts without the mark
of the dialect around them, is inlined to these texts with the literals between them. -/
theorem inline_weave (d : Dialect) (first : String) (parts : List (Bind × String))
    (h : ∀ text ∈ first :: parts.map Prod.snd, d.marker ∉ text.toList) :
    d.inline ⟨d.weave 1 first (parts.map Prod.snd), parts.map Prod.fst⟩ =
      d.weaveLiterals first parts := by
  have hvalues : Statement.values ⟨d.weave 1 first (parts.map Prod.snd), parts.map Prod.fst⟩ =
      parts.map fun part => part.1.value := List.map_map
  rw [inline, hvalues, inlineFrom_weave 1 first parts h, String.ofList_toList]

/-- Ten numbered placeholders with a digit behind each, and strings that look like them. -/
theorem inline_weave_ten :
    let d : Dialect := { kind := .postgres, limitOverride := some 2 }
    let parts := List.replicate 10 (Bind.ofValue (.string "$2 or ?"), "0")
    (∀ text ∈ "x" :: parts.map Prod.snd, d.marker ∉ text.toList) ∧
      d.inline ⟨d.weave 1 "x" (parts.map Prod.snd), parts.map Prod.fst⟩ =
        d.weaveLiterals "x" parts := by
  intro d parts
  have h : ∀ text ∈ "x" :: parts.map Prod.snd, d.marker ∉ text.toList := by decide
  exact ⟨h, inline_weave d "x" parts h⟩

/-- The first placeholder is found before the zero behind it, and the tenth one by its number. -/
example :
    let parts := List.replicate 10 (Bind.ofValue (.bool true), "0")
    let d : Dialect := { kind := .postgres }
    d.weave 1 "x" (parts.map Prod.snd) = "x$10$20$30$40$50$60$70$80$90$100" ∧
      d.weaveLiterals "x" parts = "xtrue0true0true0true0true0true0true0true0true0true0" := by
  decide

end SqlTemplate.Dialect
