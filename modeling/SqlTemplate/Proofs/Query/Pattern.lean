import Mathlib.Data.List.Infix
import Mathlib.Tactic.SplitIfs
import SqlTemplate.Query.Like

/-!
# What a pattern matches

A database reads a pattern from the left: behind the escape character a wildcard, or the escape
character itself, stands for itself, and nothing else may follow it; the other wildcards stand for
any sequence and for any one character. `LikePart.read?` reads a pattern in this way and knows
nothing of how patterns are made, and `LikePart.Matches` is what its parts match.

`apply_matches` is that the pattern of a text is valid and matches exactly the texts that were
asked for: those that start with the text, end with it, contain it or equal it. An escaped text is
read as its own characters, whatever pattern is behind it (`read?_escapeChars`), so that the
wildcards around it are the only ones left.
-/

namespace SqlTemplate

/-! ## The matcher -/

/-- A part of a pattern. -/
inductive LikePart where
  /-- Any sequence of characters. -/
  | sequence
  /-- Any one character. -/
  | single
  /-- This character. -/
  | character (c : Char)
  deriving DecidableEq, Repr

namespace LikePart

/-- What a character of a pattern stands for that is not escaped. -/
def ofChar (c : Char) : LikePart :=
  if c = '%' then sequence else if c = '_' then single else character c

/-- The parts of a pattern, or none if the pattern is not valid. The escape character escapes even
where it is a wildcard itself. -/
def read? (escape : Char) : List Char → Option (List LikePart)
  | [] => some []
  | c :: cs =>
    if c = escape then
      match cs with
      | [] => none
      | next :: cs =>
        if next = '%' ∨ next = '_' ∨ next = escape then
          (read? escape cs).map (character next :: ·)
        else none
    else (read? escape cs).map (ofChar c :: ·)

/-- A character that is not the escape character is read by itself. -/
theorem read?_cons {escape c : Char} (h : c ≠ escape) (cs : List Char) :
    read? escape (c :: cs) = (read? escape cs).map (ofChar c :: ·) := by
  rw [read?.eq_def]
  exact if_neg h

/-- The parts match a text. -/
inductive Matches : List LikePart → List Char → Prop
  /-- No parts match the empty text. -/
  | nil : Matches [] []
  /-- A sequence of any length comes first. -/
  | sequence {parts : List LikePart} {skipped cs : List Char} (h : Matches parts cs) :
      Matches (sequence :: parts) (skipped ++ cs)
  /-- One character comes first. -/
  | single {parts : List LikePart} {c : Char} {cs : List Char} (h : Matches parts cs) :
      Matches (single :: parts) (c :: cs)
  /-- This character comes first. -/
  | character {parts : List LikePart} {c : Char} {cs : List Char} (h : Matches parts cs) :
      Matches (character c :: parts) (c :: cs)

variable {parts : List LikePart} {cs text : List Char}

/-- A pattern without parts matches the empty text only. -/
theorem matches_nil_iff : Matches [] cs ↔ cs = [] := by
  constructor
  · rintro ⟨⟩
    rfl
  · rintro rfl
    exact .nil

/-- A sequence passes over any beginning of the text. -/
theorem matches_sequence_iff :
    Matches (sequence :: parts) cs ↔ ∃ rest, rest <:+ cs ∧ Matches parts rest := by
  constructor
  · rintro (_ | @⟨_, skipped, rest, h⟩)
    exact ⟨rest, List.suffix_append skipped rest, h⟩
  · rintro ⟨rest, ⟨skipped, rfl⟩, h⟩
    exact .sequence h

/-- Characters match themselves at the start of the text. -/
theorem matches_characters_iff :
    Matches (text.map character ++ parts) cs ↔ ∃ rest, cs = text ++ rest ∧ Matches parts rest := by
  induction text generalizing cs with
  | nil => simp
  | cons c text ih =>
    rw [List.map_cons, List.cons_append]
    constructor
    · rintro (_ | _ | _ | @⟨_, _, tail, h⟩)
      obtain ⟨rest, rfl, hrest⟩ := ih.1 h
      exact ⟨rest, rfl, hrest⟩
    · rintro ⟨rest, rfl, hrest⟩
      exact .character (ih.2 ⟨rest, rfl, hrest⟩)

/-- Characters with nothing behind them match their text alone. -/
theorem matches_text_iff : Matches (text.map character) cs ↔ cs = text := by
  rw [← List.append_nil (text.map character), matches_characters_iff]
  simp only [matches_nil_iff, exists_eq_right, List.append_nil]

/-- Characters with a sequence behind them match what starts with their text. -/
theorem matches_start_iff : Matches (text.map character ++ [sequence]) cs ↔ text <+: cs := by
  rw [matches_characters_iff]
  constructor
  · rintro ⟨rest, rfl, -⟩
    exact List.prefix_append text rest
  · rintro ⟨rest, rfl⟩
    exact ⟨rest, rfl, matches_sequence_iff.2 ⟨[], List.nil_suffix, .nil⟩⟩

end LikePart

open LikePart

/-! ## Patterns of texts -/

/-- A text is one that a condition of the kind asks for. -/
def LikeKind.Asks (kind : LikeKind) (text found : List Char) : Prop :=
  match kind with
  | .startsWith => text <+: found
  | .contains => text <:+: found
  | .endsWith => text <:+ found
  | .exact => found = text

/-- The kinds ask for the start, the end, a stretch or all of a text. -/
instance (kind : LikeKind) (text found : List Char) : Decidable (kind.Asks text found) :=
  match kind with
  | .startsWith => inferInstanceAs (Decidable (text <+: found))
  | .contains => inferInstanceAs (Decidable (text <:+: found))
  | .endsWith => inferInstanceAs (Decidable (text <:+ found))
  | .exact => inferInstanceAs (Decidable (found = text))

namespace LikeOption

/-- What stands for a character of a text is read as that character. -/
theorem read?_escaped (escape c : Char) (cs : List Char) :
    read? escape ((if c = escape ∨ c = '%' ∨ c = '_' then [escape, c] else [c]) ++ cs) =
      (read? escape cs).map (character c :: ·) := by
  split_ifs with hspecial
  · have hnext : c = '%' ∨ c = '_' ∨ c = escape := by
      rcases hspecial with h | h | h
      · exact .inr (.inr h)
      · exact .inl h
      · exact .inr (.inl h)
    rw [List.cons_append, List.singleton_append, read?, if_pos rfl]
    exact if_pos hnext
  · rw [not_or, not_or] at hspecial
    obtain ⟨hescape, hsequence, hsingle⟩ := hspecial
    have hchar : ofChar c = character c := by
      rw [ofChar, if_neg hsequence, if_neg hsingle]
    rw [List.singleton_append, read?_cons hescape, hchar]

/-- An escaped text is read as its own characters, whatever pattern is behind it. -/
theorem read?_escapeChars (o : LikeOption) (text cs : List Char) :
    read? o.escape (o.escapeChars text ++ cs) =
      (read? o.escape cs).map (text.map character ++ ·) := by
  induction text with
  | nil =>
    rw [escapeChars, List.flatMap_nil, List.nil_append]
    cases read? o.escape cs <;> rfl
  | cons c text ih =>
    rw [escapeChars, List.flatMap_cons, ← escapeChars, List.append_assoc, read?_escaped, ih,
      Option.map_map]
    rfl

/-- An escaped text by itself is read as its own characters. -/
theorem read?_escapeChars_self (o : LikeOption) (text : List Char) :
    read? o.escape (o.escapeChars text) = some (text.map character) := by
  have hread := o.read?_escapeChars text []
  rw [List.append_nil] at hread
  rw [hread, read?, Option.map_some, List.append_nil]

/-- An escaped text is read as its own characters also with a sequence behind it. -/
theorem read?_escapeChars_sequence {o : LikeOption} (h : o.escape ≠ '%') (text : List Char) :
    read? o.escape (o.escapeChars text ++ ['%']) = some (text.map character ++ [sequence]) := by
  rw [read?_escapeChars, read?_cons h.symm]
  rfl

/-- The pattern of a text is valid, and it matches the texts that its kind asks for and no others.
With wildcards around the text the escape character must not be that wildcard. -/
theorem apply_matches (o : LikeOption) (h : o.escape ≠ '%' ∨ o.kind = .exact) (text : String) :
    ∃ parts, read? o.escape (o.apply text).toList = some parts ∧
      ∀ found : String, Matches parts found.toList ↔ o.kind.Asks text.toList found.toList := by
  rw [apply, String.toList_ofList, pattern]
  cases hkind : o.kind with
  | startsWith =>
    -- The wildcards are added unescaped, and read as such unless the escape is one.
    have hescape := h.resolve_right (by rw [hkind]; nofun)
    exact ⟨_, read?_escapeChars_sequence hescape text.toList, fun found => matches_start_iff⟩
  | contains =>
    have hescape := h.resolve_right (by rw [hkind]; nofun)
    refine ⟨sequence :: (text.toList.map character ++ [sequence]), ?_, fun found => ?_⟩
    · rw [List.cons_append, read?_cons hescape.symm, read?_escapeChars_sequence hescape]
      rfl
    · -- The text starts some end of the text that is found.
      rw [matches_sequence_iff, LikeKind.Asks, List.infix_iff_prefix_suffix]
      simp only [matches_start_iff, and_comm]
  | endsWith =>
    have hescape := h.resolve_right (by rw [hkind]; nofun)
    refine ⟨sequence :: text.toList.map character, ?_, fun found => ?_⟩
    · rw [read?_cons hescape.symm, read?_escapeChars_self]
      rfl
    · simp only [matches_sequence_iff, matches_text_iff, exists_eq_right, LikeKind.Asks]
  | exact => exact ⟨_, o.read?_escapeChars_self text.toList, fun found => matches_text_iff⟩

/-- The escape character may be a wildcard itself: the one for a single character with every kind,
and the one for a sequence where the pattern has no wildcards. -/
theorem apply_matches_wildcards :
    let underscored : LikeOption := { kind := .contains, escape := '_' }
    let exact : LikeOption := { escape := '%' }
    underscored.apply "5%_" = "%5_%__%" ∧ exact.apply "5%_" = "5%%%_" ∧
    (∃ parts, read? '_' "%5_%__%".toList = some parts ∧
      Matches parts "(5%_)".toList ∧ ¬Matches parts "(5%x)".toList) ∧
    ∃ parts, read? '%' "5%%%_".toList = some parts ∧
      Matches parts "5%_".toList ∧ ¬Matches parts "5%%%_".toList := by
  intro underscored exact
  have hunderscored : underscored.apply "5%_" = "%5_%__%" := by decide
  have hexact : exact.apply "5%_" = "5%%%_" := by decide
  refine ⟨hunderscored, hexact, ?_, ?_⟩
  · obtain ⟨parts, hread, hmatches⟩ := apply_matches underscored (.inl (by decide)) "5%_"
    rw [hunderscored] at hread
    exact ⟨parts, hread, (hmatches "(5%_)").2 ⟨['('], [')'], rfl⟩,
      mt (hmatches "(5%x)").1 (by decide)⟩
  · obtain ⟨parts, hread, hmatches⟩ := apply_matches exact (.inr rfl) "5%_"
    rw [hexact] at hread
    exact ⟨parts, hread, (hmatches "5%_").2 rfl, mt (hmatches "5%%%_").1 (by decide)⟩

end LikeOption

end SqlTemplate
