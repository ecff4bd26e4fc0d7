import Mathlib.Tactic.SplitIfs
import SqlTemplate.Proofs.Outcome
import SqlTemplate.Render.Walk

/-!
# String literals read back

A string that is written as a literal must not get out of its quotes, whatever it holds. The reader
of literals stated here, `Dialect.readLiteral?`, knows the rules of the database and nothing of how
literals are written: it stops at the first quote that is not doubled, and a dialect may let a
backslash escape the next character. `literal_sealed` is that it finds the string again and stops
at the literal's own closing quote, and that this holds of all that a variable embeds in quotes.

Reading goes character by character through what stands for each of them
(`literalTail?_escapeChar`), with the text behind the literal left free.
-/

namespace SqlTemplate

namespace Dialect

variable {α : Type} {d : Dialect}

/-! ## The reader -/

/-- The characters of a literal up to its closing quote, and the text behind that. A doubled quote
stands for one quote; where a backslash escapes, the character behind it stands for itself. -/
def literalTail? (d : Dialect) : List Char → Option (List Char × List Char)
  | [] => none
  | '\'' :: '\'' :: cs => (d.literalTail? cs).map (Prod.map ('\'' :: ·) id)
  | '\'' :: cs => some ([], cs)
  | '\\' :: c :: cs =>
    if d.kind = .mysql then (d.literalTail? cs).map (Prod.map (c :: ·) id)
    else (d.literalTail? (c :: cs)).map (Prod.map ('\\' :: ·) id)
  | c :: cs => (d.literalTail? cs).map (Prod.map (c :: ·) id)

/-- The string of the literal that a text starts with, and the text behind the literal. -/
def readLiteral? (d : Dialect) : List Char → Option (String × List Char)
  | '\'' :: cs => (d.literalTail? cs).map (Prod.map String.ofList id)
  | _ => none

/-- The text is a literal of the string, and the string does not get out of it. -/
structure IsLiteral (d : Dialect) (s : String) (text : List Char) : Prop where
  /-- It is read as the string and to its own end, if no further quote is behind it. -/
  reads : ∀ behind : List Char, behind.head? ≠ some '\'' →
    d.readLiteral? (text ++ behind) = some (s, behind)
  /-- Whatever is behind it, no literal that is read ends before its own end. -/
  holds : ∀ (behind : List Char) (found : String) (rest : List Char),
    d.readLiteral? (text ++ behind) = some (found, rest) →
      s.toList <+: found.toList ∧ rest <:+ behind

/-- The text goes on with these literals, a comma and a blank between them, and a parenthesis that
closes the list; `behind` is the text behind that. -/
inductive ReadsItems (d : Dialect) (behind : List Char) : List Char → List String → Prop
  /-- The parenthesis is behind the last literal. -/
  | last {cs : List Char} {s : String} (h : d.readLiteral? cs = some (s, ')' :: behind)) :
      ReadsItems d behind cs [s]
  /-- A comma is behind each other literal. -/
  | more {cs rest : List Char} {s : String} {ss : List String}
      (h : d.readLiteral? cs = some (s, ',' :: ' ' :: rest)) (hrest : ReadsItems d behind rest ss) :
      ReadsItems d behind cs (s :: ss)

/-! ## Literals as they are written -/

/-- What stands for a character is read as that character, whatever text is behind it. -/
theorem literalTail?_escapeChar (d : Dialect) (c : Char) (cs : List Char) :
    d.literalTail? (d.escapeChar c ++ cs) = (d.literalTail? cs).map (Prod.map (c :: ·) id) := by
  unfold escapeChar
  split_ifs with hquote hescape
  · subst hquote
    rfl
  · obtain ⟨rfl, hkind⟩ := hescape
    exact if_pos hkind
  · by_cases hbackslash : c = '\\'
    · subst hbackslash
      -- The backslash is a character like others, and what is behind it is read by itself.
      have hkind : d.kind ≠ .mysql := fun hkind => hescape ⟨rfl, hkind⟩
      cases cs with
      | nil => rfl
      | cons next cs => exact if_neg hkind
    · rw [List.singleton_append, literalTail?]
      · exact fun _ h => absurd h hquote
      · exact hquote
      · exact fun _ _ h => absurd h hbackslash

/-- The characters of a string are read one after the other. -/
theorem literalTail?_flatMap (d : Dialect) (s cs : List Char) :
    d.literalTail? (s.flatMap d.escapeChar ++ cs) =
      (d.literalTail? cs).map (Prod.map (s ++ ·) id) := by
  induction s with
  | nil =>
    rw [List.flatMap_nil, List.nil_append]
    cases d.literalTail? cs <;> rfl
  | cons c s ih =>
    rw [List.flatMap_cons, List.append_assoc, literalTail?_escapeChar, ih, Option.map_map]
    rfl

/-- A quote closes the literal unless another one follows. -/
theorem literalTail?_quote (d : Dialect) {behind : List Char} (h : behind.head? ≠ some '\'') :
    d.literalTail? ('\'' :: behind) = some ([], behind) := by
  rw [literalTail?]
  rintro cs rfl
  exact h rfl

/-- A string in its literal is read as it is, and the closing quote with what is behind it. -/
theorem readLiteral?_quote_append (d : Dialect) (s : String) (behind : List Char) :
    d.readLiteral? ((d.quote s).toList ++ behind) =
      (d.literalTail? ('\'' :: behind)).map
        (Prod.map (fun more => s ++ String.ofList more) id) := by
  rw [quote, String.toList_ofList, List.cons_append, List.cons_append, List.append_assoc,
    List.singleton_append, readLiteral?, literalTail?_flatMap, Option.map_map, Prod.map_comp_map]
  congr 2
  funext more
  exact String.ofList_append.trans (by rw [String.ofList_toList])

/-- A mapped answer of a reader comes from an answer with the same rest. -/
theorem exists_of_map_fst {f : List Char → α} {x : Option (List Char × List Char)} {a : α}
    {rest : List Char} (h : x.map (Prod.map f id) = some (a, rest)) :
    ∃ cs, x = some (cs, rest) ∧ f cs = a := by
  obtain ⟨⟨cs, rest'⟩, hx, heq⟩ := Option.map_eq_some_iff.1 h
  obtain ⟨rfl, rfl⟩ := Prod.mk.inj heq
  exact ⟨cs, hx, rfl⟩

/-- What is behind a literal is behind the first character of it. -/
theorem suffix_of_literalTail? {cs found rest : List Char}
    (h : d.literalTail? cs = some (found, rest)) : rest <:+ cs.tail := by
  fun_induction literalTail? d cs generalizing found with
  | case1 => exact nomatch h
  -- An escape takes two characters, any other one takes one, and the closing quote ends the
  -- reading.
  | case2 cs ih =>
    obtain ⟨found, hread, -⟩ := exists_of_map_fst h
    exact ((ih hread).trans (List.tail_suffix cs)).trans (List.suffix_cons _ cs)
  | case3 cs =>
    obtain ⟨-, rfl⟩ := Prod.mk.inj (Option.some.inj h)
    exact List.suffix_refl cs
  | case4 c cs hkind ih =>
    obtain ⟨found, hread, -⟩ := exists_of_map_fst h
    exact ((ih hread).trans (List.tail_suffix cs)).trans (List.suffix_cons _ cs)
  | case5 c cs hkind ih | case6 c cs _ _ _ ih =>
    obtain ⟨found, hread, -⟩ := exists_of_map_fst h
    exact (ih hread).trans (List.tail_suffix _)

/-- The literal of a string is one. -/
theorem isLiteral_quote (d : Dialect) (s : String) : d.IsLiteral s (d.quote s).toList := by
  refine ⟨fun behind h => ?_, fun behind found rest h => ?_⟩
  · rw [readLiteral?_quote_append, literalTail?_quote d h]
    simp only [Option.map_some, Prod.map_apply, String.ofList_nil, String.append_empty, id]
  · rw [readLiteral?_quote_append] at h
    obtain ⟨more, htail, rfl⟩ := exists_of_map_fst h
    refine ⟨?_, suffix_of_literalTail? htail⟩
    rw [String.toList_append]
    exact List.prefix_append _ _

/-- The literals of strings in parentheses are read as these strings. -/
theorem readsItems_quote (d : Dialect) {texts : List String} (h : texts ≠ []) (behind : List Char) :
    d.ReadsItems behind ((", ".intercalate (texts.map d.quote) ++ ")").toList ++ behind) texts := by
  induction texts with
  | nil => exact absurd rfl h
  | cons s rest ih =>
    cases rest with
    | nil =>
      rw [List.map_singleton, String.intercalate_singleton, String.toList_append, List.append_assoc]
      exact .last ((isLiteral_quote d s).reads _ (by simp))
    | cons t rest =>
      rw [List.map_cons, List.map_cons, String.intercalate_cons_cons, String.append_assoc,
        String.append_assoc, String.toList_append, String.toList_append, List.append_assoc,
        List.append_assoc]
      exact .more ((isLiteral_quote d s).reads _ (by simp)) (ih (List.cons_ne_nil t rest))

end Dialect

/-! ## Embedded values -/

namespace Variable

variable {v : Variable} {d : Dialect}

/-- In quotes, a value is embedded as the literal of what it is displayed as. -/
theorem eq_of_embeddedText (hquoted : v.test.quoted = true) {value : Value} {text : String}
    (h : v.embeddedText d value = .ok text) : text = d.quote value.display := by
  unfold embeddedText at h
  split_ifs at h
  exact (Except.ok.inj h).symm

/-- In quotes, the elements of a list are embedded as such literals. -/
theorem eq_of_mapM_embeddedText (hquoted : v.test.quoted = true) {values : List Value}
    {texts : List String} (h : values.mapM (v.embeddedText d) = .ok texts) :
    texts = (values.map Value.display).map d.quote := by
  induction values generalizing texts with
  | nil => exact (Except.ok.inj h).symm
  | cons value rest ih =>
    rw [List.mapM_cons] at h
    obtain ⟨text, htext, h⟩ := Outcome.bind_eq_ok.1 h
    obtain ⟨others, hothers, h⟩ := Outcome.bind_eq_ok.1 h
    rw [← Except.ok.inj h, eq_of_embeddedText hquoted htext, ih hothers]
    rfl

/-- In quotes, a string is embedded as its literal; it is no template of its own there. -/
theorem pushEmbedded_string (hquoted : v.test.quoted = true) (hlist : v.test.inList = false)
    (expand : String → Step) (s : String) (b : Buffer) :
    v.pushEmbedded d expand (.string s) b = .ok (b.push (d.quote s)) := by
  have hdemand : v.demand (.string s) = .ok (.scalar (.string s)) := by
    unfold demand
    rw [hlist]
  have htemplate : v.templateText? (.string s) = none := by
    rw [templateText?, hquoted]
    rfl
  have htext : v.embeddedText d (.string s) = .ok (d.quote s) := if_pos hquoted
  rw [pushEmbedded, hdemand]
  dsimp only [bind, Except.bind]
  rw [htemplate, htext]
  rfl

/-- In quotes, a list is embedded as the literals of its elements in parentheses. -/
theorem eq_of_pushEmbedded_list (hquoted : v.test.quoted = true) {expand : String → Step}
    {values : List Value} (hvalues : values ≠ []) {b b' : Buffer}
    (h : v.pushEmbedded d expand (.list values) b = .ok b') :
    b' = b.push ("(" ++ (", ".intercalate ((values.map Value.display).map d.quote) ++ ")")) := by
  obtain ⟨demanded, hdemand, h⟩ := Outcome.bind_eq_ok.1 h
  have hitems : demanded = .items values := by
    unfold demand at hdemand
    cases hlist : v.test.inList with
    | true =>
      rw [hlist] at hdemand
      exact (Except.ok.inj hdemand).symm
    | false =>
      rw [hlist] at hdemand
      exact nomatch hdemand
  -- The size is within the limit, and each element is written by its display.
  rw [hitems] at h
  obtain ⟨_, -, h⟩ := Outcome.bind_eq_ok.1 h
  rw [if_neg (by simpa using hvalues)] at h
  obtain ⟨texts, htexts, h⟩ := Outcome.bind_eq_ok.1 h
  rw [← Except.ok.inj h, eq_of_mapM_embeddedText hquoted htexts, String.append_assoc]

end Variable

namespace Dialect

/-- The literal of a string is read back as that string and no further than to its own closing
quote, and no two strings have one literal. What a variable embeds in quotes is such a literal, or
a list of such literals in parentheses. -/
theorem literal_sealed (d : Dialect) :
    (∀ s : String, d.IsLiteral s (d.quote s).toList) ∧
    Function.Injective d.quote ∧
    ∀ (v : Variable) (expand : Expansion) (scope : Scope) (b : Buffer), v.test.quoted = true →
      (∀ s : String, scope.resolve v.path = .ok (.string s) → v.test.inList = false →
        ∃ written : String, (Node.embedded v).walk d expand scope b = .ok (b.push written) ∧
          d.IsLiteral s written.toList) ∧
      ∀ (values : List Value) (b' : Buffer), scope.resolve v.path = .ok (.list values) →
        values ≠ [] → (Node.embedded v).walk d expand scope b = .ok b' →
        ∃ (written : String) (items : List Char), b' = b.push written ∧
          written.toList = '(' :: items ∧
          ∀ behind, d.ReadsItems behind (items ++ behind) (values.map Value.display) := by
  have hliteral := isLiteral_quote d
  refine ⟨hliteral, fun s t heq => ?_, fun v expand scope b hquoted => ⟨?_, ?_⟩⟩
  · -- Both strings are what is read from the one literal.
    have hs := (hliteral s).reads [] (by simp)
    rw [heq, (hliteral t).reads [] (by simp)] at hs
    exact (Prod.mk.inj (Option.some.inj hs)).1.symm
  · intro s hresolve hlist
    refine ⟨d.quote s, ?_, hliteral s⟩
    rw [Node.walk, Scope.valueOf, hresolve]
    exact v.pushEmbedded_string hquoted hlist (expand v scope) s b
  · intro values b' hresolve hvalues hwalk
    rw [Node.walk, Scope.valueOf, hresolve] at hwalk
    have hdisplays : values.map Value.display ≠ [] := by simpa using hvalues
    refine ⟨_, _, v.eq_of_pushEmbedded_list hquoted hvalues hwalk, ?_,
      readsItems_quote d hdisplays⟩
    rw [String.toList_append]
    rfl

/-- Quotes and backslashes in a string do not end its literal, neither where a backslash escapes
nor in front of a further literal; in a list every element has a literal of its own. -/
theorem literal_sealed_breakout :
    let d : Dialect := { kind := .mysql }
    let s : String := "\\' or ''='\\"
    let test (inList : Bool) : Variable := ⟨⟨"x", []⟩, ⟨"", true, inList⟩, false⟩
    let scope (value : Value) : Scope := ⟨"pmb", { properties := [("x", value)] }, []⟩
    (∃ written : String,
      (Node.embedded (test false)).walk d (expansion d 8) (scope (.string s)) {} =
        .ok (({} : Buffer).push written) ∧
      d.readLiteral? (written.toList ++ " or b".toList) = some (s, " or b".toList)) ∧
    ∃ (written : String) (items : List Char),
      (Node.embedded (test true)).walk d (expansion d 8)
        (scope (.list [.string s, .integer 7, .string "'"])) {} = .ok (({} : Buffer).push written) ∧
      written.toList = '(' :: items ∧ d.ReadsItems [] items [s, "7", "'"] := by
  intro d s test scope
  have hsealed := (literal_sealed d).2.2
  refine ⟨?_, ?_⟩
  · obtain ⟨written, hwalk, hliteral⟩ :=
      (hsealed (test false) (expansion d 8) (scope (.string s)) {} rfl).1 s rfl rfl
    exact ⟨written, hwalk, hliteral.reads _ (by decide)⟩
  · -- The number is written as the literal of what it is displayed as.
    have hwalk : (Node.embedded (test true)).walk d (expansion d 8)
        (scope (.list [.string s, .integer 7, .string "'"])) {} =
          .ok (({} : Buffer).push
            ("(" ++ ", ".intercalate [d.quote s, d.quote "7", d.quote "'"] ++ ")")) := rfl
    obtain ⟨written, items, hwritten, hitems, hreads⟩ :=
      (hsealed (test true) (expansion d 8) _ {} rfl).2 _ _ rfl (by simp) hwalk
    have hread := hreads []
    rw [List.append_nil] at hread
    exact ⟨written, items, hwritten ▸ hwalk, hitems, hread⟩

end Dialect

end SqlTemplate
