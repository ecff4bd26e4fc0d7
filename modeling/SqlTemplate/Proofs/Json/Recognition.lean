import SqlTemplate.Proofs.Json.Grammar
import SqlTemplate.Proofs.Outcome

/-!
# Only what the grammar allows is read

The converse of the reading of texts that the grammar allows: whatever is read without a broken part
is spelled by the text that was read. So a text spells a document if, and only if, it is read as
that document, nothing is left, and the document is well formed (`Document.spelledBy_iff`), which
`skip` asks of it.
-/

namespace SqlTemplate.Json

open Decimal

variable {cs rest : List Char} {after : List Token}

/-! ## Tokens -/

/-- What is read of a string stands between quotes. -/
theorem spells_of_units? {us : List Unit16} (h : units? cs = some (us, rest)) :
    ∃ inner, SpellsUnits inner us ∧ cs = inner ++ '"' :: rest := by
  fun_induction units? cs generalizing us rest with
  | case1 => cases h
  | case2 behind =>
    obtain ⟨rfl, rfl⟩ := Prod.mk.inj (Option.some.inj h)
    exact ⟨[], .nil, rfl⟩
  -- A code of four digits, an escape and a plain character each put one rule in front.
  | case3 a b c d behind n us' after' hrest hcode ih =>
    obtain ⟨rfl, rfl⟩ := Prod.mk.inj (Option.some.inj h)
    obtain ⟨inner, hinner, rfl⟩ := ih hrest
    exact ⟨_, .code hcode hinner, rfl⟩
  | case4 => cases h
  | case5 e behind hne c us' after' hrest hletter ih =>
    obtain ⟨rfl, rfl⟩ := Prod.mk.inj (Option.some.inj h)
    obtain ⟨inner, hinner, rfl⟩ := ih hrest
    exact ⟨_, .letter hletter hinner, rfl⟩
  | case6 => cases h
  | case7 => cases h
  | case8 c behind hquote _ _ hplain us' after' hrest ih =>
    obtain ⟨rfl, rfl⟩ := Prod.mk.inj (Option.some.inj h)
    obtain ⟨inner, hinner, rfl⟩ := ih hrest
    simp only [Bool.or_eq_true, decide_eq_true_eq, beq_iff_eq, not_or, Nat.not_lt] at hplain
    exact ⟨_, .plain hquote hplain.2 hplain.1 hinner, rfl⟩
  | case9 => cases h

/-- Digits that are taken from a text are all of them digits. -/
theorem digits_takeWhile (h : cs.takeWhile Char.isDigit ≠ []) :
    Digits (cs.takeWhile Char.isDigit) :=
  ⟨h, fun _ hc => List.all_eq_true.1 List.all_takeWhile _ hc⟩

/-- The whole part is a run of digits, which starts with zero only if it is zero. -/
theorem digits_of_wholePart? {whole : List Char} (h : wholePart? cs = some (whole, rest)) :
    Digits whole ∧ (whole.head? = some '0' → whole = ['0']) ∧ cs = whole ++ rest := by
  unfold wholePart? at h
  split at h
  · cases h
  · cases h
  · next hsome hzero =>
    obtain ⟨rfl, rfl⟩ := Prod.mk.inj (Option.some.inj h)
    refine ⟨digits_takeWhile hsome, fun hhead => ?_, List.takeWhile_append_dropWhile.symm⟩
    obtain ⟨others, hwhole⟩ := List.head?_eq_some_iff.1 hhead
    cases others with
    | nil => exact hwhole
    | cons d others => exact absurd hwhole (hzero d others)

/-- A fraction that is read is spelled so. -/
theorem spells_of_fractionPart? {fraction : Option (List Char)}
    (h : fractionPart? cs = some (fraction, rest)) :
    ∃ text, SpellsFraction fraction text ∧ cs = text ++ rest := by
  unfold fractionPart? at h
  split at h
  · next cs =>
    split at h
    · cases h
    · next hsome =>
      obtain ⟨rfl, rfl⟩ := Prod.mk.inj (Option.some.inj h)
      refine ⟨_, .some (digits_takeWhile fun hnil => hsome (by rw [hnil]; rfl)), ?_⟩
      rw [List.cons_append, List.takeWhile_append_dropWhile]
  · obtain ⟨rfl, rfl⟩ := Prod.mk.inj (Option.some.inj h)
    exact ⟨[], .none, rfl⟩

/-- What is taken for a sign is one or is nothing. -/
theorem exists_sign (cs : List Char) : ∃ sign, (sign = [] ∨ sign = ['+'] ∨ sign = ['-']) ∧
    (splitSign cs).1 = decide (sign = ['-']) ∧ cs = sign ++ (splitSign cs).2 := by
  unfold splitSign
  split
  · exact ⟨['-'], .inr (.inr rfl), rfl, rfl⟩
  · exact ⟨['+'], .inr (.inl rfl), rfl, rfl⟩
  · exact ⟨[], .inl rfl, rfl, rfl⟩

/-- A power that is read is spelled so. -/
theorem spells_of_powerPart? {power : Option Int} (h : powerPart? cs = some (power, rest)) :
    ∃ text, SpellsPower power text ∧ cs = text ++ rest := by
  unfold powerPart? at h
  split at h
  -- Without a mark there is no power, and nothing is read.
  · obtain ⟨rfl, rfl⟩ := Prod.mk.inj (Option.some.inj h)
    exact ⟨[], .none, rfl⟩
  · next mark cs =>
    split at h
    · next hmark =>
      -- Behind the mark stands a sign or none, and then digits.
      obtain ⟨sign, hsign, hnegative, hcs⟩ := exists_sign cs
      dsimp only at h
      split at h
      · cases h
      · next hsome =>
        obtain ⟨rfl, rfl⟩ := Prod.mk.inj (Option.some.inj h)
        have hdigits := digits_takeWhile fun hnil => hsome (by rw [hnil]; rfl)
        refine ⟨mark :: (sign ++ (splitSign cs).2.takeWhile Char.isDigit), ?_, ?_⟩
        · have hpower := SpellsPower.some hmark hsign hdigits
          rw [hnegative]
          simpa only [decide_eq_true_eq] using hpower
        · rw [List.cons_append, List.append_assoc, List.takeWhile_append_dropWhile, ← hcs]
    · obtain ⟨rfl, rfl⟩ := Prod.mk.inj (Option.some.inj h)
      exact ⟨[], .none, rfl⟩

/-- What is read of a number is that number. -/
theorem spelled_of_numeral? {negative : Bool} {n : Numeral}
    (h : numeral? negative cs = some (n, rest)) :
    ∃ text, n.Spelled ((if negative then ['-'] else []) ++ text) ∧ cs = text ++ rest := by
  unfold numeral? at h
  split at h
  · nomatch h
  · next whole behind hwhole =>
    split at h
    · nomatch h
    · next fraction behind' hfraction =>
      obtain ⟨⟨power, behind''⟩, hpower, heq⟩ := Option.map_eq_some_iff.1 h
      obtain ⟨rfl, rfl⟩ := Prod.mk.inj heq
      -- The parts follow one another, and the text is that of all three.
      obtain ⟨hdigits, hzero, rfl⟩ := digits_of_wholePart? hwhole
      obtain ⟨fractionText, hspelled, rfl⟩ := spells_of_fractionPart? hfraction
      obtain ⟨powerText, hspelled', rfl⟩ := spells_of_powerPart? hpower
      refine ⟨whole ++ (fractionText ++ powerText), ?_, ?_⟩
      · exact ⟨fractionText, powerText, hdigits, hzero, hspelled, hspelled', rfl⟩
      · rw [List.append_assoc, List.append_assoc]

/-- The text is the token. -/
def Token.Spelled : Token → List Char → Prop
  | .null, cs => cs = "null".toList
  | .bool true, cs => cs = "true".toList
  | .bool false, cs => cs = "false".toList
  | .number n, cs => n.Spelled cs
  | .string s, cs => SpellsString s cs
  | .openArray, cs => cs = ['[']
  | .closeArray, cs => cs = [']']
  | .openObject, cs => cs = ['\x7b']
  | .closeObject, cs => cs = ['\x7d']
  | .comma, cs => cs = [',']
  | .colon, cs => cs = [':']
  | .broken, _ => False

/-- What is read as a word starts with the rest of it. -/
theorem eq_of_word? {tail : String} {t : Token} {found : Option (Token × List Char)}
    (h : word? tail t cs = found) {t' : Token} (hread : orBroken found = (t', rest))
    (ht : t' ≠ .broken) : t' = t ∧ cs = tail.toList ++ rest := by
  unfold word? at h
  split at h
  · next hprefix =>
    subst h
    obtain ⟨rfl, rfl⟩ := Prod.mk.inj hread
    obtain ⟨behind, rfl⟩ := List.isPrefixOf_iff_prefix.1 hprefix
    rw [← String.length_toList, List.drop_left]
    exact ⟨rfl, rfl⟩
  · subst h
    exact absurd (congrArg Prod.fst hread).symm ht

/-- A token that is found at all is read as it was found. -/
theorem found_of_orBroken {α : Type} {found : Option (α × List Char)} (token : α → Token)
    {t : Token} (h : orBroken (found.map fun (a, behind) => (token a, behind)) = (t, rest))
    (ht : t ≠ .broken) : ∃ a, found = some (a, rest) ∧ t = token a := by
  cases found with
  | none => exact absurd (congrArg Prod.fst h).symm ht
  | some result =>
    obtain ⟨rfl, rfl⟩ := Prod.mk.inj h
    exact ⟨result.1, rfl, rfl⟩

/-- Whatever is read is spelled by the text that was read. -/
theorem spelled_of_read {c : Char} {t : Token} (h : read c cs = (t, rest)) (ht : t ≠ .broken) :
    ∃ text, t.Spelled text ∧ c :: cs = text ++ rest := by
  unfold read at h
  split at h
  -- The six marks are spelled by themselves, and the three words by their letters.
  iterate 6
    obtain ⟨rfl, rfl⟩ := Prod.mk.inj h
    exact ⟨_, rfl, rfl⟩
  iterate 3
    obtain ⟨rfl, rfl⟩ := eq_of_word? rfl h ht
    exact ⟨_, rfl, rfl⟩
  · obtain ⟨us, hunits, rfl⟩ :=
      found_of_orBroken (fun us => .string ((decode? us).map String.ofList)) h ht
    obtain ⟨inner, hinner, rfl⟩ := spells_of_units? hunits
    exact ⟨_, ⟨inner, us, hinner, rfl, rfl⟩, by simp⟩
  · obtain ⟨n, hnumeral, rfl⟩ := found_of_orBroken .number h ht
    obtain ⟨text, htext, rfl⟩ := spelled_of_numeral? hnumeral
    exact ⟨_, htext, rfl⟩
  · obtain ⟨n, hnumeral, rfl⟩ := found_of_orBroken .number h ht
    exact spelled_of_numeral? hnumeral

/-- A text without tokens is blank. -/
theorem blanks_of_scan (h : scan cs = []) : Blanks cs := by
  fun_induction scan cs with
  | case1 => exact blanks_nil
  | case2 c cs hspace ih => exact List.forall_mem_cons.2 ⟨hspace, ih h⟩
  | case3 => nomatch h

/-- A token is spelled by the text behind the blanks in front of it. -/
theorem spelled_of_scan {t : Token} (h : scan cs = t :: after) (ht : t ≠ .broken) :
    ∃ blanks text rest, Blanks blanks ∧ t.Spelled text ∧ cs = blanks ++ (text ++ rest) ∧
      after = scan rest := by
  fun_induction scan cs with
  | case1 => nomatch h
  | case2 c cs hspace ih =>
    obtain ⟨blanks, text, rest, hblanks, htext, rfl, rfl⟩ := ih h
    exact ⟨c :: blanks, text, rest, List.forall_mem_cons.2 ⟨hspace, hblanks⟩, htext, rfl, rfl⟩
  | case3 c cs =>
    obtain ⟨rfl, rfl⟩ := List.cons.inj h
    obtain ⟨text, htext, hcs⟩ := spelled_of_read rfl ht
    exact ⟨[], text, _, blanks_nil, htext, hcs, rfl⟩

/-! ## Trees -/

/-- The tokens that a document is read from. -/
theorem Document.ofTokens_inv {tokens : List Token} {d : Document}
    (h : Document.ofTokens tokens = (d, after)) :
    match d with
    | .null => tokens = .null :: after
    | .bool b => tokens = .bool b :: after
    | .number n => tokens = .number n :: after
    | .string s => tokens = .string s :: after
    | .array items =>
      ∃ inside, tokens = .openArray :: inside ∧ (Items.ofTokens inside).val = (items, after)
    | .object members =>
      ∃ inside, tokens = .openObject :: inside ∧ (Members.ofTokens inside).val = (members, after)
    | .broken => True := by
  cases tokens with
  | nil =>
    obtain ⟨rfl, rfl⟩ := Prod.mk.inj h
    trivial
  | cons t rest =>
    rw [Document.ofTokens] at h
    cases t <;> simp only [Document.ofToken, Prod.mk.injEq] at h <;> obtain ⟨rfl, rfl⟩ := h
    case openArray | openObject => exact ⟨rest, rfl, rfl⟩
    all_goals trivial

/-- The tokens that the items of an array are read from. -/
theorem Items.ofTokens_inv {tokens : List Token} {items : Items}
    (h : (Items.ofTokens tokens).val = (items, after)) :
    match items with
    | .done => tokens = .closeArray :: after
    | .cons item rest => ∃ between, Document.ofTokens tokens = (item, between) ∧
        (Items.further between).val = (rest, after)
    | .broken => True := by
  unfold Items.ofTokens at h
  split at h
  · obtain ⟨rfl, rfl⟩ := Prod.mk.inj h
    rfl
  · next t rest _ =>
    obtain ⟨rfl, rfl⟩ := Prod.mk.inj h
    exact ⟨_, rfl, rfl⟩
  · obtain ⟨rfl, rfl⟩ := Prod.mk.inj h
    trivial

/-- The tokens that the items behind another one are read from. -/
theorem Items.further_inv {tokens : List Token} {items : Items}
    (h : (Items.further tokens).val = (items, after)) :
    match items with
    | .done => tokens = .closeArray :: after
    | .cons item rest => ∃ behind between, tokens = .comma :: behind ∧
        Document.ofTokens behind = (item, between) ∧ (Items.further between).val = (rest, after)
    | .broken => True := by
  unfold Items.further at h
  split at h
  · obtain ⟨rfl, rfl⟩ := Prod.mk.inj h
    rfl
  · next t rest =>
    obtain ⟨rfl, rfl⟩ := Prod.mk.inj h
    exact ⟨_, _, rfl, rfl, rfl⟩
  · obtain ⟨rfl, rfl⟩ := Prod.mk.inj h
    trivial

/-- The tokens that a member and those behind it are read from. -/
theorem Members.entry_inv {tokens : List Token} {members : Members}
    (h : (Members.entry tokens).val = (members, after)) :
    match members with
    | .done => False
    | .cons name value rest => value = .broken ∨ ∃ behind between,
        tokens = .string name :: .colon :: behind ∧ Document.ofTokens behind = (value, between) ∧
          (Members.further between).val = (rest, after)
    | .broken => True := by
  unfold Members.entry at h
  split at h
  · obtain ⟨rfl, rfl⟩ := Prod.mk.inj h
    exact .inr ⟨_, _, rfl, rfl, rfl⟩
  · obtain ⟨rfl, rfl⟩ := Prod.mk.inj h
    exact .inl rfl
  · obtain ⟨rfl, rfl⟩ := Prod.mk.inj h
    trivial

/-- The tokens that the members of an object are read from. -/
theorem Members.ofTokens_inv {tokens : List Token} {members : Members}
    (h : (Members.ofTokens tokens).val = (members, after)) :
    match members with
    | .done => tokens = .closeObject :: after
    | _ => (Members.entry tokens).val = (members, after) := by
  unfold Members.ofTokens at h
  split at h
  · obtain ⟨rfl, rfl⟩ := Prod.mk.inj h
    rfl
  · cases members with
    | done => exact (Members.entry_inv h).elim
    | cons | broken => exact h

/-- The tokens that the members behind another one are read from. -/
theorem Members.further_inv {tokens : List Token} {members : Members}
    (h : (Members.further tokens).val = (members, after)) :
    match members with
    | .done => tokens = .closeObject :: after
    | .cons .. => ∃ behind, tokens = .comma :: behind ∧
        (Members.entry behind).val = (members, after)
    | .broken => True := by
  unfold Members.further at h
  split at h
  · obtain ⟨rfl, rfl⟩ := Prod.mk.inj h
    rfl
  · cases members with
    | done => exact (Members.entry_inv h).elim
    | cons => exact ⟨_, rfl, h⟩
    | broken => trivial
  · obtain ⟨rfl, rfl⟩ := Prod.mk.inj h
    trivial

/-! ## Texts -/

/-- The text starts with one of a kind, behind blanks, and these are the tokens of what follows. -/
def Leads (spelled : List Char → Prop) (cs : List Char) (after : List Token) : Prop :=
  ∃ blanks text rest, Blanks blanks ∧ spelled text ∧ cs = blanks ++ (text ++ rest) ∧
    after = scan rest

/-- Behind blanks comes one of a kind, which a mark closes. -/
def Closes (mark : Char) (spelled : List Char → Prop) : List Char → List Token → Prop :=
  Leads fun text => ∃ inside, spelled inside ∧ text = inside ++ [mark]

/-- The first item stands between blanks, and behind it the others. -/
theorem Items.spelled_cons {item : Document} {items : Items}
    (hitem : ∀ {cs after}, Document.ofTokens (scan cs) = (item, after) →
      Leads item.Spelled cs after)
    (hitems : ∀ {cs after}, (Items.further (scan cs)).val = (items, after) →
      Closes ']' (items.Spelled [',']) cs after)
    {between : List Token} (hfirst : Document.ofTokens (scan cs) = (item, between))
    (hfurther : (Items.further between).val = (items, after)) (start : List Char) :
    ∃ inside rest, (Items.cons item items).Spelled start (start ++ inside) ∧
      cs = inside ++ ']' :: rest ∧ after = scan rest := by
  obtain ⟨before, inner, behind, hbefore, hinner, rfl, rfl⟩ := hitem hfirst
  obtain ⟨gap, _, rest, hgap, ⟨others, hothers, rfl⟩, rfl, rfl⟩ := hitems hfurther
  have htext : Padded item.Spelled (before ++ (inner ++ gap)) :=
    ⟨before, inner, gap, hbefore, hinner, hgap, rfl⟩
  exact ⟨_, rest, ⟨_, others, htext, hothers, rfl⟩, by simp, rfl⟩

/-- The first member is a name and a value between blanks, and behind it come the others. -/
theorem Members.spelled_cons {name : Option String} {value : Document} {members : Members}
    (hwhole : value ≠ .broken)
    (hvalue : ∀ {cs after}, Document.ofTokens (scan cs) = (value, after) →
      Leads value.Spelled cs after)
    (hmembers : ∀ {cs after}, (Members.further (scan cs)).val = (members, after) →
      Closes '\x7d' (members.Spelled [',']) cs after)
    (h : (Members.entry (scan cs)).val = (.cons name value members, after)) (start : List Char) :
    ∃ inside rest, (Members.cons name value members).Spelled start (start ++ inside) ∧
      cs = inside ++ '\x7d' :: rest ∧ after = scan rest := by
  rcases Members.entry_inv h with hbroken | ⟨behind, between, hname, hfirst, hfurther⟩
  · exact absurd hbroken hwhole
  obtain ⟨front, string, _, hfront, hstring, rfl, hcolon⟩ := spelled_of_scan hname nofun
  obtain ⟨back, mark, _, hback, hmark, rfl, rfl⟩ := spelled_of_scan hcolon.symm nofun
  obtain rfl : mark = [':'] := hmark
  obtain ⟨before, inner, _, hbefore, hinner, rfl, rfl⟩ := hvalue hfirst
  obtain ⟨gap, _, rest, hgap, ⟨others, hothers, rfl⟩, rfl, rfl⟩ := hmembers hfurther
  have hkey : Padded (SpellsString name) (front ++ (string ++ back)) :=
    ⟨front, string, back, hfront, hstring, hback, rfl⟩
  have htext : Padded value.Spelled (before ++ (inner ++ gap)) :=
    ⟨before, inner, gap, hbefore, hinner, hgap, rfl⟩
  exact ⟨_, rest, ⟨_, _, others, hkey, htext, hothers, rfl⟩, by simp, rfl⟩

/-- What is well formed is not broken. -/
theorem Document.ne_broken_of_skip {d : Document} (h : d.skip = .ok ()) : d ≠ .broken := by
  rintro rfl
  nomatch h

-- The induction is on the document that was read. The blanks in front of a comma or of an end
-- belong to what stands before them, and are left to it.
mutual

/-- A document that is read without a broken part is spelled by the text that it was read from. -/
theorem Document.leads : (d : Document) → d.skip = .ok () → {cs : List Char} →
    {after : List Token} → Document.ofTokens (scan cs) = (d, after) → Leads d.Spelled cs after
  | .null, _, _, _, h => spelled_of_scan (Document.ofTokens_inv h) nofun
  | .bool true, _, _, _, h => spelled_of_scan (Document.ofTokens_inv h) nofun
  | .bool false, _, _, _, h => spelled_of_scan (Document.ofTokens_inv h) nofun
  | .number _, _, _, _, h => spelled_of_scan (Document.ofTokens_inv h) nofun
  | .string _, _, _, _, h => spelled_of_scan (Document.ofTokens_inv h) nofun
  | .array items, hskip, _, _, h => by
    -- Behind the opening mark stand the items, up to the closing one.
    obtain ⟨inside, hopen, hitems⟩ := Document.ofTokens_inv h
    obtain ⟨blanks, mark, behind, hblanks, hmark, rfl, rfl⟩ := spelled_of_scan hopen nofun
    obtain rfl : mark = ['['] := hmark
    obtain ⟨text, rest, htext, rfl, rfl⟩ := items.spelled_of_ofTokens hskip hitems
    exact ⟨blanks, _, rest, hblanks, ⟨text, htext, rfl⟩, by simp, rfl⟩
  | .object members, hskip, _, _, h => by
    obtain ⟨inside, hopen, hmembers⟩ := Document.ofTokens_inv h
    obtain ⟨blanks, mark, behind, hblanks, hmark, rfl, rfl⟩ := spelled_of_scan hopen nofun
    obtain rfl : mark = ['\x7b'] := hmark
    obtain ⟨text, rest, htext, rfl, rfl⟩ := members.spelled_of_ofTokens hskip hmembers
    exact ⟨blanks, _, rest, hblanks, ⟨text, htext, rfl⟩, by simp, rfl⟩
  | .broken, hskip, _, _, _ => nomatch hskip

/-- So are the items of an array. -/
theorem Items.spelled_of_ofTokens : (items : Items) → items.skip = .ok () → {cs : List Char} →
    {after : List Token} → (Items.ofTokens (scan cs)).val = (items, after) →
    ∃ inside rest, items.Spelled [] inside ∧ cs = inside ++ ']' :: rest ∧ after = scan rest
  | .done, _, _, _, h => by
    obtain ⟨blanks, mark, rest, hblanks, hmark, rfl, rfl⟩ :=
      spelled_of_scan (Items.ofTokens_inv h) nofun
    obtain rfl : mark = [']'] := hmark
    exact ⟨blanks, rest, hblanks, rfl, rfl⟩
  | .cons item items, hskip, _, _, h => by
    obtain ⟨_, hitem, hitems⟩ := Outcome.bind_eq_ok.1 hskip
    obtain ⟨between, hfirst, hfurther⟩ := Items.ofTokens_inv h
    exact Items.spelled_cons (item.leads hitem) (items.closes hitems) hfirst hfurther []
  | .broken, hskip, _, _, _ => nomatch hskip

/-- So are the items of an array behind one of them. -/
theorem Items.closes : (items : Items) → items.skip = .ok () → {cs : List Char} →
    {after : List Token} → (Items.further (scan cs)).val = (items, after) →
    Closes ']' (items.Spelled [',']) cs after
  | .done, _, _, _, h => by
    obtain ⟨blanks, mark, rest, hblanks, hmark, rfl, rfl⟩ :=
      spelled_of_scan (Items.further_inv h) nofun
    obtain rfl : mark = [']'] := hmark
    exact ⟨blanks, _, rest, hblanks, ⟨[], blanks_nil, rfl⟩, rfl, rfl⟩
  | .cons item items, hskip, _, _, h => by
    obtain ⟨_, hitem, hitems⟩ := Outcome.bind_eq_ok.1 hskip
    obtain ⟨behind, between, hcomma, hfirst, hfurther⟩ := Items.further_inv h
    obtain ⟨gap, mark, _, hgap, hmark, rfl, rfl⟩ := spelled_of_scan hcomma nofun
    obtain rfl : mark = [','] := hmark
    obtain ⟨inside, rest, hinside, rfl, rfl⟩ :=
      Items.spelled_cons (item.leads hitem) (items.closes hitems) hfirst hfurther [',']
    exact ⟨gap, _, rest, hgap, ⟨_, hinside, rfl⟩, by simp, rfl⟩
  | .broken, hskip, _, _, _ => nomatch hskip

/-- So are the members of an object. -/
theorem Members.spelled_of_ofTokens : (members : Members) → members.skip = .ok () →
    {cs : List Char} → {after : List Token} →
    (Members.ofTokens (scan cs)).val = (members, after) →
    ∃ inside rest, members.Spelled [] inside ∧ cs = inside ++ '\x7d' :: rest ∧ after = scan rest
  | .done, _, _, _, h => by
    obtain ⟨blanks, mark, rest, hblanks, hmark, rfl, rfl⟩ :=
      spelled_of_scan (Members.ofTokens_inv h) nofun
    obtain rfl : mark = ['\x7d'] := hmark
    exact ⟨blanks, rest, hblanks, rfl, rfl⟩
  | .cons name value members, hskip, _, _, h => by
    obtain ⟨_, hvalue, hmembers⟩ := Outcome.bind_eq_ok.1 hskip
    exact Members.spelled_cons (Document.ne_broken_of_skip hvalue) (value.leads hvalue)
      (members.closes hmembers) (Members.ofTokens_inv h) []
  | .broken, hskip, _, _, _ => nomatch hskip

/-- So are the members of an object behind one of them. -/
theorem Members.closes : (members : Members) → members.skip = .ok () → {cs : List Char} →
    {after : List Token} → (Members.further (scan cs)).val = (members, after) →
    Closes '\x7d' (members.Spelled [',']) cs after
  | .done, _, _, _, h => by
    obtain ⟨blanks, mark, rest, hblanks, hmark, rfl, rfl⟩ :=
      spelled_of_scan (Members.further_inv h) nofun
    obtain rfl : mark = ['\x7d'] := hmark
    exact ⟨blanks, _, rest, hblanks, ⟨[], blanks_nil, rfl⟩, rfl, rfl⟩
  | .cons name value members, hskip, _, _, h => by
    obtain ⟨_, hvalue, hmembers⟩ := Outcome.bind_eq_ok.1 hskip
    -- A comma, with blanks before it, leads to the next entry and the further ones.
    obtain ⟨behind, hcomma, hentry⟩ := Members.further_inv h
    obtain ⟨gap, mark, _, hgap, hmark, rfl, rfl⟩ := spelled_of_scan hcomma nofun
    obtain rfl : mark = [','] := hmark
    obtain ⟨inside, rest, hinside, rfl, rfl⟩ :=
      Members.spelled_cons (Document.ne_broken_of_skip hvalue) (value.leads hvalue)
        (members.closes hmembers) hentry [',']
    exact ⟨gap, _, rest, hgap, ⟨_, hinside, rfl⟩, by simp, rfl⟩
  | .broken, hskip, _, _, _ => nomatch hskip

end

mutual

/-- What the grammar allows is well formed. -/
theorem Document.skip_of_spelled : (d : Document) → {cs : List Char} → d.Spelled cs →
    d.skip = .ok ()
  | .null, _, _ | .bool _, _, _ | .number _, _, _ | .string _, _, _ => rfl
  | .array items, _, ⟨_, h, _⟩ => items.skip_of_spelled h
  | .object members, _, ⟨_, h, _⟩ => members.skip_of_spelled h
  | .broken, _, h => h.elim

/-- Items that are spelled are well formed. -/
theorem Items.skip_of_spelled : (items : Items) → {start cs : List Char} →
    items.Spelled start cs → items.skip = .ok ()
  | .done, _, _, _ => rfl
  | .cons item rest, _, _, ⟨_, _, ⟨_, _, _, _, hitem, _⟩, hrest, _⟩ =>
    Outcome.bind_eq_ok.2 ⟨(), item.skip_of_spelled hitem, rest.skip_of_spelled hrest⟩
  | .broken, _, _, h => h.elim

/-- Members that are spelled are well formed. -/
theorem Members.skip_of_spelled : (members : Members) → {start cs : List Char} →
    members.Spelled start cs → members.skip = .ok ()
  | .done, _, _, _ => rfl
  | .cons _ value rest, _, _, ⟨_, _, _, _, ⟨_, _, _, _, hvalue, _⟩, hrest, _⟩ =>
    Outcome.bind_eq_ok.2 ⟨(), value.skip_of_spelled hvalue, rest.skip_of_spelled hrest⟩
  | .broken, _, _, h => h.elim

end

/-- A text spells a document if it is read as that document, with nothing left and no part broken,
and only then. -/
theorem Document.spelledBy_iff {d : Document} {text : String} :
    d.SpelledBy text ↔ Document.ofText text = (d, []) ∧ d.skip = .ok () := by
  constructor
  · intro h
    refine ⟨Document.ofText_of_spelledBy h, ?_⟩
    obtain ⟨_, _, _, _, hinner, _⟩ := h
    exact d.skip_of_spelled hinner
  · rintro ⟨hread, hskip⟩
    obtain ⟨before, inner, behind, hbefore, hinner, htext, hend⟩ := d.leads hskip hread
    exact ⟨before, inner, behind, hbefore, hinner, blanks_of_scan hend.symm, htext⟩

end SqlTemplate.Json
