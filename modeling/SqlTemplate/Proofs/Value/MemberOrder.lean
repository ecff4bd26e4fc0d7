import SqlTemplate.Parameters.Json
import SqlTemplate.Proofs.Json.Order
import SqlTemplate.Proofs.Json.Printed
import SqlTemplate.Proofs.Json.Recognition
import SqlTemplate.Proofs.Value.RoundTrip

/-!
# Values and the order of members

The order of the members of an object matters in one respect only: a first member that stands for a
date or timestamp must be the only one (`Members.WellTagged`). A text with an object that is not
tagged well is refused (`exists_spelledBy_of_read`), and two texts without one that differ in the
order of members are both refused, or are read as the same value (`read_reordered`).

Between two such orders there may be others that are not tagged well, so the readings of the two
are not compared step by step. Both are compared with one that does not look at the order at all
(`gather`): it takes an object for a date or timestamp only if it has one member.
-/

namespace SqlTemplate

open Json (Document Items Members ReadError Decoder)

/-- A first member that stands for a date or timestamp is the only one. -/
def Json.Members.WellTagged : Members → Prop
  | .cons (some name) _ rest => name = Value.dateKey ∨ name = Value.timestampKey → rest = .done
  | _ => True

/-- The first constructor decides. -/
instance : (members : Members) → Decidable (members = .done)
  | .done => .isTrue rfl
  | .cons .. | .broken => .isFalse nofun

/-- The first name and the end of the members decide. -/
instance : (members : Members) → Decidable members.WellTagged
  | .cons (some name) _ rest =>
    inferInstanceAs (Decidable (name = Value.dateKey ∨ name = Value.timestampKey → rest = .done))
  | .cons none _ _ | .done | .broken => .isTrue trivial

/-- Every object in the document is tagged well. -/
def Json.Document.WellTagged (d : Document) : Prop :=
  ∀ members ∈ d.objects, members.WellTagged

/-- Each object is looked at. -/
instance (d : Document) : Decidable d.WellTagged :=
  inferInstanceAs (Decidable (∀ members ∈ d.objects, members.WellTagged))

/-- Every object in the document is, but for the document itself. -/
def Json.Document.WellTaggedInside : Document → Prop
  | .object members => ∀ inner ∈ members.objects, inner.WellTagged
  | d => d.WellTagged

namespace Value

/-! ## What is accepted -/

/-- A calendar text is a string, and the only member. -/
theorem eq_of_ofCalendar {α : Type} {read : String → Except CalendarError α} {value : α → Value}
    {text : Document} {rest : Members} {v : Value} (h : ofCalendar read value text rest = .ok v) :
    (∃ s, text = .string (some s)) ∧ rest = .done := by
  obtain ⟨s, hs, h⟩ := Outcome.bind_eq_ok.1 h
  refine ⟨⟨s, ?_⟩, ?_⟩
  -- Only a string is read as a text, and the object has to end behind it.
  · unfold Decoder.string at hs
    split at hs
    · obtain rfl := Except.ok.inj hs
      rfl
    · obtain ⟨shape, -, hs⟩ := Outcome.bind_eq_ok.1 hs
      nomatch hs
  · split at h
    · nomatch h
    · rfl
    · nomatch h

/-- A date or timestamp is the only member, and its text is a string. -/
theorem eq_of_tagged? {members : Members} {v : Value} (h : tagged? members = some (.ok v)) :
    ∃ name s, members = .cons name (.string (some s)) .done := by
  unfold tagged? at h
  split at h
  · split_ifs at h
    all_goals
      obtain ⟨⟨s, rfl⟩, rfl⟩ := eq_of_ofCalendar (Option.some.inj h)
      exact ⟨_, s, rfl⟩
  · nomatch h

mutual

/-- A document that is accepted is well formed, and every object in it is tagged well. -/
theorem accepted_of_ofDocument {room : Nat} {v : Value} : (d : Document) →
    ofDocument room d = .ok v → d.skip = .ok () ∧ d.WellTagged
  | .null, _ | .bool _, _ | .number _, _ | .string _, _ => ⟨rfl, nofun⟩
  | .broken, h => nomatch h
  | .array items, h => by
    unfold ofDocument at h
    split_ifs at h
    obtain ⟨values, hvalues, -⟩ := Outcome.bind_eq_ok.1 h
    exact accepted_of_ofItems items hvalues
  | .object members, h => by
    unfold ofDocument at h
    split_ifs at h
    split at h
    · next result htagged =>
      -- A calendar value has its name and its text, and nothing else.
      obtain ⟨name, s, rfl⟩ := eq_of_tagged? (htagged.trans (congrArg some h))
      refine ⟨rfl, List.forall_mem_cons.2 ⟨?_, nofun⟩⟩
      cases name with
      | none => trivial
      | some name => exact fun _ => rfl
    · next htagged =>
      obtain ⟨entries, hentries, -⟩ := Outcome.bind_eq_ok.1 h
      obtain ⟨hskip, hvalues⟩ := accepted_of_ofMembers members hentries
      refine ⟨hskip, List.forall_mem_cons.2 ⟨?_, hvalues⟩⟩
      cases members with
      | done | broken => trivial
      | cons name value rest =>
        cases name with
        | none => trivial
        | some name =>
          -- No other name than those two tags an object.
          obtain ⟨hdate, htimestamp⟩ := tagged?_eq_none_iff.1 htagged
          exact fun h => (h.elim hdate htimestamp).elim

/-- So are items, and every object in them is tagged well. -/
theorem accepted_of_ofItems {room : Nat} {values : List Value} : (items : Items) →
    ofItems room items = .ok values →
    items.skip = .ok () ∧ ∀ members ∈ items.objects, members.WellTagged
  | .done, _ => ⟨rfl, nofun⟩
  | .broken, h => nomatch h
  | .cons item rest, h => by
    obtain ⟨v, hv, h⟩ := Outcome.bind_eq_ok.1 h
    obtain ⟨others, hothers, -⟩ := Outcome.bind_eq_ok.1 h
    obtain ⟨hskip, htagged⟩ := accepted_of_ofDocument item hv
    obtain ⟨hskip', htagged'⟩ := accepted_of_ofItems rest hothers
    exact ⟨Outcome.bind_eq_ok.2 ⟨(), hskip, hskip'⟩, List.forall_mem_append.2 ⟨htagged, htagged'⟩⟩

/-- So are the values of members. -/
theorem accepted_of_ofMembers {room : Nat} {entries : List (String × Value)} :
    (members : Members) → ofMembers room members = .ok entries →
    members.skip = .ok () ∧ ∀ inner ∈ members.objects, inner.WellTagged
  | .done, _ => ⟨rfl, nofun⟩
  | .broken, h | .cons none _ _, h => nomatch h
  | .cons (some name) value rest, h => by
    obtain ⟨v, hv, h⟩ := Outcome.bind_eq_ok.1 h
    obtain ⟨others, hothers, -⟩ := Outcome.bind_eq_ok.1 h
    obtain ⟨hskip, htagged⟩ := accepted_of_ofDocument value hv
    obtain ⟨hskip', htagged'⟩ := accepted_of_ofMembers rest hothers
    exact ⟨Outcome.bind_eq_ok.2 ⟨(), hskip, hskip'⟩, List.forall_mem_append.2 ⟨htagged, htagged'⟩⟩

end

/-- A text that is accepted is allowed by the grammar, and every object in it is tagged well. -/
theorem exists_spelledBy_of_read {text : String} {v : Value} (h : decoder.read text = .ok v) :
    ∃ d : Document, d.SpelledBy text ∧ d.WellTagged := by
  unfold Decoder.read at h
  cases hread : Document.ofText text with
  | mk document rest =>
    rw [hread] at h
    obtain ⟨value, hvalue, h⟩ := Outcome.bind_eq_ok.1 h
    obtain ⟨hskip, htagged⟩ := accepted_of_ofDocument document hvalue
    cases rest with
    | nil => exact ⟨document, Document.spelledBy_iff.2 ⟨hread, hskip⟩, htagged⟩
    | cons t rest => nomatch h

/-! ## A reading without regard to the order -/

/-- The date or timestamp that members stand for, if there is only one and it says that they do. -/
def soleTagged? : Members → Option (Except ReadError Value)
  | .cons name text .done => tagged? (.cons name text .done)
  | _ => none

/-- A member of a name, which must be a text. -/
def named : Option String → Except ReadError Value → Except ReadError (String × Value)
  | some name, value => value.map (name, ·)
  | none, _ => .error .malformed

mutual

/-- Takes a value out of a document, wherever its members stand. -/
def gather (room : Nat) : Document → Except ReadError Value
  | .array items =>
    if room = 0 then .error .malformed
    else do return .list (← gatherItems (room - 1) items)
  | .object members =>
    if room = 0 then .error .malformed
    else
      match soleTagged? members with
      | some result => result
      | none => do return .object (NameMap.ofEntries (← gatherMembers (room - 1) members))
  | d => ofDocument room d

/-- Takes the items of an array in this way. -/
def gatherItems (room : Nat) : Items → Except ReadError (List Value)
  | .done => .ok []
  | .cons item rest => do return (← gather room item) :: (← gatherItems room rest)
  | .broken => .error .malformed

/-- Takes the members of an object in this way. -/
def gatherMembers (room : Nat) : Members → Except ReadError (List (String × Value))
  | .done => .ok []
  | .cons name value rest => do
    return (← named name (gather room value)) :: (← gatherMembers room rest)
  | .broken => .error .malformed

end

/-- Members that are tagged well are tagged only if there is one. -/
theorem tagged?_eq_soleTagged? {members : Members} (h : members.WellTagged) :
    tagged? members = soleTagged? members := by
  unfold soleTagged?
  split
  · rfl
  · next hsole =>
    cases members with
    | done | broken => rfl
    | cons name text rest =>
      -- A name that tags would be the only one of a well tagged object.
      have hrest : rest ≠ .done := fun hdone => hsole name text (by rw [hdone])
      cases name with
      | none => rfl
      | some name =>
        exact tagged?_eq_none_iff.2 ⟨fun hdate => hrest (h (.inl hdate)),
          fun htimestamp => hrest (h (.inr htimestamp))⟩

mutual

/-- A document that is tagged well is read as if the order of its members did not matter. -/
theorem ofDocument_eq_gather : (d : Document) → d.WellTagged → (room : Nat) →
    ofDocument room d = gather room d
  | .null, _, _ | .bool _, _, _ | .number _, _, _ | .string _, _, _ | .broken, _, _ => rfl
  | .array items, h, room => by
    rw [ofDocument, gather, ofItems_eq_gatherItems items h]
  | .object members, h, room => by
    obtain ⟨hmembers, hvalues⟩ := List.forall_mem_cons.1 h
    rw [gather, ← tagged?_eq_soleTagged? hmembers, ← ofMembers_eq_gatherMembers members hvalues]
    rfl

/-- Items are read alike without regard to the order. -/
theorem ofItems_eq_gatherItems : (items : Items) →
    (∀ members ∈ items.objects, members.WellTagged) → (room : Nat) →
    ofItems room items = gatherItems room items
  | .done, _, _ | .broken, _, _ => rfl
  | .cons item rest, h, room => by
    obtain ⟨hitem, hrest⟩ := List.forall_mem_append.1 h
    rw [ofItems, gatherItems, ofDocument_eq_gather item hitem, ofItems_eq_gatherItems rest hrest]

/-- So are members. -/
theorem ofMembers_eq_gatherMembers : (members : Members) →
    (∀ inner ∈ members.objects, inner.WellTagged) → (room : Nat) →
    ofMembers room members = gatherMembers room members
  | .done, _, _ | .broken, _, _ | .cons none _ _, _, _ => rfl
  | .cons (some name) value rest, h, room => by
    obtain ⟨hvalue, hrest⟩ := List.forall_mem_append.1 h
    rw [ofMembers, gatherMembers, ofDocument_eq_gather value hvalue,
      ofMembers_eq_gatherMembers rest hrest]
    cases gather room value <;> rfl

end

/-! ## Two orders -/

/-- All faults are alike: the text is refused. -/
def refused (_ : ReadError) : Unit := ()

/-- Both runs succeed, with related results, or both are refused. -/
abbrev Concur {α β : Type} (R : α → β → Prop) (x : Except ReadError α) (y : Except ReadError β) :
    Prop :=
  Outcome.Agree refused R x y

/-- Outcomes that concur with a third one concur. -/
theorem concur_trans {α : Type} {R : α → α → Prop} (hR : ∀ {a b c}, R a b → R b c → R a c)
    {x y z : Except ReadError α} (h : Concur R x y) (h' : Concur R y z) : Concur R x z := by
  cases h with
  | ok h => cases h' with | ok h' => exact .ok (hR h h')
  | error h => cases h' with | error h' => exact .error (h.trans h')

/-- What is known of the result of the first run may be used to relate the results. -/
theorem concur_of_ok {α β : Type} {R S : α → β → Prop} {x : Except ReadError α}
    {y : Except ReadError β} (h : Concur R x y) (hS : ∀ {a b}, x = .ok a → R a b → S a b) :
    Concur S x y := by
  cases h with
  | ok h => exact .ok (hS rfl h)
  | error h => exact .error h

/-- A string is the same in a document whose members are reordered, for it has none. -/
theorem concur_string {d d' : Document} (h : d.Reordered d') :
    Concur Eq (Decoder.string 0 d) (Decoder.string 0 d') := by
  cases h with
  | refl => exact .refl (fun _ => rfl) _
  | array | object => exact .error rfl

/-- So is a date or timestamp, whose text is a string. -/
theorem concur_ofCalendar {α : Type} {read : String → Except CalendarError α} {value : α → Value}
    {text text' : Document} (h : text.Reordered text') :
    Concur Eq (ofCalendar read value text .done) (ofCalendar read value text' .done) := by
  refine (concur_string h).bind ?_
  rintro s _ rfl
  exact .refl (fun _ => rfl) _

/-- So is what a single member stands for, if it stands for a date or timestamp. -/
theorem rel_tagged? (name : Option String) {text text' : Document} (h : text.Reordered text') :
    Option.Rel (Concur Eq) (tagged? (.cons name text .done))
      (tagged? (.cons name text' .done)) := by
  cases name with
  | none => exact .none
  | some name =>
    rw [tagged?, tagged?]
    split_ifs
    · exact .some (concur_ofCalendar h)
    · exact .some (concur_ofCalendar h)
    · exact .none

/-- Every answer is related to itself. -/
theorem rel_refl {α : Type} {R : α → α → Prop} (hR : ∀ a, R a a) (x : Option α) :
    Option.Rel R x x := by
  cases x with
  | none => exact .none
  | some a => exact .some (hR a)

/-- Answers that are related to a third one are related. -/
theorem rel_trans {α : Type} {R : α → α → Prop} (hR : ∀ {a b c}, R a b → R b c → R a c)
    {x y z : Option α} (h : Option.Rel R x y) (h' : Option.Rel R y z) : Option.Rel R x z := by
  cases h with
  | none => exact h'
  | some h => cases h' with | some h' => exact .some (hR h h')

/-- A member that is followed by others is not the only one. -/
theorem soleTagged?_of_ne {rest : Members} (h : rest ≠ .done) (name : Option String)
    (text : Document) : soleTagged? (.cons name text rest) = none := by
  cases rest with
  | done => exact absurd rfl h
  | cons | broken => rfl

/-- The members of reordered documents are one, or are not one, and stand for the same. -/
theorem rel_soleTagged? {members members' : Members} : members.Reordered members' →
    Option.Rel (Concur Eq) (soleTagged? members) (soleTagged? members')
  | .refl _ => rel_refl (.refl (fun _ => rfl)) _
  | @Members.Reordered.cons name value value' rest rest' hvalue hrest => by
    -- A sole member stays alone, and where there are several none tags the object.
    by_cases hdone : rest = .done
    · obtain rfl := hdone
      obtain rfl := hrest.eq_done_iff.1 rfl
      exact rel_tagged? name hvalue
    · have hdone' : rest' ≠ .done := fun h => hdone (hrest.eq_done_iff.2 h)
      rw [soleTagged?_of_ne hdone, soleTagged?_of_ne hdone']
      exact .none
  | .swap .. => .none
  | .trans h h' =>
    rel_trans (concur_trans fun h h' => h.trans h') (rel_soleTagged? h) (rel_soleTagged? h')

/-- A member that is accepted has a name. -/
theorem eq_of_named {name : Option String} {value : Except ReadError Value} {entry : String × Value}
    (h : named name value = .ok entry) : name = some entry.1 := by
  cases name with
  | none => nomatch h
  | some name =>
    obtain ⟨v, -, rfl⟩ := Outcome.map_eq_ok.1 h
    rfl

/-- The members that are read keep their names. -/
theorem names_of_gatherMembers {room : Nat} {members : Members} {entries : List (String × Value)}
    (h : gatherMembers room members = .ok entries) : NameMap.names entries = members.names := by
  match members with
  | .done =>
    obtain rfl := Except.ok.inj h
    rfl
  | .broken => nomatch h
  | .cons name value rest =>
    obtain ⟨entry, hentry, h⟩ := Outcome.bind_eq_ok.1 h
    obtain ⟨others, hothers, h⟩ := Outcome.bind_eq_ok.1 h
    obtain rfl := Except.ok.inj h
    obtain rfl := eq_of_named hentry
    exact congrArg (entry.1 :: ·) (names_of_gatherMembers hothers)

/-- Members of distinct names that are read in two orders make the same map. -/
theorem concur_ofEntries {room : Nat} {members members' : Members} (hnames : members.names.Nodup)
    (h : Concur List.Perm (gatherMembers room members) (gatherMembers room members')) :
    Concur (fun entries entries' => NameMap.ofEntries entries = NameMap.ofEntries entries')
      (gatherMembers room members) (gatherMembers room members') :=
  concur_of_ok h fun hread hperm =>
    NameMap.ofEntries_perm hperm (by rwa [names_of_gatherMembers hread])

/-- A member concurs if its value does. -/
theorem concur_named (name : Option String) {value value' : Except ReadError Value}
    (h : Concur Eq value value') : Concur Eq (named name value) (named name value') := by
  cases name with
  | none => exact .error rfl
  | some name =>
    refine h.map ?_
    rintro v _ rfl
    rfl

/-- A member in front of others. -/
def before (member : Except ReadError (String × Value))
    (rest : Except ReadError (List (String × Value))) :
    Except ReadError (List (String × Value)) := do
  return (← member) :: (← rest)

/-- Two members can be read in either order. -/
theorem concur_swap (x y : Except ReadError (String × Value))
    (rest : Except ReadError (List (String × Value))) :
    Concur List.Perm (before x (before y rest)) (before y (before x rest)) := by
  rcases x with e | entry <;> rcases y with e' | other
  · exact .error rfl
  · exact .error rfl
  · exact .error rfl
  · -- Both members are read, so the rest decides.
    rcases rest with e | entries
    · exact .error rfl
    · exact .ok (.swap other entry entries)

mutual

/-- Reordered documents with distinct names are read alike. -/
theorem concur_gather {d d' : Document} : d.Reordered d' → d.Distinct → (room : Nat) →
    Concur Eq (gather room d) (gather room d')
  | .refl d, _, room => .refl (fun _ => rfl) (gather room d)
  | .array h, hdistinct, room => by
    rw [gather, gather]
    split_ifs
    · exact .error rfl
    · refine (concur_gatherItems h hdistinct (room - 1)).bind ?_
      rintro values _ rfl
      exact .ok rfl
  | .object h, hdistinct, room => by
    obtain ⟨hnames, hvalues⟩ := List.forall_mem_cons.1 hdistinct
    have hentries := concur_ofEntries hnames (concur_gatherMembers h hvalues (room - 1))
    rw [gather, gather]
    split_ifs
    · exact .error rfl
    -- Either no member is tagged, or the only one is read on both sides.
    · rcases Outcome.rel_cases (rel_soleTagged? h) with
        ⟨hsole, hsole'⟩ | ⟨_, _, hsole, hsole', hread⟩
      · rw [hsole, hsole']
        refine hentries.bind ?_
        intro entries entries' hmap
        exact .ok (congrArg object hmap)
      · rw [hsole, hsole']
        exact hread

/-- Items that are reordered concur. -/
theorem concur_gatherItems {items items' : Items} : items.Reordered items' →
    (∀ members ∈ items.objects, members.names.Nodup) → (room : Nat) →
    Concur Eq (gatherItems room items) (gatherItems room items')
  | .refl items, _, room => .refl (fun _ => rfl) (gatherItems room items)
  | .cons hitem hrest, hdistinct, room => by
    obtain ⟨hfirst, hothers⟩ := List.forall_mem_append.1 hdistinct
    rw [gatherItems, gatherItems]
    refine (concur_gather hitem hfirst room).bind ?_
    rintro v _ rfl
    refine (concur_gatherItems hrest hothers room).bind ?_
    rintro values _ rfl
    exact .ok rfl

/-- Members that are reordered concur up to their order. -/
theorem concur_gatherMembers {members members' : Members} : members.Reordered members' →
    (∀ inner ∈ members.objects, inner.names.Nodup) → (room : Nat) →
    Concur List.Perm (gatherMembers room members) (gatherMembers room members')
  | .refl members, _, room => .refl .refl (gatherMembers room members)
  | .cons name hvalue hrest, hdistinct, room => by
    obtain ⟨hfirst, hothers⟩ := List.forall_mem_append.1 hdistinct
    rw [gatherMembers, gatherMembers]
    refine (concur_named name (concur_gather hvalue hfirst room)).bind ?_
    rintro entry _ rfl
    refine (concur_gatherMembers hrest hothers room).bind ?_
    intro entries entries' hentries
    exact .ok (hentries.cons entry)
  | .swap name other value value' rest, _, room => by
    simp only [gatherMembers]
    -- Two members change places, and their entries with them.
    exact concur_swap _ _ _
  | .trans h h', hdistinct, room =>
    concur_trans .trans (concur_gatherMembers h hdistinct room)
      (concur_gatherMembers h' (h.distinct hdistinct) room)

end

/-- Documents that are tagged well and differ in the order of members are read alike. -/
theorem concur_ofDocument {d d' : Document} (h : d.Reordered d') (hdistinct : d.Distinct)
    (htagged : d.WellTagged) (htagged' : d'.WellTagged) (room : Nat) :
    Concur Eq (ofDocument room d) (ofDocument room d') := by
  rw [ofDocument_eq_gather d htagged, ofDocument_eq_gather d' htagged']
  exact concur_gather h hdistinct room

end Value

namespace Properties

open Value

/-- Inside of an object that is accepted as properties, every object is tagged well. -/
theorem wellTaggedInside_of_decoder {room : Nat} {properties : Properties} {d : Document}
    (h : decoder room d = .ok properties) : d.WellTaggedInside := by
  unfold decoder at h
  split at h
  · next members =>
    cases room with
    | zero => nomatch h
    | succ room =>
      obtain ⟨entries, hentries, -⟩ := Outcome.map_eq_ok.1 h
      exact (accepted_of_ofMembers members hentries).2
  · obtain ⟨shape, -, h⟩ := Outcome.bind_eq_ok.1 h
    nomatch h

/-- The order of the members of the whole object does not matter, nor does that inside of it if
every object there is tagged well. -/
theorem concur_decoder {d d' : Document} (h : d.Reordered d') (hdistinct : d.Distinct)
    (htagged : d.WellTaggedInside) (htagged' : d'.WellTaggedInside) (room : Nat) :
    Concur Eq (decoder room d) (decoder room d') := by
  cases h with
  | refl => exact .refl (fun _ => rfl) _
  | array => exact .error rfl
  | @object members members' h =>
    cases room with
    | zero => exact .error rfl
    | succ room =>
      obtain ⟨hnames, hvalues⟩ := List.forall_mem_cons.1 hdistinct
      -- The members lead to the same map in both orders, and none of them is a tag.
      have hentries := concur_ofEntries hnames (concur_gatherMembers h hvalues room)
      rw [← ofMembers_eq_gatherMembers members htagged,
        ← ofMembers_eq_gatherMembers members' htagged'] at hentries
      exact hentries.map id

end Properties

namespace Value

/-- A run that cannot succeed is refused. -/
theorem exists_error {α : Type} {x : Except ReadError α} (h : ∀ a, x ≠ .ok a) :
    ∃ e, x = .error e := by
  cases x with
  | ok a => exact absurd rfl (h a)
  | error e => exact ⟨e, rfl⟩

/-- Let two texts spell documents that differ in the order of members at most, and let no object
have a name twice. A text is refused if an object in it is not tagged well. If all are, in both
texts, then both are refused or both are read as the same value. The same holds of the properties of
a parameter object, which need not be tagged well themselves. -/
theorem read_reordered {text text' : String} {d d' : Document} (hd : d.SpelledBy text)
    (hd' : d'.SpelledBy text') (hdistinct : d.Distinct) (hreordered : d.Reordered d') :
    ((¬d.WellTagged → ∃ e, decoder.read text = .error e) ∧
      (d.WellTagged → d'.WellTagged → Concur Eq (decoder.read text) (decoder.read text'))) ∧
    ∀ typeName,
      (¬d.WellTaggedInside → ∃ e, Parameters.ofJsonText typeName text = .error e) ∧
      (d.WellTaggedInside → d'.WellTaggedInside →
        Concur Eq (Parameters.ofJsonText typeName text)
          (Parameters.ofJsonText typeName text')) := by
  refine ⟨⟨fun htagged => ?_, fun htagged htagged' => ?_⟩, fun typeName =>
    ⟨fun htagged => ?_, fun htagged htagged' => ?_⟩⟩
  -- What is read has been well tagged, so what is not is refused.
  · rw [decoder.read_of_spelledBy hd]
    exact exists_error fun v hv => htagged (accepted_of_ofDocument d hv).2
  · rw [decoder.read_of_spelledBy hd, decoder.read_of_spelledBy hd']
    exact concur_ofDocument hreordered hdistinct htagged htagged' Json.maxNesting
  · unfold Parameters.ofJsonText
    rw [Properties.decoder.read_of_spelledBy hd]
    refine exists_error fun p hp => htagged ?_
    obtain ⟨properties, hproperties, -⟩ := Outcome.bind_eq_ok.1 hp
    exact Properties.wellTaggedInside_of_decoder hproperties
  · unfold Parameters.ofJsonText
    rw [Properties.decoder.read_of_spelledBy hd, Properties.decoder.read_of_spelledBy hd']
    refine (Properties.concur_decoder hreordered hdistinct htagged htagged' Json.maxNesting).bind ?_
    rintro properties _ rfl
    exact .ok rfl

/-- Members of an array's item and of the whole object change places. -/
theorem read_reordered_nested :
    Concur Eq (decoder.read "\x7b\"a\":[\x7b\"x\":null,\"y\":true\x7d],\"b\":\"c\"\x7d")
      (decoder.read "\x7b\"b\":\"c\",\"a\":[\x7b\"y\":true,\"x\":null\x7d]\x7d") := by
  let json : Json := .object
    [("a", .array [.object [("x", .null), ("y", .bool true)]]), ("b", .string "c")]
  let json' : Json := .object
    [("b", .string "c"), ("a", .array [.object [("y", .bool true), ("x", .null)]])]
  have hinner : Items.Reordered (Json.documentItems [.object [("x", .null), ("y", .bool true)]])
      (Json.documentItems [.object [("y", .bool true), ("x", .null)]]) :=
    .cons (.object (.swap (some "x") (some "y") .null (.bool true) .done)) (.refl .done)
  have hreordered : json.document.Reordered json'.document :=
    .object (.trans (.cons (some "a") (.array hinner) (.refl _)) (.swap _ _ _ _ .done))
  have hdistinct : json.document.Distinct := by decide
  have hspelled : json.document.SpelledBy json.compact := Json.spelledBy_compact rfl
  have hspelled' : json'.document.SpelledBy json'.compact := Json.spelledBy_compact rfl
  have htagged : json.document.WellTagged := by decide
  have htagged' : json'.document.WellTagged := by decide
  exact (read_reordered hspelled hspelled' hdistinct hreordered).1.2 htagged htagged'

/-- The order of members matters where one of them stands for a date: in front of another member it
is refused, and behind it it is a property like any other. -/
theorem not_read_any_order :
    ¬∀ (text text' : String) (d d' : Document), d.SpelledBy text → d'.SpelledBy text' →
      d.Distinct → d.Reordered d' → Concur Eq (decoder.read text) (decoder.read text') := by
  intro h
  let json : Json := .object [("a", .null), (dateKey, .string "2024-01-31")]
  let json' : Json := .object [(dateKey, .string "2024-01-31"), ("a", .null)]
  have hspelled : json.document.SpelledBy json.compact := Json.spelledBy_compact rfl
  have hspelled' : json'.document.SpelledBy json'.compact := Json.spelledBy_compact rfl
  have hdistinct : json.document.Distinct := by decide
  have hconcur := h _ _ _ _ hspelled hspelled' hdistinct (.object (.swap _ _ _ _ .done))
  rw [decoder.read_of_spelledBy hspelled, decoder.read_of_spelledBy hspelled'] at hconcur
  have hfirst : decoder Json.maxNesting json.document =
      .ok (.object [(dateKey, .string "2024-01-31"), ("a", .null)]) := by rfl
  have hsecond : ∃ e, decoder Json.maxNesting json'.document = .error e :=
    exists_error fun v hv => absurd (accepted_of_ofDocument json'.document hv).2 (by decide)
  obtain ⟨e, hsecond⟩ := hsecond
  rw [hfirst, hsecond] at hconcur
  nomatch hconcur

end Value

end SqlTemplate
