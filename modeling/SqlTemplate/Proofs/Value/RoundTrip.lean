import SqlTemplate.Proofs.Calendar.RoundTrip
import SqlTemplate.Proofs.Json.Printed
import SqlTemplate.Proofs.NameMap
import SqlTemplate.Proofs.Outcome
import SqlTemplate.Proofs.Value.Same
import SqlTemplate.Value.Json

/-!
# Values read back

A value without decimals that is written and read again is the same value, unless an object in it
has a name that stands for a date or timestamp, before all its other names (`Value.Untagged`). The
names of an object are written in order, so such an object is written with this member first, and is
read as a date or timestamp or not at all. All others are read back as they were
(`Value.ofDocument_toJson`). That the names are in order holds of every value that has been read
(`Value.ordered_of_read`).
-/

namespace SqlTemplate

open Json (Document Items Members ReadError)

/-- The least of the names stands neither for a date nor for a timestamp. -/
def Properties.Untagged (properties : Properties) : Prop :=
  ¬NameMap.IsLeast Value.dateKey properties ∧ ¬NameMap.IsLeast Value.timestampKey properties

namespace Value

mutual

/-- The properties of the objects in the value, at any depth. -/
def objects : Value → List Properties
  | list items => objectsOfItems items
  | object properties => properties :: objectsOfProperties properties
  | _ => []

/-- Those of the objects in items. -/
def objectsOfItems : List Value → List Properties
  | [] => []
  | v :: rest => v.objects ++ objectsOfItems rest

/-- Those of the objects in the values of properties. -/
def objectsOfProperties : List (String × Value) → List Properties
  | [] => []
  | (_, v) :: rest => v.objects ++ objectsOfProperties rest

end

/-- No object in the value, at any depth, is tagged. -/
def Untagged (v : Value) : Prop :=
  ∀ properties ∈ v.objects, properties.Untagged

mutual

/-- The text of a value without decimals holds no floating-point number. -/
theorem floatFree_toJson : (v : Value) → v.decimalFree = true → v.toJson.floatFree = true
  | .decimal _, h => absurd h Bool.false_ne_true
  | .list items, h => floatFree_itemsToJson items h
  | .object properties, h => floatFree_propertiesToJson properties h
  | .null, _ | .bool _, _ | .integer _, _ | .string _, _ | .date _, _ | .timestamp _, _ => rfl

/-- Items without decimals are written without any. -/
theorem floatFree_itemsToJson : (items : List Value) → decimalFreeItems items = true →
    Json.itemsFloatFree (itemsToJson items) = true
  | [], _ => rfl
  | v :: rest, h => by
    obtain ⟨hv, hrest⟩ := Bool.and_eq_true_iff.1 h
    exact Bool.and_eq_true_iff.2 ⟨floatFree_toJson v hv, floatFree_itemsToJson rest hrest⟩

/-- So are properties. -/
theorem floatFree_propertiesToJson : (properties : List (String × Value)) →
    decimalFreeProperties properties = true →
    Json.membersFloatFree (propertiesToJson properties) = true
  | [], _ => rfl
  | (_, v) :: rest, h => by
    obtain ⟨hv, hrest⟩ := Bool.and_eq_true_iff.1 h
    exact Bool.and_eq_true_iff.2 ⟨floatFree_toJson v hv, floatFree_propertiesToJson rest hrest⟩

end

/-! ## Objects -/

/-- The members that are read keep their names. -/
theorem names_of_ofMembers {room : Nat} {properties : List (String × Value)}
    {entries : List (String × Value)}
    (h : ofMembers room (Json.documentMembers (propertiesToJson properties)) = .ok entries) :
    NameMap.names entries = NameMap.names properties := by
  induction properties generalizing entries with
  | nil =>
    obtain rfl := Except.ok.inj h
    rfl
  | cons property rest ih =>
    obtain ⟨name, v⟩ := property
    obtain ⟨value, -, h⟩ := Outcome.bind_eq_ok.1 h
    obtain ⟨others, hothers, h⟩ := Outcome.bind_eq_ok.1 h
    obtain rfl := Except.ok.inj h
    exact congrArg (name :: ·) (ih hothers)

/-- A calendar text that is the only member is read. -/
theorem ofCalendar_done {α : Type} {read : String → Except CalendarError α} {s : String} {a : α}
    (h : read s = .ok a) (value : α → Value) :
    ofCalendar read value (.string (some s)) .done = .ok (value a) := by
  refine Outcome.bind_eq_ok.2 ⟨s, rfl, ?_⟩
  rw [h]
  rfl

/-- What a calendar text spells is of the kind that is asked for. -/
theorem exists_of_ofCalendar {α : Type} {read : String → Except CalendarError α} {value : α → Value}
    {text : Document} {rest : Members} {v : Value} (h : ofCalendar read value text rest = .ok v) :
    ∃ a, v = value a := by
  obtain ⟨s, -, h⟩ := Outcome.bind_eq_ok.1 h
  split at h
  · nomatch h
  · exact ⟨_, (Except.ok.inj h).symm⟩
  · nomatch h

/-- A member that is tagged makes no object. -/
theorem tagged?_ne_object {name : String} {text : Document} {rest : Members}
    {result : Except ReadError Value} (h : tagged? (.cons (some name) text rest) = some result)
    (properties : Properties) : result ≠ .ok (.object properties) := by
  rintro rfl
  rw [tagged?] at h
  split_ifs at h
  · obtain ⟨a, ha⟩ := exists_of_ofCalendar (Option.some.inj h)
    nomatch ha
  · obtain ⟨a, ha⟩ := exists_of_ofCalendar (Option.some.inj h)
    nomatch ha

/-- A member is tagged if its name stands for a date or timestamp. -/
theorem tagged?_eq_none_iff {name : String} {text : Document} {rest : Members} :
    tagged? (.cons (some name) text rest) = none ↔ name ≠ dateKey ∧ name ≠ timestampKey := by
  rw [tagged?]
  split_ifs with hdate htimestamp
  · simp [hdate]
  · simp [htimestamp]
  · simp [hdate, htimestamp]

/-- The least of sorted names is the first one. -/
theorem untagged_cons_iff {name : String} {v : Value} {rest : Properties}
    (h : NameMap.Sorted ((name, v) :: rest)) :
    Properties.Untagged ((name, v) :: rest) ↔ name ≠ dateKey ∧ name ≠ timestampKey := by
  rw [Properties.Untagged, NameMap.isLeast_cons_iff h, NameMap.isLeast_cons_iff h, eq_comm,
    @eq_comm _ timestampKey]

/-- An object is read back if it is untagged and its members are read back, and only then. -/
theorem ofDocument_object_eq_ok_iff {properties : Properties} (hsorted : NameMap.Sorted properties)
    {room : Nat} (hroom : room ≠ 0) :
    ofDocument room (.object (Json.documentMembers (propertiesToJson properties))) =
        .ok (.object properties) ↔
      properties.Untagged ∧
        ofMembers (room - 1) (Json.documentMembers (propertiesToJson properties)) =
          .ok properties := by
  -- The entries that are read have the names of the properties, so they are sorted as well.
  have hentries : (do return .object (NameMap.ofEntries (← ofMembers (room - 1)
      (Json.documentMembers (propertiesToJson properties)))) : Except ReadError Value) =
        .ok (.object properties) ↔
      ofMembers (room - 1) (Json.documentMembers (propertiesToJson properties)) =
        .ok properties := by
    constructor
    · intro h
      obtain ⟨entries, hread, h⟩ := Outcome.bind_eq_ok.1 h
      have hnames := names_of_ofMembers hread
      rw [NameMap.ofEntries_of_sorted (by rwa [NameMap.Sorted, hnames])] at h
      obtain rfl : entries = properties := Value.object.inj (Except.ok.inj h)
      exact hread
    · intro h
      rw [h]
      exact congrArg (fun map => Except.ok (Value.object map)) (NameMap.ofEntries_of_sorted hsorted)
  rw [ofDocument, if_neg hroom]
  cases properties with
  | nil =>
    have huntagged : Properties.Untagged [] := ⟨NameMap.not_isLeast_nil, NameMap.not_isLeast_nil⟩
    exact hentries.trans (and_iff_right huntagged).symm
  | cons property rest =>
    obtain ⟨name, v⟩ := property
    rw [untagged_cons_iff hsorted]
    rw [propertiesToJson, Json.documentMembers] at hentries ⊢
    cases htagged : tagged? (.cons (some name) v.toJson.document
        (Json.documentMembers (propertiesToJson rest))) with
    | some result =>
      refine iff_of_false (tagged?_ne_object htagged _) fun h => ?_
      rw [tagged?_eq_none_iff.2 h.1] at htagged
      cases htagged
    | none => exact hentries.trans (and_iff_right (tagged?_eq_none_iff.1 htagged)).symm

mutual

/-- A value is read back from its document if it is untagged, and only then. -/
theorem ofDocument_toJson : (v : Value) → v.Ordered → v.decimalFree = true → (room : Nat) →
    v.toJson.depth ≤ room → (ofDocument room v.toJson.document = .ok v ↔ v.Untagged)
  | .null, _, _, _, _ | .bool _, _, _, _, _ | .string _, _, _, _, _ => iff_of_true rfl nofun
  | .decimal _, _, hfree, _, _ => absurd hfree Bool.false_ne_true
  | .integer n, _, _, room, _ => by
    -- Every integer is in the range of the numbers that are read as integers.
    have hlarge : n.toInt < UInt64.size := Int.lt_of_lt_of_le n.toInt_lt (by decide)
    rw [toJson, Json.document, ofDocument, Json.Numeral.value?_ofInt n.minValue_le_toInt hlarge]
    dsimp only
    rw [ofNumber, if_pos n.toInt_le, Int64.ofInt_toInt]
    exact iff_of_true rfl nofun
  | .date d, _, _, room, hroom => by
    have hentered : room ≠ 0 := Nat.ne_zero_of_lt hroom
    refine iff_of_true ?_ nofun
    show ofDocument room (.object (.cons (some dateKey) (.string (some d.toText)) .done)) = _
    rw [ofDocument, if_neg hentered]
    exact ofCalendar_done (Date.read_toText d) .date
  | .timestamp t, _, _, room, hroom => by
    have hentered : room ≠ 0 := Nat.ne_zero_of_lt hroom
    refine iff_of_true ?_ nofun
    show ofDocument room (.object (.cons (some timestampKey)
      (.string (some (t.toText 'T' .exact))) .done)) = _
    rw [ofDocument, if_neg hentered]
    exact ofCalendar_done (Timestamp.read_toText t) .timestamp
  | .list items, hordered, hfree, room, hroom => by
    have hentered : room ≠ 0 := Nat.ne_zero_of_lt hroom
    have hitems := ofItems_toJson items hordered hfree (room - 1) (Nat.le_sub_one_of_lt hroom)
    rw [toJson, Json.document, ofDocument, if_neg hentered, Outcome.image_eq_ok Value.list.inj,
      hitems]
    rfl
  | .object properties, hordered, hfree, room, hroom => by
    have hentered : room ≠ 0 := Nat.ne_zero_of_lt hroom
    obtain ⟨hsorted, hvalues⟩ := hordered
    -- The properties are in order already, so reading them leaves them so.
    have hmembers :=
      ofMembers_toJson properties hvalues hfree (room - 1) (Nat.le_sub_one_of_lt hroom)
    rw [toJson, Json.document, ofDocument_object_eq_ok_iff hsorted hentered, hmembers]
    exact List.forall_mem_cons.symm

/-- Items are read back if they are all untagged, and only then. -/
theorem ofItems_toJson : (items : List Value) → OrderedItems items →
    decimalFreeItems items = true → (room : Nat) → Json.itemsDepth (itemsToJson items) ≤ room →
    (ofItems room (Json.documentItems (itemsToJson items)) = .ok items ↔
      ∀ properties ∈ objectsOfItems items, properties.Untagged)
  | [], _, _, _, _ => iff_of_true rfl nofun
  | v :: rest, hordered, hfree, room, hroom => by
    obtain ⟨hv, hrest⟩ := hordered
    obtain ⟨hfreev, hfreerest⟩ := Bool.and_eq_true_iff.1 hfree
    obtain ⟨hroomv, hroomrest⟩ := Nat.max_le.1 hroom
    have hfirst := ofDocument_toJson v hv hfreev room hroomv
    have hothers := ofItems_toJson rest hrest hfreerest room hroomrest
    rw [itemsToJson, Json.documentItems, ofItems, Outcome.pair_eq_ok List.cons.inj, hfirst, hothers,
      objectsOfItems, List.forall_mem_append]
    rfl

/-- Properties are read back if their values are all untagged, and only then. -/
theorem ofMembers_toJson : (properties : List (String × Value)) → OrderedProperties properties →
    decimalFreeProperties properties = true → (room : Nat) →
    Json.membersDepth (propertiesToJson properties) ≤ room →
    (ofMembers room (Json.documentMembers (propertiesToJson properties)) = .ok properties ↔
      ∀ inner ∈ objectsOfProperties properties, inner.Untagged)
  | [], _, _, _, _ => iff_of_true rfl nofun
  | (name, v) :: rest, hordered, hfree, room, hroom => by
    obtain ⟨hv, hrest⟩ := hordered
    obtain ⟨hfreev, hfreerest⟩ := Bool.and_eq_true_iff.1 hfree
    obtain ⟨hroomv, hroomrest⟩ := Nat.max_le.1 hroom
    have hfirst := ofDocument_toJson v hv hfreev room hroomv
    have hothers := ofMembers_toJson rest hrest hfreerest room hroomrest
    have hinjective : ∀ {v v' : Value} {rest rest' : List (String × Value)},
        (name, v) :: rest = (name, v') :: rest' → v = v' ∧ rest = rest' := fun h =>
      ⟨congrArg Prod.snd (List.cons.inj h).1, (List.cons.inj h).2⟩
    -- The map is read back when its first value and the other entries are.
    have hpair : ofMembers room (.cons (some name) v.toJson.document
        (Json.documentMembers (propertiesToJson rest))) = .ok ((name, v) :: rest) ↔
        ofDocument room v.toJson.document = .ok v ∧
          ofMembers room (Json.documentMembers (propertiesToJson rest)) = .ok rest := by
      rw [ofMembers]
      exact Outcome.pair_eq_ok (f := fun v rest => (name, v) :: rest) hinjective
    rw [propertiesToJson, Json.documentMembers, hpair, hfirst, hothers, objectsOfProperties,
      List.forall_mem_append]
    rfl

end

/-- A value without decimals is read back from its text if it is untagged, and only then. -/
theorem read_toJson_eq_ok_iff {v : Value} (hordered : v.Ordered) (hfree : v.decimalFree = true)
    (hdepth : v.toJson.depth ≤ Json.maxNesting) :
    decoder.read v.toJson.compact = .ok v ↔ v.Untagged := by
  rw [Json.Decoder.read_compact decoder (floatFree_toJson v hfree)]
  exact ofDocument_toJson v hordered hfree Json.maxNesting hdepth

/-! ## What can be read -/

/-- Setting an ordered value keeps the values ordered. -/
theorem orderedProperties_set {name : String} {v : Value} {map : Properties} (hv : v.Ordered)
    (hmap : OrderedProperties map) : OrderedProperties (NameMap.set name v map) := by
  induction map with
  | nil => exact ⟨hv, trivial⟩
  | cons entry rest ih =>
    obtain ⟨key, old⟩ := entry
    unfold NameMap.set
    split_ifs
    · exact ⟨hv, hmap⟩
    · exact ⟨hv, hmap.2⟩
    · exact ⟨hmap.1, ih hmap.2⟩

/-- Putting entries in order keeps their values ordered. -/
theorem orderedProperties_ofEntries {entries : List (String × Value)}
    (h : OrderedProperties entries) : OrderedProperties (NameMap.ofEntries entries) := by
  have hfold : ∀ map : Properties, OrderedProperties map →
      OrderedProperties (entries.foldl (fun map entry => NameMap.set entry.1 entry.2 map) map) := by
    induction entries with
    | nil => exact fun _ hmap => hmap
    | cons entry rest ih => exact fun map hmap => ih h.2 _ (orderedProperties_set h.1 hmap)
  exact hfold [] trivial

/-- A number is ordered, being no object. -/
theorem ordered_of_ofNumber {n : Json.Number} {v : Value} (h : ofNumber n = .ok v) : v.Ordered := by
  cases n with
  | float x =>
    obtain rfl := Except.ok.inj h
    trivial
  | integer n =>
    rw [ofNumber] at h
    split_ifs at h
    obtain rfl := Except.ok.inj h
    trivial

/-- So is a date or timestamp. -/
theorem ordered_of_tagged? {members : Members} {v : Value} (h : tagged? members = some (.ok v)) :
    v.Ordered := by
  unfold tagged? at h
  split at h
  · split_ifs at h
    · obtain ⟨a, rfl⟩ := exists_of_ofCalendar (Option.some.inj h)
      trivial
    · obtain ⟨a, rfl⟩ := exists_of_ofCalendar (Option.some.inj h)
      trivial
  · nomatch h

mutual

/-- Whatever is read lists the properties of its objects in order. -/
theorem ordered_of_ofDocument {room : Nat} {v : Value} : (d : Document) →
    ofDocument room d = .ok v → v.Ordered
  | .null, h | .bool _, h | .string (some _), h => by
    obtain rfl := Except.ok.inj h
    trivial
  | .string none, h | .broken, h => nomatch h
  | .number n, h => by
    unfold ofDocument at h
    split at h
    · exact ordered_of_ofNumber h
    · nomatch h
  | .array items, h => by
    unfold ofDocument at h
    split_ifs at h
    obtain ⟨values, hvalues, h⟩ := Outcome.bind_eq_ok.1 h
    obtain rfl := Except.ok.inj h
    exact ordered_of_ofItems items hvalues
  | .object members, h => by
    unfold ofDocument at h
    split_ifs at h
    split at h
    · next result htagged => exact ordered_of_tagged? (htagged.trans (congrArg some h))
    · obtain ⟨entries, hentries, h⟩ := Outcome.bind_eq_ok.1 h
      obtain rfl := Except.ok.inj h
      -- The entries are sorted, whatever order they stand in.
      exact ⟨NameMap.sorted_ofEntries entries,
        orderedProperties_ofEntries (ordered_of_ofMembers members hentries)⟩

/-- So are items. -/
theorem ordered_of_ofItems {room : Nat} {values : List Value} : (items : Items) →
    ofItems room items = .ok values → OrderedItems values
  | .done, h => by
    obtain rfl := Except.ok.inj h
    trivial
  | .broken, h => nomatch h
  | .cons item rest, h => by
    obtain ⟨v, hv, h⟩ := Outcome.bind_eq_ok.1 h
    obtain ⟨others, hothers, h⟩ := Outcome.bind_eq_ok.1 h
    obtain rfl := Except.ok.inj h
    exact ⟨ordered_of_ofDocument item hv, ordered_of_ofItems rest hothers⟩

/-- And so are the values of members. -/
theorem ordered_of_ofMembers {room : Nat} {entries : List (String × Value)} : (members : Members) →
    ofMembers room members = .ok entries → OrderedProperties entries
  | .done, h => by
    obtain rfl := Except.ok.inj h
    trivial
  | .broken, h | .cons none _ _, h => nomatch h
  | .cons (some name) value rest, h => by
    obtain ⟨v, hv, h⟩ := Outcome.bind_eq_ok.1 h
    obtain ⟨others, hothers, h⟩ := Outcome.bind_eq_ok.1 h
    obtain rfl := Except.ok.inj h
    exact ⟨ordered_of_ofDocument value hv, ordered_of_ofMembers rest hothers⟩

end

/-- Whatever a text spells lists the properties of its objects in order. -/
theorem ordered_of_read {text : String} {v : Value} (h : decoder.read text = .ok v) :
    v.Ordered := by
  unfold Json.Decoder.read at h
  generalize Document.ofText text = result at h
  obtain ⟨document, rest⟩ := result
  obtain ⟨value, hvalue, h⟩ := Outcome.bind_eq_ok.1 h
  split at h
  · obtain rfl := Except.ok.inj h
    exact ordered_of_ofDocument document hvalue
  · simp [throw, throwThe, MonadExceptOf.throw] at h

end Value

end SqlTemplate
