import SqlTemplate.Proofs.Value.RoundTrip
import SqlTemplate.Statement.Json

/-!
# Statements read back

A bind that is written and read again has the value that is read for its own one, and keeps its type
and its source, if it has one (`Bind.decoder_document`). So binds and statements are read back
exactly if the values in them are (`Bind.read_toJson_eq_ok_iff`, `Statement.read_toJson_eq_ok_iff`).
-/

namespace SqlTemplate

open Json (Decoder Items Members ReadError)

namespace Bind

/-- Its value has no decimal and lists its properties in order. -/
structure IsPlain (b : Bind) : Prop where
  /-- The properties are in order. -/
  ordered : b.value.Ordered
  /-- There is no decimal. -/
  decimalFree : b.value.decimalFree = true

/-- A bind is read back from its document with the value that is read for it. -/
theorem decoder_document (b : Bind) (room : Nat) :
    decoder (room + 1) b.toJson.document =
      (Value.decoder room b.value.toJson.document).map fun v => { b with value := v } := by
  obtain ⟨value, sqlType, source⟩ := b
  have htype : SqlType.decoder room (.string (some sqlType.name)) = .ok sqlType := by
    cases sqlType <;> rfl
  -- The fields come in the order in which they are written; a source may lack.
  cases source <;> cases hvalue : Value.decoder room value.toJson.document <;>
    simp [toJson, Json.document, Json.documentMembers, decoder, Decoder.record, Json.enter,
      Members.fill, Json.Field.of, hvalue, htype, bind, Except.bind, Except.map, pure, Except.pure,
      Part.toBind, Json.required, Decoder.optional, Decoder.string, Functor.map]

/-- The record of a bind is one container around that of its value. -/
theorem depth_value_lt (b : Bind) : b.value.toJson.depth < b.toJson.depth :=
  Nat.lt_succ_of_le (Nat.le_max_left _ _)

/-- A bind without a decimal is written without one. -/
theorem floatFree_toJson {b : Bind} (h : b.IsPlain) : b.toJson.floatFree = true := by
  have hvalue := Value.floatFree_toJson b.value h.decimalFree
  unfold toJson
  cases b.source <;>
    simp [Json.floatFree, Json.membersFloatFree, hvalue]

/-- A bind is read back from its document if its value is untagged, and only then. -/
theorem decoder_toJson {b : Bind} (h : b.IsPlain) {room : Nat} (hroom : b.toJson.depth ≤ room) :
    decoder room b.toJson.document = .ok b ↔ b.value.Untagged := by
  obtain ⟨inside, rfl⟩ : ∃ inside, room = inside + 1 :=
    Nat.exists_eq_add_one_of_ne_zero (Nat.ne_zero_of_lt hroom)
  have hvalue : b.value.toJson.depth ≤ inside :=
    Nat.le_of_lt_succ (Nat.lt_of_lt_of_le b.depth_value_lt hroom)
  have hread := Value.ofDocument_toJson b.value h.ordered h.decimalFree inside hvalue
  rw [decoder_document, Outcome.map_eq_ok, ← hread]
  constructor
  · rintro ⟨v, hv, hb⟩
    obtain rfl : v = b.value := congrArg Bind.value hb
    exact hv
  · exact fun hv => ⟨b.value, hv, rfl⟩

/-- A bind is read back from its text if its value is untagged, and only then. -/
theorem read_toJson_eq_ok_iff {b : Bind} (h : b.IsPlain)
    (hdepth : b.toJson.depth ≤ Json.maxNesting) :
    decoder.read b.toJson.compact = .ok b ↔ b.value.Untagged := by
  rw [Decoder.read_compact decoder (floatFree_toJson h)]
  exact decoder_toJson h hdepth

/-- Binds are read back from the items of an array if all their values are untagged, and only
then. -/
theorem decode_toJson {room : Nat} : (binds : List Bind) → (∀ b ∈ binds, b.IsPlain) →
    Json.itemsDepth (binds.map toJson) ≤ room →
    ((Json.documentItems (binds.map toJson)).decode (decoder room) = .ok binds ↔
      ∀ b ∈ binds, b.value.Untagged)
  | [], _, _ => iff_of_true rfl nofun
  | b :: rest, h, hroom => by
    obtain ⟨hb, hrest⟩ := List.forall_mem_cons.1 h
    obtain ⟨hroomb, hroomrest⟩ := Nat.max_le.1 hroom
    rw [List.map_cons, Json.documentItems, Items.decode, Outcome.pair_eq_ok List.cons.inj,
      decoder_toJson hb hroomb, decode_toJson rest hrest hroomrest, List.forall_mem_cons]

/-- So are binds one after the other. -/
theorem floatFree_map_toJson {binds : List Bind} (h : ∀ b ∈ binds, b.IsPlain) :
    Json.itemsFloatFree (binds.map toJson) = true := by
  induction binds with
  | nil => rfl
  | cons b rest ih =>
    obtain ⟨hb, hrest⟩ := List.forall_mem_cons.1 h
    exact Bool.and_eq_true_iff.2 ⟨floatFree_toJson hb, ih hrest⟩

end Bind

namespace Statement

/-- A statement is read back from its document with the binds that are read for it. -/
theorem decoder_document (s : Statement) (room : Nat) :
    decoder (room + 2) s.toJson.document =
      ((Json.documentItems (s.binds.map Bind.toJson)).decode (Bind.decoder room)).map
        fun binds => { s with binds } := by
  cases hbinds : (Json.documentItems (s.binds.map Bind.toJson)).decode (Bind.decoder room) <;>
    simp [toJson, jsonMembers, Json.document, Json.documentMembers, decoder, Decoder.record,
      Json.enter, Members.fill, Json.Field.of, Decoder.list, Decoder.string, hbinds, bind,
      Except.bind, Except.map, pure, Except.pure, Part.toStatement, Json.required]

/-- The record of a statement is two containers around those of its binds. -/
theorem depth_binds_lt (s : Statement) :
    Json.itemsDepth (s.binds.map Bind.toJson) + 1 < s.toJson.depth :=
  Nat.lt_succ_of_le (Nat.le_trans (Nat.le_max_left _ 0) (Nat.le_max_right 0 _))

/-- So is a statement with such binds. -/
theorem floatFree_toJson {s : Statement} (h : ∀ b ∈ s.binds, b.IsPlain) :
    s.toJson.floatFree = true := by
  have hbinds := Bind.floatFree_map_toJson h
  simp [toJson, jsonMembers, Json.floatFree, Json.membersFloatFree, hbinds]

/-- A statement is read back from its text if the values of its binds are untagged, and only
then. -/
theorem read_toJson_eq_ok_iff {s : Statement} (h : ∀ b ∈ s.binds, b.IsPlain)
    (hdepth : s.toJson.depth ≤ Json.maxNesting) :
    decoder.read s.toJson.compact = .ok s ↔ ∀ b ∈ s.binds, b.value.Untagged := by
  obtain ⟨inside, hinside⟩ : ∃ inside, Json.maxNesting = inside + 2 := ⟨125, rfl⟩
  have hbinds : Json.itemsDepth (s.binds.map Bind.toJson) ≤ inside := by
    have hlt := s.depth_binds_lt
    omega
  have hread := Bind.decode_toJson s.binds h hbinds
  rw [Decoder.read_compact decoder (floatFree_toJson h), hinside, decoder_document,
    Outcome.map_eq_ok, ← hread]
  constructor
  · rintro ⟨binds, hdecoded, hs⟩
    obtain rfl : binds = s.binds := congrArg Statement.binds hs
    exact hdecoded
  · exact fun hdecoded => ⟨s.binds, hdecoded, rfl⟩

end Statement

/-- Of the values without decimals whose text nests no deeper than can be read, exactly those are
read back as they were in which no object has the name of a date or timestamp before all its other
names. Binds and statements are read back exactly if their values are. -/
theorem readBack_iff_untagged :
    (∀ v : Value, v.Ordered → v.decimalFree = true → v.toJson.depth ≤ Json.maxNesting →
      (Value.decoder.read v.toJson.compact = .ok v ↔ v.Untagged)) ∧
    (∀ b : Bind, b.IsPlain → b.toJson.depth ≤ Json.maxNesting →
      (Bind.decoder.read b.toJson.compact = .ok b ↔ b.value.Untagged)) ∧
    ∀ s : Statement, (∀ b ∈ s.binds, b.IsPlain) → s.toJson.depth ≤ Json.maxNesting →
      (Statement.decoder.read s.toJson.compact = .ok s ↔ ∀ b ∈ s.binds, b.value.Untagged) :=
  ⟨fun _ => Value.read_toJson_eq_ok_iff, fun _ => Bind.read_toJson_eq_ok_iff,
    fun _ => Statement.read_toJson_eq_ok_iff⟩

/-- A name that stands for a date does no harm behind another one. Where it is the least, the object
is not read back. -/
theorem readBack_iff_untagged_later :
    let later : Value := .object [("#", .list [.integer (-5), .string "\"\n"]), ("$date", .null)]
    let least : Value := .list [.object [("$date", .string "2024-02-29"), ("a", .null)]]
    let bind : Bind := ⟨later, .raw, some "a.b"⟩
    let statement : Statement := ⟨"?", [bind, ⟨.bool true, .boolean, none⟩]⟩
    Value.decoder.read later.toJson.compact = .ok later ∧
      Value.decoder.read least.toJson.compact ≠ .ok least ∧
      Bind.decoder.read bind.toJson.compact = .ok bind ∧
      Statement.decoder.read statement.toJson.compact = .ok statement := by
  intro later least bind statement
  have hsorted : NameMap.Sorted
      [("#", Value.list [.integer (-5), .string "\"\n"]), ("$date", .null)] := by decide
  have hlater : later.Ordered := ⟨hsorted, ⟨trivial, trivial, trivial⟩, trivial, trivial⟩
  have huntagged : later.Untagged :=
    List.forall_mem_singleton.2 ((Value.untagged_cons_iff hsorted).2 ⟨by decide, by decide⟩)
  have hsorted' : NameMap.Sorted
      [("$date", Value.string "2024-02-29"), ("a", .null)] := by decide
  have hleast : least.Ordered := ⟨⟨hsorted', trivial, trivial, trivial⟩, trivial⟩
  have htagged : ¬least.Untagged := fun h =>
    ((Value.untagged_cons_iff hsorted').1 (h _ List.mem_cons_self)).1 rfl
  have hbind : bind.IsPlain := ⟨hlater, rfl⟩
  have hbinds : ∀ b ∈ statement.binds, b.IsPlain :=
    List.forall_mem_cons.2 ⟨hbind, List.forall_mem_singleton.2 ⟨trivial, rfl⟩⟩
  obtain ⟨hvalues, hbindsRead, hstatements⟩ := readBack_iff_untagged
  refine ⟨(hvalues later hlater rfl (by decide)).2 huntagged, ?_,
    (hbindsRead bind hbind (by decide)).2 huntagged,
    (hstatements statement hbinds (by decide)).2 ?_⟩
  · exact mt (hvalues least hleast rfl (by decide)).1 htagged
  · exact List.forall_mem_cons.2 ⟨huntagged, List.forall_mem_singleton.2 nofun⟩

end SqlTemplate
