import SqlTemplate.Json.Document

/-!
# The order of members

Two documents that differ at most in the order of the members of their objects, at any depth
(`Document.Reordered`), and what such documents have in common: an object keeps its names, so names
that are distinct in every object of one are so in the other (`Document.Reordered.distinct`).
-/

namespace SqlTemplate.Json

/-! ## Objects and names -/

mutual

/-- The objects in the document, at any depth, each as its members. -/
def Document.objects : Document → List Members
  | .array items => items.objects
  | .object members => members :: members.objects
  | _ => []

/-- The objects in items. -/
def Items.objects : Items → List Members
  | .cons item rest => item.objects ++ rest.objects
  | _ => []

/-- The objects in the values of members. -/
def Members.objects : Members → List Members
  | .cons _ value rest => value.objects ++ rest.objects
  | _ => []

end

/-- The names of the members, as far as they stand for texts. -/
def Members.names : Members → List String
  | .cons name _ rest => name.toList ++ rest.names
  | _ => []

/-- No object in the document has a name twice. -/
def Document.Distinct (d : Document) : Prop :=
  ∀ members ∈ d.objects, members.names.Nodup

/-- The names of each object are compared. -/
instance (d : Document) : Decidable d.Distinct :=
  inferInstanceAs (Decidable (∀ members ∈ d.objects, members.names.Nodup))

/-! ## Reordered documents -/

mutual

/-- The documents differ at most in the order of the members of their objects. -/
inductive Document.Reordered : Document → Document → Prop
  /-- Nothing is reordered. -/
  | refl (d : Document) : Document.Reordered d d
  /-- The items are reordered inside. -/
  | array {items items' : Items} (h : Items.Reordered items items') :
      Document.Reordered (.array items) (.array items')
  /-- The members are reordered. -/
  | object {members members' : Members} (h : Members.Reordered members members') :
      Document.Reordered (.object members) (.object members')

/-- The items are the same one by one, but for the order of members in them. -/
inductive Items.Reordered : Items → Items → Prop
  /-- Nothing is reordered. -/
  | refl (items : Items) : Items.Reordered items items
  /-- An item and the rest are reordered inside. -/
  | cons {item item' : Document} {rest rest' : Items} (hitem : Document.Reordered item item')
      (hrest : Items.Reordered rest rest') :
      Items.Reordered (.cons item rest) (.cons item' rest')

/-- The members are the same in some order, but for the order of members in their values. -/
inductive Members.Reordered : Members → Members → Prop
  /-- Nothing is reordered. -/
  | refl (members : Members) : Members.Reordered members members
  /-- A value is reordered inside, and so is the rest. -/
  | cons (name : Option String) {value value' : Document} {rest rest' : Members}
      (hvalue : Document.Reordered value value') (hrest : Members.Reordered rest rest') :
      Members.Reordered (.cons name value rest) (.cons name value' rest')
  /-- Two neighbours change places. -/
  | swap (name other : Option String) (value value' : Document) (rest : Members) :
      Members.Reordered (.cons name value (.cons other value' rest))
        (.cons other value' (.cons name value rest))
  /-- One order after another. -/
  | trans {members between members' : Members} (h : Members.Reordered members between)
      (h' : Members.Reordered between members') : Members.Reordered members members'

end

/-- Reordered members keep their names. -/
theorem Members.Reordered.names_perm {members members' : Members} :
    members.Reordered members' → members.names.Perm members'.names
  | .refl _ => .refl _
  | .cons name _ hrest => hrest.names_perm.append_left name.toList
  | .swap name other value value' rest => by
    have hswap : (name.toList ++ other.toList).Perm (other.toList ++ name.toList) :=
      List.perm_append_comm
    simpa only [Members.names, List.append_assoc] using hswap.append_right rest.names
  | .trans h h' => h.names_perm.trans h'.names_perm

/-- Members that end an object do so in any order. -/
theorem Members.Reordered.eq_done_iff {members members' : Members} :
    members.Reordered members' → (members = .done ↔ members' = .done)
  | .refl _ => .rfl
  | .cons .. | .swap .. => iff_of_false nofun nofun
  | .trans h h' => h.eq_done_iff.trans h'.eq_done_iff

mutual

/-- Names that are distinct in every object stay so. -/
theorem Document.Reordered.distinct {d d' : Document} : d.Reordered d' → d.Distinct → d'.Distinct
  | .refl _, hdistinct => hdistinct
  | .array h, hdistinct => h.distinct hdistinct
  | .object h, hdistinct => by
    obtain ⟨hnames, hvalues⟩ := List.forall_mem_cons.1 hdistinct
    exact List.forall_mem_cons.2 ⟨h.names_perm.nodup_iff.1 hnames, h.distinct hvalues⟩

/-- So do those in the items of an array. -/
theorem Items.Reordered.distinct {items items' : Items} : items.Reordered items' →
    (∀ members ∈ items.objects, members.names.Nodup) →
    ∀ members ∈ items'.objects, members.names.Nodup
  | .refl _, hdistinct => hdistinct
  | .cons hitem hrest, hdistinct => by
    obtain ⟨hfirst, hothers⟩ := List.forall_mem_append.1 hdistinct
    exact List.forall_mem_append.2 ⟨hitem.distinct hfirst, hrest.distinct hothers⟩

/-- And those in the members of an object. -/
theorem Members.Reordered.distinct {members members' : Members} : members.Reordered members' →
    (∀ inner ∈ members.objects, inner.names.Nodup) →
    ∀ inner ∈ members'.objects, inner.names.Nodup
  | .refl _, hdistinct => hdistinct
  | .cons _ hvalue hrest, hdistinct => by
    obtain ⟨hfirst, hothers⟩ := List.forall_mem_append.1 hdistinct
    exact List.forall_mem_append.2 ⟨hvalue.distinct hfirst, hrest.distinct hothers⟩
  | .swap _ _ _ _ _, hdistinct => by
    simp only [Members.objects, List.forall_mem_append] at hdistinct ⊢
    exact and_left_comm.1 hdistinct
  | .trans h h', hdistinct => h'.distinct (h.distinct hdistinct)

end

end SqlTemplate.Json
