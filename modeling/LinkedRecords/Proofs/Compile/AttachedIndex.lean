import LinkedRecords.Proofs.Compile.AttachedFields
import LinkedRecords.Proofs.Schema

/-! # The index of attached fields

The attached fields of a schema are filed in one pass, each under the relation that it is attached
to. After every field the index holds just what has been met so far: a relation is in it if
something is attached to it, with what a search of the fields finds for it, and no field is lost or
filed twice.

* `AttachedIndex.Gathers` — the invariant of the pass; `Gathers.add` is its step.
* `AttachedIndex.gathers_ofSchema` — the invariant at the end of the pass.
* `AttachedIndex.ofSchema_partitions` — the main statement: the index parts the attached fields.
-/

namespace LinkedRecords

/-- If `change` gives the value under `key` the members `more`, then `alter` gives all values
together these members more. `g` lists the members of a value. -/
theorem Keyed.flatMap_alter_perm {α β γ : Type} [DecidableEq α] {t : Keyed α β} {key : α}
    {change : Option β → β} {g : β → List γ} {more : List γ}
    (hnew : (g (change none)).Perm more)
    (hold : ∀ b, (g (change (some b))).Perm (g b ++ more)) :
    ((t.alter key change).entries.flatMap fun e => g e.2).Perm
      ((t.entries.flatMap fun e => g e.2) ++ more) := by
  have hput : ∀ es : List (α × β),
      ((putEntry key (change (es.lookup key)) es).flatMap fun e => g e.2).Perm
        ((es.flatMap fun e => g e.2) ++ more) := by
    intro es
    -- `putEntry` goes along the entries, so the induction is on these and not on the table
    induction es with
    | nil => simpa [putEntry] using hnew
    | cons e es ih =>
        obtain ⟨k, b⟩ := e
        by_cases hk : k = key
        · -- the value stands before the entries behind it, so its new members move past them
          have hmove : (more ++ es.flatMap fun e => g e.2).Perm
            ((es.flatMap fun e => g e.2) ++ more) := List.perm_append_comm
          simpa [putEntry, lookup_cons_eq_ite, hk] using
            ((hold b).append_right _).trans (by simpa using hmove.append_left (g b))
        · simpa [putEntry, lookup_cons_eq_ite, hk] using ih.append_left (g b)
  exact hput t.entries

namespace AttachedIndex

/-- The ids of all fields in the index. -/
def ids (index : AttachedIndex) : List FieldId := index.entries.flatMap fun e => e.2.ids

/-! ## One field -/

theorem get?_add (index : AttachedIndex) (f : Field) (owner : FieldId) :
    ((index.add f).get? owner).getD {} =
      match AttachedFields.shown? owner f with
      | some shows => ((index.get? owner).getD {}).add f.id shows
      | none => (index.get? owner).getD {} := by
  rcases hkind : f.kind with kind | _ | r | ⟨o, shows⟩
  · simp [add, AttachedFields.shown?, hkind]
  · simp [add, AttachedFields.shown?, hkind]
  · simp [add, AttachedFields.shown?, hkind]
  · -- the field is filed under `o`, so only what is found there changes
    by_cases ho : o = owner
    · simp [add, AttachedFields.shown?, hkind, ho]
    · simp [add, AttachedFields.shown?, hkind, ho]

theorem contains_add (index : AttachedIndex) (f : Field) (owner : FieldId) :
    (index.add f).contains owner = true ↔
      index.contains owner = true ∨ f.kind.owner? = some owner := by
  rcases hkind : f.kind with kind | _ | r | ⟨o, shows⟩
  · simp [add, FieldKind.owner?, hkind]
  · simp [add, FieldKind.owner?, hkind]
  · simp [add, FieldKind.owner?, hkind]
  · by_cases ho : o = owner
    · simp [add, FieldKind.owner?, hkind, ho, Keyed.contains]
    · simp [add, FieldKind.owner?, hkind, ho, Keyed.contains]

theorem ids_add_perm (index : AttachedIndex) (f : Field) :
    (index.add f).ids.Perm (index.ids ++ if f.kind.owner?.isSome then [f.id] else []) := by
  rcases hkind : f.kind with kind | _ | r | ⟨o, shows⟩
  · simp [add, FieldKind.owner?, hkind]
  · simp [add, FieldKind.owner?, hkind]
  · simp [add, FieldKind.owner?, hkind]
  · simp only [add, hkind, FieldKind.owner?, Option.isSome_some, if_true]
    apply Keyed.flatMap_alter_perm
    · exact AttachedFields.ids_add_perm {} f.id shows
    · exact fun a => AttachedFields.ids_add_perm a f.id shows

/-! ## A pass over fields -/

/-- Whether `index` holds what is attached to any field, among the `fields` met so far. -/
structure Gathers (index : AttachedIndex) (fields : List Field) : Prop where
  getD_eq : ∀ owner, (index.get? owner).getD {} = AttachedFields.of fields owner
  contains_iff : ∀ owner, index.contains owner = true ↔
    ∃ f ∈ fields, f.kind.owner? = some owner
  ids_perm : index.ids.Perm ((fields.filter fun f => f.kind.owner?.isSome).map (·.id))

theorem Gathers.add {index : AttachedIndex} {fields : List Field} (h : index.Gathers fields)
    (f : Field) : (index.add f).Gathers (fields ++ [f]) := by
  constructor
  case getD_eq =>
    intro owner
    have hstep := index.get?_add f owner
    rw [h.getD_eq] at hstep
    exact hstep.trans (AttachedFields.of_append_singleton fields owner f).symm
  case contains_iff =>
    intro owner
    rw [contains_add, h.contains_iff]
    simp [or_and_right, exists_or]
  case ids_perm =>
    refine (index.ids_add_perm f).trans ?_
    rw [List.filter_append, List.map_append]
    refine h.ids_perm.append (.of_eq ?_)
    -- a field that is not attached adds no id on either side
    cases hattached : f.kind.owner?.isSome <;> simp [hattached]

theorem gathers_ofSchema (s : Schema) : (ofSchema s).Gathers s.fields := by
  have hpass : ∀ fields : List Field, (fields.foldl add .empty).Gathers fields := by
    intro fields
    -- a pass grows at the end, so the induction takes fields off there
    induction fields using List.reverseRecOn with
    | nil => exact ⟨fun owner => rfl, fun owner => by simp [Keyed.contains], .refl _⟩
    | append_singleton fields f ih =>
        rw [List.foldl_append]
        exact ih.add f
  exact hpass s.fields

/-- Under `owner` the index finds what a search of the fields of `s` finds. -/
theorem get?_ofSchema (s : Schema) (owner : FieldId) :
    ((ofSchema s).get? owner).getD {} = AttachedFields.of s.fields owner :=
  (gathers_ofSchema s).getD_eq owner

end AttachedIndex

/-! ## The index of a schema -/

/-- Whether `a` holds the fields attached to `owner`, among `fields`. -/
structure AttachedFields.Holds (a : AttachedFields) (fields : List Field) (owner : FieldId) :
    Prop where
  /-- The members of `a` are the fields attached to `owner`, with what they show. -/
  mem_iff : ∀ id shows, (id, shows) ∈ a.members ↔
    ∃ f ∈ fields, f.id = id ∧ f.kind = .attached owner shows
  /-- No attached field comes twice. -/
  nodup : a.ids.Nodup
  /-- Attached fields of one kind stand in the order of `fields`. -/
  sublist : ∀ ids ∈ a.byKind, ids.Sublist (fields.map (·.id))
  /-- The ids that `a` lists are those of its members. -/
  ids_eq : a.ids = a.members.map (·.1)
  /-- The fields that `a` reads are those that its members read. -/
  sources_eq : a.sources = a.members.flatMap (·.2.reads)

theorem AttachedFields.holds_of (s : Schema) (owner : FieldId) :
    (of s.fields owner).Holds s.fields owner := by
  constructor
  case mem_iff => exact fun id shows => mem_members_of
  case nodup =>
    rw [(ids_of_perm s.fields owner).nodup_iff]
    exact s.distinct.sublist (List.filter_sublist.map _)
  case sublist => exact fun ids h => sublist_of_mem_byKind h
  case ids_eq => exact ids_eq _
  case sources_eq => exact sources_eq _

namespace AttachedIndex

/-- How `index` parts the attached fields of the schema `s`. -/
structure Partitions (index : AttachedIndex) (s : Schema) : Prop where
  /-- An id has an entry just if some field is attached to it. -/
  present_iff : ∀ owner, (index.get? owner).isSome = true ↔
    ∃ f ∈ s.fields, f.kind.owner? = some owner
  /-- The entry of `owner` holds the fields attached to `owner`. -/
  holds : ∀ owner a, index.get? owner = some a → a.Holds s.fields owner
  /-- All entries together hold the attached fields of `s` and no others. -/
  mem_ids_iff : ∀ id, id ∈ index.ids ↔ ∃ f ∈ s.fields, f.id = id ∧ f.kind.owner?.isSome = true
  /-- No attached field is in two entries, or twice in one. -/
  nodup : index.ids.Nodup

theorem ofSchema_partitions (s : Schema) : (ofSchema s).Partitions s := by
  have hgathers := gathers_ofSchema s
  constructor
  case present_iff => exact hgathers.contains_iff
  case holds =>
    intro owner a hentry
    -- the entry is there, so what is found under `owner` is the entry itself
    have hfound := hgathers.getD_eq owner
    rw [hentry, Option.getD_some] at hfound
    rw [hfound]
    exact AttachedFields.holds_of s owner
  case mem_ids_iff =>
    intro id
    rw [hgathers.ids_perm.mem_iff, List.mem_map]
    constructor
    · rintro ⟨f, hf, hid⟩
      rcases List.mem_filter.1 hf with ⟨hf, hattached⟩
      exact ⟨f, hf, hid, hattached⟩
    · rintro ⟨f, hf, hid, hattached⟩
      exact ⟨f, List.mem_filter.2 ⟨hf, hattached⟩, hid⟩
  case nodup =>
    rw [hgathers.ids_perm.nodup_iff]
    exact s.distinct.sublist (List.filter_sublist.map _)

end AttachedIndex

/-- The fields of an order: some are attached to its `products`, and one to `replies`, which it does
not have. -/
def orderSchema : Schema :=
  (Schema.ofFields [
    ⟨⟨"total"⟩, "Total", false, .attached ⟨"products"⟩ (.sum ⟨"price"⟩)⟩,
    ⟨⟨"products"⟩, "Products", false, .relation (.reference (.owner ⟨"products"⟩))⟩,
    ⟨⟨"answers"⟩, "Number of replies", false, .attached ⟨"replies"⟩ .count⟩,
    ⟨⟨"shown"⟩, "Names and sizes", false, .attached ⟨"products"⟩ (.lookup [⟨"name"⟩, ⟨"size"⟩])⟩,
    ⟨⟨"mean"⟩, "Mean price", false, .attached ⟨"products"⟩ (.average ⟨"price"⟩)⟩]).toOption.getD
    .empty

theorem ofSchema_partitions_order :
    ∃ a, (AttachedIndex.ofSchema orderSchema).get? ⟨"products"⟩ = some a ∧
      a.ids = [⟨"shown"⟩, ⟨"total"⟩, ⟨"mean"⟩] ∧
      a.sources = [⟨"name"⟩, ⟨"size"⟩, ⟨"price"⟩, ⟨"price"⟩] ∧
      a.Holds orderSchema.fields ⟨"products"⟩ :=
  ⟨_, rfl, rfl, rfl, (AttachedIndex.ofSchema_partitions orderSchema).holds _ _ rfl⟩

end LinkedRecords
