import LinkedRecords.Compile.AttachedFields
import Mathlib.Data.List.Induction

/-! # Which fields are attached to a relation

A search of the schema for each kind of attached field tells what is attached to a relation. Its
members are the attached fields with what they show; the ids and the fields read are told by them,
and within each kind they stand in the order of the schema.

* `AttachedFields.of_append_singleton` — what one more field adds to those attached to `owner`.
* `AttachedFields.mem_members_of`, `AttachedFields.mem_sources_of` — which fields are attached, and
  what they read.
* `AttachedFields.sublist_of_mem_byKind` — the fields of one kind keep the order of the schema.
-/

namespace LinkedRecords

/-- The fields of the foreign table that an attached field reads. -/
def Attached.reads : Attached → List FieldId
  | lookup display => display
  | count => []
  | sum source | average source => [source]

namespace AttachedFields

/-- What an attached field shows, if it is attached to `owner`. -/
def shown? (owner : FieldId) (f : Field) : Option Attached :=
  match f.kind with
  | .attached o shows => if o = owner then some shows else none
  | _ => none

theorem shown?_eq_some_iff {owner : FieldId} {f : Field} {shows : Attached} :
    shown? owner f = some shows ↔ f.kind = .attached owner shows := by
  rcases hkind : f.kind with kind | _ | r | ⟨o, shows'⟩
  · simp [shown?, hkind]
  · simp [shown?, hkind]
  · simp [shown?, hkind]
  · by_cases ho : o = owner <;> simp [shown?, hkind, ho]

theorem isSome_shown? (owner : FieldId) (f : Field) :
    (shown? owner f).isSome = decide (f.kind.owner? = some owner) := by
  rcases hkind : f.kind with kind | _ | r | ⟨o, shows⟩
  · simp [shown?, FieldKind.owner?, hkind]
  · simp [shown?, FieldKind.owner?, hkind]
  · simp [shown?, FieldKind.owner?, hkind]
  · by_cases ho : o = owner <;> simp [shown?, FieldKind.owner?, hkind, ho]

/-- The fields attached to `owner`, each kind in the order of the fields. -/
def of (fields : List Field) (owner : FieldId) : AttachedFields where
  lookups := fields.filterMap fun f =>
    match shown? owner f with
    | some (.lookup display) => some (f.id, display)
    | _ => none
  counts := fields.filterMap fun f =>
    match shown? owner f with
    | some .count => some f.id
    | _ => none
  sums := fields.filterMap fun f =>
    match shown? owner f with
    | some (.sum source) => some (f.id, source)
    | _ => none
  averages := fields.filterMap fun f =>
    match shown? owner f with
    | some (.average source) => some (f.id, source)
    | _ => none

theorem of_append_singleton (fields : List Field) (owner : FieldId) (f : Field) :
    of (fields ++ [f]) owner =
      match shown? owner f with
      | some shows => (of fields owner).add f.id shows
      | none => of fields owner := by
  cases h : shown? owner f with
  | none => simp [of, h]
  | some shows => cases shows <;> simp [of, add, h]

/-! ## Members -/

/-- The fields with what each of them shows, in the order lookups, counts, sums, averages. -/
def members (a : AttachedFields) : List (FieldId × Attached) :=
  a.lookups.map (fun x => (x.1, .lookup x.2)) ++ a.counts.map (fun id => (id, .count)) ++
    a.sums.map (fun x => (x.1, .sum x.2)) ++ a.averages.map (fun x => (x.1, .average x.2))

theorem ids_eq (a : AttachedFields) : a.ids = a.members.map (·.1) := by
  simp [ids, members, Function.comp_def]

theorem sources_eq (a : AttachedFields) : a.sources = a.members.flatMap (·.2.reads) := by
  simp [sources, members, List.flatMap_map, Attached.reads, ← List.map_eq_flatMap]

theorem mem_members_add {a : AttachedFields} {field : FieldId} {shows : Attached}
    {member : FieldId × Attached} :
    member ∈ (a.add field shows).members ↔ member ∈ a.members ∨ member = (field, shows) := by
  cases shows <;> grind [add, members]

/-- The members of `of fields owner` are the fields attached to `owner`, with what they show. -/
theorem mem_members_of {fields : List Field} {owner id : FieldId} {shows : Attached} :
    (id, shows) ∈ (of fields owner).members ↔
      ∃ f ∈ fields, f.id = id ∧ f.kind = .attached owner shows := by
  -- a field is added at the end of its kind, so fields are taken off at the end
  induction fields using List.reverseRecOn with
  | nil => simp [of, members]
  | append_singleton fields f ih =>
      have hlast : (∃ g ∈ fields ++ [f], g.id = id ∧ g.kind = .attached owner shows) ↔
          (id, shows) ∈ (of fields owner).members ∨ f.id = id ∧ shown? owner f = some shows := by
        simp only [List.mem_append, List.mem_singleton, or_and_right, exists_or, exists_eq_left,
          ih, shown?_eq_some_iff]
      rw [hlast, of_append_singleton]
      cases hshown : shown? owner f with
      | none => simp
      | some shows' => simp [mem_members_add, eq_comm]

/-- What the fields attached to `owner` read, they read one by one. -/
theorem mem_sources_of {fields : List Field} {owner id : FieldId} :
    id ∈ (of fields owner).sources ↔
      ∃ f ∈ fields, ∃ shows, f.kind = .attached owner shows ∧ id ∈ shows.reads := by
  rw [sources_eq, List.mem_flatMap, Prod.exists]
  simp only [mem_members_of]
  constructor
  · rintro ⟨_, shows, ⟨f, hf, -, hkind⟩, hread⟩
    exact ⟨f, hf, shows, hkind, hread⟩
  · rintro ⟨f, hf, shows, hkind, hread⟩
    exact ⟨f.id, shows, ⟨f, hf, rfl, hkind⟩, hread⟩

theorem ids_add_perm (a : AttachedFields) (field : FieldId) (shows : Attached) :
    (a.add field shows).ids.Perm (a.ids ++ [field]) := by
  -- the new id may come to stand in front of ids of other kinds, so only counts can be compared
  rw [List.perm_iff_count]
  intro id
  cases shows <;> simp [add, ids, List.count_append, List.count_cons] <;> omega

/-- The ids of `of fields owner` are those of the fields attached to `owner`, whatever their
kind. -/
theorem ids_of_perm (fields : List Field) (owner : FieldId) :
    (of fields owner).ids.Perm
      ((fields.filter fun f => (shown? owner f).isSome).map (·.id)) := by
  induction fields using List.reverseRecOn with
  | nil => simp [of, ids]
  | append_singleton fields f ih =>
      rw [of_append_singleton, List.filter_append, List.map_append]
      cases h : shown? owner f with
      | none => simpa [h] using ih
      | some shows => simpa [h] using (ids_add_perm _ f.id shows).trans (ih.append_right [f.id])

/-! ## Order -/

/-- The ids of the fields of each kind, as the four lists that `a` keeps. -/
def byKind (a : AttachedFields) : List (List FieldId) :=
  [a.lookups.map (·.1), a.counts, a.sums.map (·.1), a.averages.map (·.1)]

theorem byKind_add {a : AttachedFields} {field : FieldId} {shows : Attached} {ids : List FieldId}
    (h : ids ∈ (a.add field shows).byKind) :
    ids ∈ a.byKind ∨ ∃ ids' ∈ a.byKind, ids = ids' ++ [field] := by
  cases shows <;>
    simp only [add, byKind, List.mem_cons, List.not_mem_nil, or_false, List.map_append,
      List.map_cons, List.map_nil, or_and_right, exists_or, exists_eq_left] at h ⊢ <;>
    tauto

/-- Within one of the lists `byKind`, the ids stand in the order of the `fields`. -/
theorem sublist_of_mem_byKind {fields : List Field} {owner : FieldId} {ids : List FieldId}
    (h : ids ∈ (of fields owner).byKind) : ids.Sublist (fields.map (·.id)) := by
  induction fields using List.reverseRecOn generalizing ids with
  | nil => grind [of, byKind]
  | append_singleton fields f ih =>
      rw [List.map_append, List.map_singleton]
      rw [of_append_singleton] at h
      cases hshown : shown? owner f with
      | none =>
          rw [hshown] at h
          exact (ih h).trans (List.sublist_append_left _ _)
      | some shows =>
          rw [hshown] at h
          -- either the list is as before, or `f` was put at its end
          rcases byKind_add h with h | ⟨ids', h', rfl⟩
          · exact (ih h).trans (List.sublist_append_left _ _)
          · exact (ih h').append (List.Sublist.refl _)

end AttachedFields

end LinkedRecords
