import LinkedRecords.Schema.Table
import Mathlib.Data.List.Nodup

/-! # Looking fields up

A field is found by its id exactly if it is in the list of fields, since no id comes twice.

* `Schema.get?_eq_some_iff`, `Table.field?_eq_some_iff` — looking up an id finds the field that has
  it.
* `Schema.contains_iff` — the index knows the ids of the fields and no others.
-/

namespace LinkedRecords

namespace Schema

/-- Two fields of the schema `s` with the same id are the same field. -/
theorem eq_of_id_eq (s : Schema) {f g : Field} (hf : f ∈ s.fields) (hg : g ∈ s.fields)
    (h : f.id = g.id) : f = g :=
  List.inj_on_of_nodup_map s.distinct hf hg h

theorem get?_eq_some_iff (s : Schema) {id : FieldId} {f : Field} :
    s.get? id = some f ↔ f ∈ s.fields ∧ f.id = id := by
  rw [get?_eq_find?]
  constructor
  · intro h
    exact ⟨List.mem_of_find?_eq_some h, by simpa using List.find?_some h⟩
  · rintro ⟨hmem, hid⟩
    -- some field with the id is found, and no other field has the id
    rcases Option.isSome_iff_exists.1
      (List.find?_isSome.2 ⟨f, hmem, decide_eq_true hid⟩ :
        (s.fields.find? (fun f => f.id = id)).isSome) with ⟨g, hg⟩
    have hgid : g.id = id := by simpa using List.find?_some hg
    rw [hg, s.eq_of_id_eq (List.mem_of_find?_eq_some hg) hmem (hgid.trans hid.symm)]

theorem contains_iff (s : Schema) {id : FieldId} :
    s.contains id = true ↔ ∃ f ∈ s.fields, f.id = id := by
  rw [contains, Keyed.contains, s.agrees, positionOf?, List.findIdx?_isSome, List.any_eq_true]
  simp

end Schema

/-- Looking up `id` in a table finds the field that has this id. -/
theorem Table.field?_eq_some_iff (t : Table) {id : FieldId} {f : Field} :
    t.field? id = some f ↔ f ∈ t.schema.fields ∧ f.id = id :=
  t.schema.get?_eq_some_iff

theorem Table.field?_eq_none_iff (t : Table) {id : FieldId} :
    t.field? id = none ↔ t.schema.contains id = false := by
  -- both sides say that no field of the schema has the id
  rw [← Bool.not_eq_true, Schema.contains_iff]
  cases hfield : t.field? id with
  | none =>
      simp only [true_iff, not_exists, not_and]
      intro f hf hid
      rw [t.field?_eq_some_iff.2 ⟨hf, hid⟩] at hfield
      cases hfield
  | some f =>
      simp only [reduceCtorEq, false_iff, not_not]
      exact ⟨f, t.field?_eq_some_iff.1 hfield⟩

theorem Field.relation?_eq_some_iff {f : Field} {r : Relation} :
    f.relation? = some r ↔ f.kind = .relation r := by
  unfold relation?
  cases f.kind with
  | scalar kind => simp [FieldKind.relation?]
  | attachment => simp [FieldKind.relation?]
  | relation r' => simp [FieldKind.relation?]
  | attached owner shows => simp [FieldKind.relation?]

theorem Field.relation?_eq_none_iff {f : Field} :
    f.relation? = none ↔ ∀ r, f.kind ≠ .relation r := by
  rw [Option.eq_none_iff_forall_ne_some]
  simp only [ne_eq, relation?_eq_some_iff]

end LinkedRecords
