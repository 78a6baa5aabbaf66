import LinkedRecords.Proofs.Schema

/-! # The index of a schema

A list of fields makes a schema if no id comes twice; otherwise the id whose second occurrence comes
first is reported. The list of a schema and its index are two views of the same fields: an id leads
to the place of its field and to no other, so looking an id up never goes past the end of the list,
and finds what a search of the list finds.

* `indexFields_eq_error` — what is reported behind fields that were indexed already.
* `positionOf?_eq_some_iff` — the position of an id is the one place where it stands.
* `Schema.ofFields_indexes` — the main statement: success, the id reported, and the index.
-/

namespace LinkedRecords

/-! ## Ids that come again -/

/-- Whether `id` is the one whose second occurrence in `ids` comes first. -/
def FirstRepeat (ids : List FieldId) (id : FieldId) : Prop :=
  ∃ before after, ids = before ++ id :: after ∧ before.Nodup ∧ id ∈ before

theorem FirstRepeat.not_nodup {ids : List FieldId} {id : FieldId} (h : FirstRepeat ids id) :
    ¬ids.Nodup := by
  rcases h with ⟨before, after, rfl, -, hagain⟩
  intro hnodup
  exact List.disjoint_of_nodup_append hnodup hagain List.mem_cons_self

/-- Whether `id` comes again first, where the ids `known` stand before the others. -/
def RepeatsBehind (known ids : List FieldId) (id : FieldId) : Prop :=
  ∃ before after, ids = before ++ id :: after ∧ (known ++ before).Nodup ∧ id ∈ known ++ before

namespace RepeatsBehind

variable {known ids : List FieldId} {a id : FieldId}

theorem cons_of_mem (hknown : known.Nodup) (ha : a ∈ known) :
    RepeatsBehind known (a :: ids) id ↔ a = id := by
  constructor
  · rintro ⟨before, after, hids, hnodup, -⟩
    cases before with
    | nil => exact (List.cons.inj hids).1
    | cons b before =>
        -- the head is known already, so nothing without repetitions goes past it
        obtain rfl : a = b := (List.cons.inj hids).1
        exact absurd List.mem_cons_self (List.disjoint_of_nodup_append hnodup ha)
  · rintro rfl
    exact ⟨[], ids, rfl, by simpa using hknown, by simpa using ha⟩

theorem cons_of_not_mem (ha : a ∉ known) :
    RepeatsBehind known (a :: ids) id ↔ RepeatsBehind (known ++ [a]) ids id := by
  constructor
  · rintro ⟨before, after, hids, hnodup, hagain⟩
    cases before with
    | nil =>
        obtain rfl : a = id := (List.cons.inj hids).1
        -- the repeat cannot be the head, which is not known yet
        exact absurd (by simpa using hagain) ha
    | cons b before =>
        obtain rfl : a = b := (List.cons.inj hids).1
        rw [List.append_cons] at hnodup hagain
        exact ⟨before, after, (List.cons.inj hids).2, hnodup, hagain⟩
  · rintro ⟨before, after, rfl, hnodup, hagain⟩
    rw [← List.append_cons] at hnodup hagain
    exact ⟨a :: before, after, rfl, hnodup, hagain⟩

end RepeatsBehind

/-- Behind fields with the ids `known`, the index reports the first id that is known by then. The
keys of `seen` are these ids. -/
theorem indexFields_eq_error {next : Nat} {seen : Keyed FieldId Nat} {known : List FieldId}
    {fields : List Field} {id : FieldId} (hseen : ∀ b, seen.contains b = true ↔ b ∈ known)
    (hknown : known.Nodup) :
    indexFields next seen fields = .error id ↔ RepeatsBehind known (fields.map (·.id)) id := by
  -- the index grows with every field, so `seen` and `known` must stay arbitrary
  induction fields generalizing next seen known with
  | nil => simp [indexFields, RepeatsBehind]
  | cons f fs ih =>
      rw [List.map_cons]
      by_cases hmem : f.id ∈ known
      · rw [indexFields, if_pos ((hseen f.id).2 hmem), Except.error.injEq,
          RepeatsBehind.cons_of_mem hknown hmem]
      · -- the field is put behind those that are known, and no id comes twice among these
        have hput : ∀ b, (seen.put f.id next).contains b = true ↔ b ∈ known ++ [f.id] := by
          intro b
          rw [Keyed.contains, Keyed.get?_put, List.mem_append, List.mem_singleton, ← hseen]
          by_cases hb : f.id = b
          · simp [hb]
          · simp [hb, Ne.symm hb, Keyed.contains]
        have hnodup : (known ++ [f.id]).Nodup := by
          rw [List.nodup_append_comm, List.singleton_append]
          exact List.nodup_cons.2 ⟨hmem, hknown⟩
        rw [indexFields, if_neg fun h => hmem ((hseen f.id).1 h), ih hput hnodup,
          RepeatsBehind.cons_of_not_mem hmem]

theorem Schema.ofFields_eq_error {fields : List Field} {id : FieldId} :
    Schema.ofFields fields = .error id ↔ FirstRepeat (fields.map (·.id)) id := by
  have herror : Schema.ofFields fields = .error id ↔ indexFields 0 .empty fields = .error id := by
    unfold Schema.ofFields
    split <;> simp [*]
  -- the pass starts with an empty index, so nothing is known at first
  have hempty : ∀ b, (Keyed.empty : Keyed FieldId Nat).contains b = true ↔ b ∈ [] := by
    simp [Keyed.contains]
  rw [herror, indexFields_eq_error hempty List.nodup_nil]
  rfl

/-! ## Places in the list -/

/-- Where no id comes twice, `positionOf? id fields` is the one place where `id` stands. -/
theorem positionOf?_eq_some_iff {fields : List Field} (hnodup : (fields.map (·.id)).Nodup)
    {id : FieldId} {i : Nat} :
    positionOf? id fields = some i ↔ ∃ hi : i < fields.length, fields[i].id = id := by
  rw [positionOf?, List.findIdx?_eq_some_iff_getElem]
  constructor
  · rintro ⟨hi, hid, -⟩
    exact ⟨hi, of_decide_eq_true hid⟩
  · rintro ⟨hi, hid⟩
    refine ⟨hi, decide_eq_true hid, ?_⟩
    -- an earlier place with the same id would be a second one
    intro j hj hjid
    have hne : fields[j].id ≠ fields[i].id :=
      List.pairwise_iff_getElem.1 (List.pairwise_map.1 hnodup) j i (Nat.lt_trans hj hi) hi hj
    exact hne ((of_decide_eq_true hjid).trans hid.symm)

namespace Schema

theorem fields_of_ofFields {fields : List Field} {s : Schema} (h : ofFields fields = .ok s) :
    s.fields = fields := by
  unfold ofFields at h
  split at h
  · cases h
    rfl
  · cases h

theorem exists_ofFields_iff {fields : List Field} :
    (∃ s, ofFields fields = .ok s) ↔ (fields.map (·.id)).Nodup := by
  constructor
  · rintro ⟨s, h⟩
    rw [← fields_of_ofFields h]
    exact s.distinct
  · -- without a repeat there is no error that could be reported
    intro hnodup
    cases h : ofFields fields with
    | ok s => exact ⟨s, rfl⟩
    | error id => exact absurd hnodup (ofFields_eq_error.1 h).not_nodup

/-- The index leads from `id` to the place `i` where the field with this id stands, and nowhere
else. -/
theorem index_get?_eq_some_iff (s : Schema) {id : FieldId} {i : Nat} :
    s.index.get? id = some i ↔ ∃ hi : i < s.fields.length, s.fields[i].id = id := by
  rw [s.agrees, positionOf?_eq_some_iff s.distinct]

/-- The index of `s` knows `id` just if `s.get? id` finds a field, since no place lies outside the
list. -/
theorem contains_eq_isSome (s : Schema) (id : FieldId) : s.contains id = (s.get? id).isSome := by
  rw [contains, Keyed.contains, get?]
  cases hplace : s.index.get? id with
  | none => rfl
  | some i =>
      rcases s.index_get?_eq_some_iff.1 hplace with ⟨hi, -⟩
      rw [Option.bind_some, List.getElem?_eq_getElem hi]
      rfl

/-- Whether the schema `s` has the fields `fields`, and its index is a view of them. -/
structure Indexes (s : Schema) (fields : List Field) : Prop where
  fields_eq : s.fields = fields
  /-- Each place lies in the list, and there the field with the id stands. -/
  place_iff : ∀ id i, s.index.get? id = some i ↔ ∃ hi : i < fields.length, fields[i].id = id
  get?_eq : ∀ id, s.get? id = fields.find? fun f => f.id = id
  contains_eq : ∀ id, s.contains id = (s.get? id).isSome

/-- The list `fields` makes a schema that `Indexes` it, unless an id comes again; then the first
such id is reported. -/
theorem ofFields_indexes (fields : List Field) :
    ((∃ s, ofFields fields = .ok s) ↔ (fields.map (·.id)).Nodup) ∧
    (∀ id, ofFields fields = .error id ↔ FirstRepeat (fields.map (·.id)) id) ∧
    ∀ s, ofFields fields = .ok s → s.Indexes fields := by
  refine ⟨exists_ofFields_iff, fun id => ofFields_eq_error, ?_⟩
  intro s h
  have hfields : s.fields = fields := fields_of_ofFields h
  subst hfields
  constructor
  case fields_eq => rfl
  case place_iff => exact fun id i => s.index_get?_eq_some_iff
  case get?_eq => exact s.get?_eq_find?
  case contains_eq => exact s.contains_eq_isSome

end Schema

/-- The fields of a note. -/
def noteFields : List Field :=
  [⟨⟨"title"⟩, "Title", true, .scalar .string⟩, ⟨⟨"text"⟩, "Text", false, .scalar .string⟩,
    ⟨⟨"due"⟩, "Due", false, .scalar .date⟩]

/-- With `noteFields` once more from the end, all three ids come again, the last of them first. -/
theorem ofFields_indexes_notes :
    (∃ s, Schema.ofFields noteFields = .ok s ∧ s.Indexes noteFields) ∧
      Schema.ofFields (noteFields ++ noteFields.reverse) = .error ⟨"due"⟩ := by
  constructor
  · rcases Schema.ofFields_indexes noteFields with ⟨hexists, -, hindexes⟩
    rcases hexists.2 (by decide) with ⟨s, hs⟩
    exact ⟨s, hs, hindexes s hs⟩
  · rcases Schema.ofFields_indexes (noteFields ++ noteFields.reverse) with ⟨-, hrepeat, -⟩
    refine (hrepeat ⟨"due"⟩).2 ⟨noteFields.map (·.id), [⟨"text"⟩, ⟨"title"⟩], rfl, ?_, ?_⟩
    · decide
    · decide

end LinkedRecords
