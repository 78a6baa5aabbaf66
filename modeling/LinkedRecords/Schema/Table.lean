import LinkedRecords.Keyed
import LinkedRecords.Schema.Field

/-! # Tables

A schema is a list of fields with distinct ids, kept with an index from ids to positions; a table
is a schema with an id. The main statement says that looking an id up in the index is the same as
searching the list.
-/

namespace LinkedRecords

/-- The positions of the fields, counted on from `next`, added to those already `seen`; or the
first id that comes again. -/
def indexFields (next : Nat) (seen : Keyed FieldId Nat) :
    List Field → Except FieldId (Keyed FieldId Nat)
  | [] => .ok seen
  | f :: fs =>
    if seen.contains f.id then .error f.id
    else indexFields (next + 1) (seen.put f.id next) fs

/-- The position of the first field with the id. -/
def positionOf? (id : FieldId) (fields : List Field) : Option Nat :=
  fields.findIdx? fun f => f.id = id

theorem get?_of_indexFields {next : Nat} {seen index : Keyed FieldId Nat} {fields : List Field}
    (h : indexFields next seen fields = .ok index) (id : FieldId) :
    index.get? id = (seen.get? id <|> (positionOf? id fields).map (next + ·)) := by
  induction fields generalizing next seen with
  | nil =>
    obtain rfl : seen = index := by simpa [indexFields] using h
    cases seen.get? id <;> simp [positionOf?]
  | cons f fs ih =>
    by_cases hc : seen.contains f.id = true
    · simp [indexFields, hc] at h
    · rw [indexFields, if_neg hc] at h
      rw [ih h, Keyed.get?_put]
      by_cases hid : f.id = id
      · have hnone : seen.get? id = none := by
          rw [← hid]
          simpa [Keyed.contains] using hc
        simp [positionOf?, List.findIdx?_cons, hid, hnone]
      · have : next + 1 = 1 + next := Nat.add_comm ..
        cases seen.get? id <;>
          simp [positionOf?, List.findIdx?_cons, hid, Option.map_map, Function.comp_def,
            Nat.add_assoc, Nat.add_comm 1]

theorem distinct_of_indexFields {next : Nat} {seen index : Keyed FieldId Nat}
    {fields : List Field} (h : indexFields next seen fields = .ok index) :
    (fields.map (·.id)).Nodup ∧ ∀ f ∈ fields, seen.contains f.id = false := by
  induction fields generalizing next seen with
  | nil => simp
  | cons f fs ih =>
    by_cases hc : seen.contains f.id = true
    · simp [indexFields, hc] at h
    · rw [indexFields, if_neg hc] at h
      obtain ⟨hnodup, hnew⟩ := ih h
      have hother : ∀ g ∈ fs, f.id ≠ g.id ∧ seen.contains g.id = false := by
        intro g hg
        have hput := hnew g hg
        rw [Keyed.contains, Keyed.get?_put] at hput
        by_cases hid : f.id = g.id
        · rw [if_pos hid] at hput
          cases hput
        · rw [if_neg hid] at hput
          exact ⟨hid, hput⟩
      refine ⟨?_, ?_⟩
      · rw [List.map_cons, List.nodup_cons]
        refine ⟨?_, hnodup⟩
        simp only [List.mem_map, not_exists, not_and]
        exact fun g hg => (hother g hg).1.symm
      · intro g hg
        rcases List.mem_cons.1 hg with rfl | hg
        · simpa using hc
        · exact (hother g hg).2

/-- Fields with distinct ids in order, and an index from their ids to their positions. -/
structure Schema where
  fields : List Field
  index : Keyed FieldId Nat
  distinct : (fields.map (·.id)).Nodup
  agrees : ∀ id, index.get? id = positionOf? id fields

namespace Schema

/-- The schema of these fields, or the first id that comes again. -/
def ofFields (fields : List Field) : Except FieldId Schema :=
  match h : indexFields 0 .empty fields with
  | .ok index =>
    .ok ⟨fields, index, (distinct_of_indexFields h).1, fun id => by simp [get?_of_indexFields h id]⟩
  | .error id => .error id

/-- The schema without fields. -/
def empty : Schema := ⟨[], .empty, List.nodup_nil, fun _ => rfl⟩

instance : Inhabited Schema := ⟨empty⟩

/-- The field with the id. -/
def get? (s : Schema) (id : FieldId) : Option Field :=
  (s.index.get? id).bind (s.fields[·]?)

/-- Whether there is a field with the id. -/
def contains (s : Schema) (id : FieldId) : Bool := s.index.contains id

/-- The number of fields. -/
def size (s : Schema) : Nat := s.fields.length

/-- The ids of the fields that relations to the table show. -/
def displayIds (s : Schema) : List FieldId :=
  (s.fields.filter (·.display)).map (·.id)

theorem getElem?_positionOf? (id : FieldId) (fields : List Field) :
    (positionOf? id fields).bind (fields[·]?) = fields.find? (fun f => f.id = id) := by
  induction fields with
  | nil => rfl
  | cons f fs ih =>
    by_cases h : f.id = id
    · simp [positionOf?, List.findIdx?_cons, h]
    · rw [positionOf?, List.findIdx?_cons, if_neg (by simpa using h), Option.bind_map,
        List.find?_cons_of_neg (by simpa using h)]
      exact ih

/-- The index finds what a search of the list finds. -/
theorem get?_eq_find? (s : Schema) (id : FieldId) :
    s.get? id = s.fields.find? (fun f => f.id = id) := by
  rw [get?, s.agrees, getElem?_positionOf?]

end Schema

/-- A table. -/
structure Table where
  id : TableId
  name : String
  schema : Schema
  /-- Whether the table has been deleted, though its records are still there. -/
  deleted : Bool

/-- The field of a table with the id. -/
def Table.field? (t : Table) (id : FieldId) : Option Field := t.schema.get? id

end LinkedRecords
