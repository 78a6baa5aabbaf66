import LinkedRecords.Catalog
import LinkedRecords.Proofs.Schema
import Mathlib.Data.List.Induction

/-! # Registries over their whole life

A registry that tables were only put into and marked deleted in keeps, for every table that it
holds, the layout of that table: neither replacing a table nor deleting it parts the two.

* `Layout.columns?_ofTable` — the layout made of a table holds the columns of its fields.
* `Registry.table?_markDeleted` — what marking a table deleted changes.
* `Registry.Built.layout?` — in a registry that was `Built`, every table has its own layout.
-/

namespace LinkedRecords

/-! ## The layout of a table -/

namespace Layout

/-- The layout of the table `t` holds the columns of each field of `t`, and knows no others. -/
theorem columns?_ofTable (t : Table) (id : FieldId) :
    (ofTable t).columns? id = (t.field? id).map fun f => columnsFor f.id f.kind := by
  have hfold : ∀ fields : List Field, (fields.map (·.id)).Nodup →
      (fields.foldl (fun l f => l.put f.id (columnsFor f.id f.kind)) (empty t.id)).columns? id =
        (fields.find? fun f => f.id = id).map fun f => columnsFor f.id f.kind := by
    intro fields hnodup
    -- a layout is filled from the front, so fields are taken off at the end
    induction fields using List.reverseRecOn with
    | nil => rfl
    | append_singleton fields f ih =>
        rw [List.map_append, List.nodup_append] at hnodup
        rw [List.foldl_append, List.foldl_cons, List.foldl_nil, columns?_put, ih hnodup.1,
          List.find?_append]
        by_cases hid : f.id = id
        · -- the last field is the only one with its id
          have hnone : fields.find? (fun g => g.id = id) = none := by
            rw [List.find?_eq_none]
            intro g hg hgid
            have hsame : g.id = f.id := by simpa [hid] using hgid
            exact hnodup.2.2 g.id (List.mem_map_of_mem hg) f.id (by simp) hsame
          simp [hid, hnone]
        · simp [hid]
  rw [ofTable, hfold _ t.schema.distinct, Table.field?, Schema.get?_eq_find?]

theorem isSome_columns?_ofTable (t : Table) (id : FieldId) :
    ((ofTable t).columns? id).isSome = t.schema.contains id := by
  rw [columns?_ofTable, Option.isSome_map, Bool.eq_iff_iff, Schema.contains_iff,
    Option.isSome_iff_exists]
  simp only [Table.field?_eq_some_iff]

/-- The layout `ofTable t` names the table `t`. -/
theorem table_ofTable (t : Table) : (ofTable t).table = t.id := by
  -- the layout that the fold starts from is arbitrary, as it changes from step to step
  have hfold : ∀ (fields : List Field) (l : Layout),
      (fields.foldl (fun l f => l.put f.id (columnsFor f.id f.kind)) l).table = l.table := by
    intro fields
    induction fields with
    | nil =>
        intro l
        rfl
    | cons f fields ih =>
        intro l
        exact ih (l.put f.id (columnsFor f.id f.kind))
  exact hfold t.schema.fields (empty t.id)

end Layout

/-! ## Registries -/

namespace Registry

variable {r : Registry}

theorem layout?_insert (r : Registry) (t : Table) (id : TableId) :
    (r.insert t).catalog.layout? id =
      if t.id = id then some (.ofTable t) else r.catalog.layout? id :=
  layout?_insertWith r t (.ofTable t) id

theorem table?_insert (r : Registry) (t : Table) (id : TableId) :
    (r.insert t).catalog.table? id = if t.id = id then some t else r.catalog.table? id :=
  table?_insertWith r t (.ofTable t) id

/-- Marking the table `id` deleted sets its flag and changes nothing else. -/
theorem table?_markDeleted (r : Registry) (id id' : TableId) :
    (r.markDeleted id).2.catalog.table? id' =
      (r.catalog.table? id').map fun t => if id = id' then { t with deleted := true } else t := by
  rw [markDeleted]
  split
  case h_1 t ht =>
    by_cases hid : id = id'
    · subst hid
      simp [catalog, ht]
    · simp [catalog, hid]
  -- no table has the id, so the registry stays and the flag is set nowhere
  case h_2 hnone =>
    by_cases hid : id = id'
    · subst hid
      simp [catalog, hnone]
    · simp [hid]

theorem layout?_markDeleted (r : Registry) (id id' : TableId) :
    (r.markDeleted id).2.catalog.layout? id' = r.catalog.layout? id' := by
  rw [markDeleted]
  split <;> rfl

/-- A table that the catalog finds under `id` stands in `r.tables` under that id. -/
theorem mem_entries_of_table? {id : TableId} {t : Table} (h : r.catalog.table? id = some t) :
    (id, t) ∈ r.tables.entries := by
  rcases List.lookup_eq_some_iff.1 h with ⟨before, after, hentries, -⟩
  rw [hentries]
  exact List.mem_append_right before List.mem_cons_self

/-- The registries that come of putting tables in with `insert` and of `markDeleted`, in any
order. -/
inductive Built : Registry → Prop
  | empty : Built .empty
  | insert {r : Registry} (h : Built r) (t : Table) : Built (r.insert t)
  | markDeleted {r : Registry} (h : Built r) (id : TableId) : Built (r.markDeleted id).2

/-- Every table of a registry that was `Built` is stored in its own layout, whatever has become of
it. -/
theorem Built.layout? (h : r.Built) (id : TableId) :
    r.catalog.layout? id = (r.catalog.table? id).map .ofTable := by
  induction h with
  | empty => rfl
  | insert h t ih =>
      rw [layout?_insert, table?_insert, ih]
      by_cases hid : t.id = id
      · rw [if_pos hid, if_pos hid, Option.map_some]
      · rw [if_neg hid, if_neg hid]
  | markDeleted h id' ih =>
      rw [layout?_markDeleted, table?_markDeleted, ih, Option.map_map]
      refine congrArg (Option.map · _) (funext fun t => ?_)
      -- a layout does not tell whether its table is deleted
      by_cases hid : id' = id
      · rw [Function.comp_apply, if_pos hid]
        rfl
      · rw [Function.comp_apply, if_neg hid]

end Registry

end LinkedRecords
