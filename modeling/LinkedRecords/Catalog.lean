import LinkedRecords.Layout

/-! # Catalogs

A catalog answers which tables there are and how they are stored. A registry keeps tables and
layouts, and is looked up as a catalog.
-/

namespace LinkedRecords

/-- The tables that relations may lead to, and the layouts that they are stored in. Whether a table
is deleted is no answer of its own: `Catalog.isDeleted` derives it from `table?`, and a catalog
cannot override it. -/
structure Catalog where
  /-- The table that is kept under an id. -/
  table? : TableId → Option Table
  /-- The layout of the table that is kept under an id. -/
  layout? : TableId → Option Layout

/-- Whether the table `id` is deleted, which its own mark in `c.table?` tells; a table that is not
there counts as deleted. -/
def Catalog.isDeleted (c : Catalog) (id : TableId) : Bool :=
  match c.table? id with
  | some t => t.deleted
  | none => true

/-- Tables and layouts, kept by table id, where every table is kept under its own. -/
structure Registry where
  tables : Keyed TableId Table
  layouts : Keyed TableId Layout
  named : ∀ id t, tables.get? id = some t → t.id = id

namespace Registry

/-- The registry without tables. -/
def empty : Registry := ⟨.empty, .empty, by simp⟩

instance : Inhabited Registry := ⟨empty⟩

/-- The registry with a table stored in this layout, in place of what was kept under its id. -/
def insertWith (r : Registry) (t : Table) (layout : Layout) : Registry :=
  ⟨r.tables.put t.id t, r.layouts.put t.id layout, by
    intro id t' h
    rw [Keyed.get?_put] at h
    split at h
    case isTrue hid => simpa [← Option.some.inj h] using hid
    case isFalse => exact r.named id t' h⟩

/-- The registry with a table stored in its own layout. -/
def insert (r : Registry) (t : Table) : Registry := r.insertWith t (.ofTable t)

/-- Marks a table deleted, and tells whether there is one. -/
def markDeleted (r : Registry) (id : TableId) : Bool × Registry :=
  match h : r.tables.get? id with
  | some t =>
    (true, ⟨r.tables.put id { t with deleted := true }, r.layouts, by
      intro id' t' h'
      rw [Keyed.get?_put] at h'
      split at h'
      case isTrue hid => simpa [← Option.some.inj h', ← hid] using r.named id t h
      case isFalse => exact r.named id' t' h'⟩)
  | none => (false, r)

/-- Forgets a layout, and returns it. -/
def removeLayout (r : Registry) (id : TableId) : Option Layout × Registry :=
  (r.layouts.get? id, { r with layouts := r.layouts.remove id })

/-- The registry as a catalog. -/
def catalog (r : Registry) : Catalog := ⟨r.tables.get?, r.layouts.get?⟩

@[simp] theorem table?_insertWith (r : Registry) (t : Table) (layout : Layout) (id : TableId) :
    (r.insertWith t layout).catalog.table? id = if t.id = id then some t else r.catalog.table? id :=
  Keyed.get?_put ..

@[simp] theorem layout?_insertWith (r : Registry) (t : Table) (layout : Layout) (id : TableId) :
    (r.insertWith t layout).catalog.layout? id =
      if t.id = id then some layout else r.catalog.layout? id :=
  Keyed.get?_put ..

@[simp] theorem layout?_removeLayout (r : Registry) (id id' : TableId) :
    (r.removeLayout id).2.catalog.layout? id' = if id = id' then none else r.catalog.layout? id' :=
  Keyed.get?_remove ..

end Registry

end LinkedRecords
