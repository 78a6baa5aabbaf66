import LinkedRecords.Schema.Table

/-! # Where fields are stored

The columns that hold the values of each field in the table of records. Fields that are computed
are known to a layout but have no column.
-/

namespace LinkedRecords

/-- A column of a table of records. -/
structure Column where
  name : String
  field : FieldId
  /-- Whether the column is named for its role and not for the field. -/
  system : Bool
deriving DecidableEq, Repr

/-- The columns of each field of a table. -/
structure Layout where
  table : TableId
  columns : Keyed FieldId (List Column)
deriving Inhabited

/-- The columns of a field with this id and kind. -/
def columnsFor (id : FieldId) : FieldKind → List Column
  | .scalar .id => [⟨"id", id, true⟩]
  | .scalar .createdAt => [⟨"created_at", id, true⟩]
  | .scalar .updatedAt => [⟨"updated_at", id, true⟩]
  | .scalar .autoIncrement => [⟨"auto_increment", id, true⟩]
  | .scalar .dateRange => [⟨id.text ++ "_from", id, false⟩, ⟨id.text ++ "_to", id, false⟩]
  | .scalar _ | .relation _ => [⟨id.text, id, false⟩]
  | .attachment | .attached _ _ => []

namespace Layout

/-- The layout of a table that knows no field. -/
def empty (table : TableId) : Layout := ⟨table, .empty⟩

/-- The layout with these columns for a field. -/
def put (l : Layout) (field : FieldId) (columns : List Column) : Layout :=
  { l with columns := l.columns.put field columns }

/-- The layout that does not know the field. -/
def remove (l : Layout) (field : FieldId) : Layout :=
  { l with columns := l.columns.remove field }

/-- The columns of a field; `none` if the layout does not know it. -/
def columns? (l : Layout) (field : FieldId) : Option (List Column) := l.columns.get? field

@[simp] theorem columns?_put (l : Layout) (field id : FieldId) (columns : List Column) :
    (l.put field columns).columns? id = if field = id then some columns else l.columns? id :=
  Keyed.get?_put ..

@[simp] theorem columns?_remove (l : Layout) (field id : FieldId) :
    (l.remove field).columns? id = if field = id then none else l.columns? id :=
  Keyed.get?_remove ..

/-- Whether the layout knows the field. -/
def contains (l : Layout) (field : FieldId) : Bool := l.columns.contains field

/-- The layout in which a table is stored. -/
def ofTable (t : Table) : Layout :=
  t.schema.fields.foldl (fun l f => l.put f.id (columnsFor f.id f.kind)) (empty t.id)

end Layout

end LinkedRecords
