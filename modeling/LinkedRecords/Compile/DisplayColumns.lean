import LinkedRecords.Compile.Error
import LinkedRecords.Layout
import LinkedRecords.Sql.Query

/-! # Shown columns

The fields of the foreign table that a relation shows, each with its columns, and the two queries
about them: the foreign records with one column to a field, and the values gathered over all
linked records.
-/

namespace LinkedRecords

open Sql

/-- The columns of a field, which the layout must know. -/
def Layout.require (l : Layout) (field : FieldId) : Except CompileError (List Column) :=
  match l.columns? field with
  | some columns => .ok columns
  | none => .error (.inconsistentLayout l.table field)

/-- The fields that a relation shows: those that it names, or else those that the foreign table
marks. -/
def Relation.displayIds (r : Relation) (foreign : Table) : List FieldId :=
  if r.display.isEmpty then foreign.schema.displayIds else r.display

/-- A field of the foreign table with its columns. -/
structure DisplayColumn where
  field : FieldId
  columns : List Column
deriving DecidableEq, Repr

namespace DisplayColumn

/-- The field's value under its id: missing without a column, the column itself, or the values of
several columns in one array. -/
def projection (c : DisplayColumn) : SelectItem :=
  let id := c.field.text
  match c.columns with
  | [] => .named .null id
  | [column] => if column.name = id then ⟨.col column.name, none⟩ else .named (.col column.name) id
  | columns => .named (.jsonArray (columns.map fun column => .col column.name)) id

/-- The column of a field, which must be in the foreign table and known to its layout. -/
def ofField (foreign : Table) (layout : Layout) (field : FieldId) :
    Except CompileError DisplayColumn := do
  if foreign.schema.contains field then return ⟨field, ← layout.require field⟩
  else throw (.unknownForeignField foreign.id field)

/-- The columns of these fields, each field once. -/
def collect (foreign : Table) (layout : Layout) (fields : List FieldId) :
    Except CompileError (List DisplayColumn) :=
  fields.eraseDups.mapM (ofField foreign layout)

/-- The values of a field over all linked records. Several columns were packed into an array, which
is text by now and is read again. -/
def gathered (foreignAlias : String) (c : DisplayColumn) : SelectItem :=
  let value := Expr.of foreignAlias c.field.text
  .named (.jsonGroupArray (if c.columns.length > 1 then value.json else value)) c.field.text

end DisplayColumn

/-- The foreign records: their id and the shown fields. Every column is grouped by, so that engines
with strict rules accept the query. -/
def foreignRecords (table : TableId) (idColumn : String) (columns : List DisplayColumn) : Query :=
  columns.foldl
    (fun q c => c.columns.foldl (fun q column => q.addGroup (.col column.name))
      (q.addItem c.projection))
    ((({} : Query).select [⟨.col idColumn, none⟩]).readFrom (.table table.text)
      |>.addGroup (.col idColumn))

/-- The shown values in one object under the id of the field that shows them. Each column holds an
array that is text by now and is read again. -/
def expandItem (owner : FieldId) (display : List FieldId) (linksAlias name : String) : SelectItem :=
  let shown := display.map fun id => (id.text, (Expr.of linksAlias id.text).json)
  .named (.jsonObject [(owner.text, .jsonObject shown)]) name

end LinkedRecords
