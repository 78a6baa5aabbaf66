import LinkedRecords.Compile.Assembly
import LinkedRecords.Compile.AttachedFields

/-! # Fragments

The fragment of a relation joins its links, grouped by record; the links are joined to the foreign
records for the values shown. A reference reads edges, a hierarchy the table of ancestors and
descendants. The fragment of a file field joins its files, grouped by record.
-/

namespace LinkedRecords

open Sql

/-- A relation field and all that its fragment is made of. -/
structure Link where
  options : Options
  table : TableId
  field : FieldId
  foreign : TableId
  /-- The fields that the relation itself shows. -/
  display : List FieldId
  /-- The columns of all fields that are read. -/
  columns : List DisplayColumn
  attached : AttachedFields

namespace Link

/-- The link of a relation field; the fields that it reads must be known. -/
def ofRelation (options : Options) (table : TableId) (field : FieldId) (relation : Relation)
    (foreign : Table) (layout : Layout) (attached : AttachedFields) :
    Except CompileError Link := do
  let display := relation.displayIds foreign
  let columns ← DisplayColumn.collect foreign layout (display ++ attached.sources)
  return ⟨options, table, field, foreign.id, display, columns, attached⟩

/-- The alias of the links. -/
def linksAlias (l : Link) : String := Naming.linksAlias l.field

/-- The alias of the foreign records. -/
def foreignAlias (l : Link) : String := Naming.foreignAlias l.field

/-- The rows of a link table, joined to the foreign records by the column `foreign`, with the shown
values and the computed numbers behind the items `first`. -/
def rows (l : Link) (table : String) (first : List SelectItem) (foreign : Expr) : Query :=
  (({} : Query).select
      (first ++ l.columns.map (·.gathered l.foreignAlias) ++ l.attached.aggregates l.foreignAlias)
    |>.readFrom (.table table)
    |>.leftJoin (.derivedAs (foreignRecords l.foreign l.options.idColumn l.columns) l.foreignAlias)
      (foreign.equals (.of l.foreignAlias l.options.idColumn)))

/-- The links joined to the record by the column `current`, and the columns read from them. -/
def fragment (l : Link) (links : Query) (current : String) : Fragment where
  field := l.field
  label := l.linksAlias
  items := [.named (.of l.linksAlias l.field.text) l.field.text,
      expandItem l.field l.display l.linksAlias
        (Naming.expandColumn l.field l.options.expandSuffix)] ++
    l.attached.projections l.options l.linksAlias
  join := ⟨.derivedAs links l.linksAlias,
    (Expr.of l.linksAlias current).equals (.of l.options.baseAlias l.options.idColumn)⟩

/-- The links of a reference: its edges. -/
def referenceLinks (l : Link) (r : Reference) : Query :=
  let table := Naming.edgeTable l.table l.field r
  let ends := Naming.Orientation.of r
  let current := Expr.of table ends.current
  let foreign := Expr.of table ends.foreign
  (l.rows table [⟨current, none⟩, .named foreign.jsonGroupArray l.field.text] foreign).groupBy
    [current]

/-- The links of a tree: all descendants. -/
def treeLinks (l : Link) : Query :=
  let table := Naming.treeTable l.table l.field
  let parent := Expr.of table Naming.parentColumn
  let child := Expr.of table Naming.childColumn
  (l.rows table [⟨parent, none⟩, .named child.jsonGroupArray l.field.text] child)
    |>.filter ((Expr.of table Naming.depthColumn).greater (.int 0))
    |>.groupBy [parent]

/-- The links of a parent field: the direct parent. -/
def parentLinks (l : Link) (h : Hierarchy) : Query :=
  let table := Naming.parentTable l.table l.field h
  let parent := Expr.of table Naming.parentColumn
  let child := Expr.of table Naming.childColumn
  (l.rows table [⟨child, none⟩, .named parent l.field.text] parent)
    |>.filter ((Expr.of table Naming.depthColumn).equals (.int 1))
    |>.groupBy [child, parent]

/-- The fragment of a relation. -/
def resolve (l : Link) : Relation → Fragment
  | .reference r => l.fragment (l.referenceLinks r) (Naming.Orientation.of r).current
  | .tree _ => l.fragment l.treeLinks Naming.parentColumn
  | .parent h => l.fragment (l.parentLinks h) Naming.childColumn

end Link

/-! ## Files -/

/-- The properties of a file, in the order in which they are shown. -/
def fileColumns : List String := ["name", "mime_type", "id", "size", "token"]

/-- The files of a field, gathered by record. -/
def fileRows (options : FileOptions) (field : FieldId) : Query :=
  let file := Expr.jsonObject (fileColumns.map fun column => (column, .col column))
  (({} : Query).select [⟨.col options.recordColumn, none⟩, .named file.jsonGroupArray field.text]
    |>.readFrom (.table options.table)
    |>.filter ((Expr.col options.fieldColumn).equals (.text field.text))
    |>.groupBy [.col options.recordColumn])

/-- The fragment of a file field. A record without files shows an empty array. -/
def fileFragment (options : Options) (field : FieldId) : Fragment :=
  let label := Naming.filesAlias field options.files.table
  { field
    label
    items := [.named (.coalesce [.of label field.text, .jsonArray []]) field.text]
    join := ⟨.derivedAs (fileRows options.files field) label,
      (Expr.of label options.files.recordColumn).equals
        (.of options.baseAlias options.idColumn)⟩ }

end LinkedRecords
