import LinkedRecords.Schema.Field

/-! # Names

The names of the tables that keep links, of their columns, and of the sources and columns of a
compiled query. They follow from the ids of tables and fields alone.
-/

namespace LinkedRecords.Naming

/-! ## Edges -/

/-- The column of an edge's first end. -/
def fromColumn : String := "from_id"

/-- The column of an edge's second end. -/
def toColumn : String := "to_id"

/-- The table of the edges kept under a reference field. -/
def edgeTableOf (table : TableId) (field : FieldId) : String :=
  table.text ++ "_" ++ field.text ++ "_adjacency_list"

/-- The table of the edges that a reference field shows: those of its symmetric field, if that one
is their owner. -/
def edgeTable (table : TableId) (field : FieldId) (r : Reference) : String :=
  match r.symmetric, r.isOwner with
  | some symmetric, false => edgeTableOf r.foreignTable symmetric
  | _, _ => edgeTableOf table field

/-- Which column of an edge holds the record, and which the one it is linked to. -/
structure Orientation where
  current : String
  foreign : String
deriving DecidableEq, Repr

/-- From the first end to the second. -/
def Orientation.along : Orientation := ⟨fromColumn, toColumn⟩

/-- From the second end to the first. -/
def Orientation.against : Orientation := ⟨toColumn, fromColumn⟩

/-- The end of a pair that does not own the edges reads them backwards. -/
def Orientation.of (r : Reference) : Orientation :=
  if r.symmetric.isSome && !r.isOwner then .against else .along

/-! ## Hierarchies -/

/-- The column of an ancestor. -/
def parentColumn : String := "parent_id"

/-- The column of a descendant. -/
def childColumn : String := "child_id"

/-- The column of the number of steps between the two. -/
def depthColumn : String := "depth"

/-- The table of the ancestors and descendants kept under a tree field. -/
def treeTable (table : TableId) (field : FieldId) : String :=
  table.text ++ "_" ++ field.text ++ "_closure_table"

/-- The table that a parent field reads: its tree field's, or else one of its own. -/
def parentTable (table : TableId) (field : FieldId) (h : Hierarchy) : String :=
  treeTable table (h.partner.getD field)

/-! ## Sources and columns of a query -/

/-- What the columns of shown values are named after, unless settings say otherwise. -/
def defaultExpandSuffix : String := "_expand"

/-- The alias of the links of a relation. -/
def linksAlias (field : FieldId) : String := "uta_" ++ field.text

/-- The alias of the records that a relation links to. -/
def foreignAlias (field : FieldId) : String := "fta_" ++ field.text

/-- The alias of the files of a field. -/
def filesAlias (field : FieldId) (filesTable : String) : String :=
  "r_" ++ field.text ++ "_" ++ filesTable

/-- The column of the values that a relation or a lookup shows. -/
def expandColumn (field : FieldId) (suffix : String) : String := field.text ++ suffix

end LinkedRecords.Naming
