import LinkedRecords.Naming
import LinkedRecords.Sql.Dialect

/-! # Options of a compilation -/

namespace LinkedRecords

/-- The table in which files are stored. -/
structure FileOptions where
  table : String := "attachment"
  /-- The column of the record that a file belongs to. -/
  recordColumn : String := "record_id"
  /-- The column of the field that a file belongs to. -/
  fieldColumn : String := "field_id"
deriving DecidableEq, Repr, Inhabited

/-- What a compilation can be told. -/
structure Options where
  /-- The engine that the query is for. -/
  dialect : Sql.Dialect := .sqlite
  /-- The alias of the table of records. -/
  baseAlias : String := "t"
  /-- The column of a record's id, in every table of records. -/
  idColumn : String := "id"
  /-- What the column of shown values adds to the id of its field. -/
  expandSuffix : String := Naming.defaultExpandSuffix
  /-- Whether a count of no records is zero and not missing. -/
  coalesceCounts : Bool := true
  files : FileOptions := {}
deriving DecidableEq, Repr, Inhabited

end LinkedRecords
