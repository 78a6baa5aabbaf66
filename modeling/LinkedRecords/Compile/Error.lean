import LinkedRecords.Schema.Field

/-! # Why a table cannot be compiled -/

namespace LinkedRecords

/-- Why a table cannot be compiled. A relation to a deleted table is no such reason: it is left
out and reported. -/
inductive CompileError where
  /-- A layout does not know a field. -/
  | inconsistentLayout (table : TableId) (field : FieldId)
  | missingLayout (table : TableId)
  /-- A field is attached to one that is not there. -/
  | missingOwner (field owner : FieldId)
  /-- A field is attached to one that is no relation. -/
  | invalidOwner (field owner : FieldId)
  /-- A field to be shown is not in the foreign table. -/
  | unknownForeignField (table : TableId) (field : FieldId)
deriving DecidableEq, Repr

/-- The error in words. -/
def CompileError.message : CompileError → String
  | inconsistentLayout table field =>
    "Schema inconsistency: field '" ++ field.text ++ "' has no underlying column in table '" ++
      table.text ++ "'"
  | missingLayout table => "No storage layout for table '" ++ table.text ++ "'"
  | missingOwner field owner =>
    "Field '" ++ field.text ++ "' is attached to missing field '" ++ owner.text ++ "'"
  | invalidOwner field owner =>
    "Field '" ++ field.text ++ "' is attached to '" ++ owner.text ++
      "', which is not a reference, tree or parent field"
  | unknownForeignField table field =>
    "Field '" ++ field.text ++ "' does not exist in foreign table '" ++ table.text ++ "'"

end LinkedRecords
