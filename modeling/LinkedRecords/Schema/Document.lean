import LinkedRecords.Schema.Kind
import LinkedRecords.Schema.Table

/-! # Tables and schemas in documents

A field document holds the type name and the option of a field's kind. Two ways lead from a
document to a schema: reading all of the text first and making sense of the kinds afterwards, or
making sense of each field as soon as it is read.
-/

namespace LinkedRecords

open Json

/-- Why a document gives no schema. -/
inductive SchemaError where
  | unknownKind (field : FieldId) (kind : String)
  | invalidOption (field : FieldId) (kind : String) (why : Mismatch)
  | duplicateField (field : FieldId)
  | document (fault : Fault)

namespace SchemaError

/-- The wording of a document's fault; of a text that is not JSON nothing more is said. -/
def faultMessage : Fault → String
  | .malformed => ""
  | .mismatch m => m.message

/-- The error in words. -/
def message : SchemaError → String
  | unknownKind field kind => "Field '" ++ field.text ++ "' has unknown kind '" ++ kind ++ "'"
  | invalidOption field kind why =>
    "Invalid option for " ++ kind ++ " field '" ++ field.text ++ "': " ++ why.message
  | duplicateField field => "Duplicate field id: " ++ field.text
  | document fault => "JSON error: " ++ faultMessage fault

end SchemaError

/-- An option that is `null` is one without members. -/
def presentOption : Value → Value
  | .null => .object []
  | v => v

/-- The kind with this type name and option, for the field `id`. -/
def FieldKind.ofParts (id : FieldId) (typeName : String) (option : Value) :
    Except SchemaError FieldKind :=
  match decoder? typeName with
  | none => .error (.unknownKind id typeName)
  | some decode => (decode (presentOption option)).mapError (.invalidOption id typeName)

/-! ## Documents -/

/-- A field as documents hold it. -/
structure FieldDocument where
  id : FieldId
  name : String
  display : Bool
  typeName : String
  option : Value

/-- A table as documents hold it. -/
structure TableDocument where
  id : TableId
  name : String
  deleted : Bool
  fields : List FieldDocument

namespace FieldDocument

/-- The members of a field document, in which an option may nest this deep. -/
def record (depth : Nat) : Record Reader where
  title := "struct FieldDto"
  slots := [⟨FieldId, "id", FieldId.mk <$> Reader.string, none⟩,
    ⟨String, "name", Reader.string, some ""⟩, ⟨Bool, "display", Reader.bool, some false⟩,
    ⟨String, "type", Reader.string, none⟩, ⟨Value, "option", Reader.value depth, some .null⟩]

/-- Reads a field document that may nest this deep. -/
def reader (depth : Nat) : Reader FieldDocument := do
  let (id, name, display, typeName, option, ()) ← Reader.record (record (depth - 1))
  return ⟨id, name, display, typeName, option⟩

/-- The field that a document describes. -/
def field (doc : FieldDocument) : Except SchemaError Field :=
  (FieldKind.ofParts doc.id doc.typeName doc.option).map (⟨doc.id, doc.name, doc.display, ·⟩)

end FieldDocument

namespace TableDocument

/-- The members of a table document that may nest this deep. -/
def record (depth : Nat) : Record Reader where
  title := "struct TableDto"
  slots := [⟨TableId, "id", TableId.mk <$> Reader.string, none⟩,
    ⟨String, "name", Reader.string, some ""⟩, ⟨Bool, "deleted", Reader.bool, some false⟩,
    ⟨List FieldDocument, "schema", Reader.list (FieldDocument.reader (depth - 2)), some []⟩]

/-- Reads a table document that may nest this deep. -/
def reader (depth : Nat) : Reader TableDocument := do
  let (id, name, deleted, fields, ()) ← Reader.record (record depth)
  return ⟨id, name, deleted, fields⟩

end TableDocument

/-! ## Reading all of the text first -/

/-- The schema that field documents describe: all kinds are made sense of before ids are
compared. -/
def Schema.ofDocuments (docs : List FieldDocument) : Except SchemaError Schema := do
  let fields ← docs.mapM FieldDocument.field
  (Schema.ofFields fields).mapError .duplicateField

/-- The schema of a text that holds a list of field documents. -/
def Schema.ofJson (text : String) : Except SchemaError Schema := do
  let docs ← ((Reader.list (FieldDocument.reader (Reader.nestingLimit - 1))).run text).mapError
    .document
  Schema.ofDocuments docs

/-- The table of a text that holds a table document. -/
def Table.ofJson (text : String) : Except SchemaError Table := do
  let doc ← ((TableDocument.reader Reader.nestingLimit).run text).mapError .document
  return ⟨doc.id, doc.name, ← Schema.ofDocuments doc.fields, doc.deleted⟩

/-! ## Making sense of each field at once -/

/-- What a document means, or the refusal of the document with the error's words. -/
def Reader.accept {α : Type} (result : Except SchemaError α) : Reader α :=
  match result with
  | .ok a => return a
  | .error e => throw (.refuse e.message)

/-- Reads a field document that may nest this deep, and makes sense of it. -/
def Field.reader (depth : Nat) : Reader Field := do
  Reader.accept (← FieldDocument.reader depth).field

/-- Reads a list of field documents that may nest this deep, making sense of each at once. -/
def Schema.reader (depth : Nat) : Reader Schema := do
  let fields ← Reader.list (Field.reader (depth - 1))
  Reader.accept ((Schema.ofFields fields).mapError .duplicateField)

end LinkedRecords
