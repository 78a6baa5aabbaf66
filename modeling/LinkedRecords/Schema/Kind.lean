import LinkedRecords.Json.Record
import LinkedRecords.Schema.Field

/-! # Field kinds in documents

A document tells the kind of a field by a type name and an option. Reading what writing produces
gives the kind back; an option may also hold members that its kind does not know, and be written
as an array.
-/

namespace LinkedRecords

open Json

/-! ## Writing -/

/-- The members for the ids of shown fields; none if there are none. -/
def displayMember (ids : List FieldId) : List (String × Value) :=
  if ids.isEmpty then [] else [("displayFieldIds", .strings (ids.map (·.text)))]

/-- The member for an id that may be missing. -/
def idMember (key : String) : Option String → List (String × Value)
  | some text => [(key, .string text)]
  | none => []

/-- The option of a reference. -/
def Reference.option (r : Reference) : Value :=
  .object (displayMember r.display ++
    [("foreignTableId", .string r.foreignTable.text), ("isOwner", .bool r.isOwner)] ++
    idMember "symmetricFieldId" (r.symmetric.map (·.text)))

/-- The option of a hierarchy whose partner stands under the key. -/
def Hierarchy.option (h : Hierarchy) (partnerKey : String) : Value :=
  .object (displayMember h.display ++ idMember "foreignTableId" (h.foreignTable.map (·.text)) ++
    idMember partnerKey (h.partner.map (·.text)))

/-- The option of an attached field. -/
def Attached.option (owner : FieldId) : Attached → Value
  | lookup ids =>
    .object [("displayFieldIds", .strings (ids.map (·.text))),
      ("referenceFieldId", .string owner.text)]
  | count => .object [("referenceFieldId", .string owner.text)]
  | sum source | average source =>
    .object [("aggregateFieldId", .string source.text), ("referenceFieldId", .string owner.text)]

/-- The option of a field kind; kinds of plain values and of files have none. -/
def FieldKind.option : FieldKind → Value
  | scalar _ | attachment => .null
  | relation (.reference r) => r.option
  | relation (.tree h) => h.option "parentFieldId"
  | relation (.parent h) => h.option "treeFieldId"
  | attached owner shows => shows.option owner

/-! ## Reading -/

/-- The id of a field. -/
def FieldId.decoder : Decoder FieldId := FieldId.mk <$> Decoder.string

/-- The id of a table. -/
def TableId.decoder : Decoder TableId := TableId.mk <$> Decoder.string

/-- The ids of shown fields, none if absent. -/
def displaySlot : Slot Decoder :=
  ⟨List FieldId, "displayFieldIds", Decoder.list FieldId.decoder, some []⟩

/-- The id of a field, which must be there. -/
def fieldSlot (key : String) : Slot Decoder := ⟨FieldId, key, FieldId.decoder, none⟩

/-- The id of a field, if there is one. -/
def partnerSlot (key : String) : Slot Decoder :=
  ⟨Option FieldId, key, Decoder.optional FieldId.decoder, some none⟩

/-- The option of a reference. -/
def Reference.record : Record Decoder where
  title := "struct ReferenceOption"
  slots := [⟨Bool, "isOwner", Decoder.bool, some false⟩,
    ⟨TableId, "foreignTableId", TableId.decoder, none⟩, partnerSlot "symmetricFieldId", displaySlot]

/-- The reference of an option. -/
def Reference.decoder : Decoder Reference := do
  let (isOwner, foreign, symmetric, display, ()) ← Decoder.record Reference.record
  return ⟨isOwner, foreign, symmetric, display⟩

/-- The option of one end of a hierarchy. -/
def Hierarchy.record (title partnerKey : String) : Record Decoder where
  title := title
  slots := [⟨Option TableId, "foreignTableId", Decoder.optional TableId.decoder, some none⟩,
    partnerSlot partnerKey, displaySlot]

/-- One end of a hierarchy. -/
def Hierarchy.decoder (title partnerKey : String) : Decoder Hierarchy := do
  let (foreign, partner, display, ()) ← Decoder.record (Hierarchy.record title partnerKey)
  return ⟨foreign, partner, display⟩

/-- The option of a tree field. -/
def Hierarchy.treeDecoder : Decoder Hierarchy :=
  Hierarchy.decoder "struct TreeOption" "parentFieldId"

/-- The option of a parent field. -/
def Hierarchy.parentDecoder : Decoder Hierarchy :=
  Hierarchy.decoder "struct ParentOption" "treeFieldId"

/-- The option of a lookup. -/
def Attached.lookupRecord : Record Decoder where
  title := "struct LookupOption"
  slots := [fieldSlot "referenceFieldId", displaySlot]

/-- The option of a count. -/
def Attached.countRecord : Record Decoder where
  title := "struct CountOption"
  slots := [fieldSlot "referenceFieldId"]

/-- The option of a sum or a mean. -/
def Attached.sourceRecord (title : String) : Record Decoder where
  title := title
  slots := [fieldSlot "referenceFieldId", fieldSlot "aggregateFieldId"]

/-- A lookup. -/
def Attached.lookupDecoder : Decoder FieldKind := do
  let (owner, display, ()) ← Decoder.record lookupRecord
  return .attached owner (.lookup display)

/-- A count. -/
def Attached.countDecoder : Decoder FieldKind := do
  let (owner, ()) ← Decoder.record countRecord
  return .attached owner .count

/-- A sum. -/
def Attached.sumDecoder : Decoder FieldKind := do
  let (owner, source, ()) ← Decoder.record (sourceRecord "struct SumOption")
  return .attached owner (.sum source)

/-- A mean. -/
def Attached.averageDecoder : Decoder FieldKind := do
  let (owner, source, ()) ← Decoder.record (sourceRecord "struct AverageOption")
  return .attached owner (.average source)

/-- The decoder of the options that belong to a type name; `none` if no kind has that name. -/
def FieldKind.decoder? : (typeName : String) → Option (Decoder FieldKind)
  | "id" => some (pure (.scalar .id))
  | "created_at" => some (pure (.scalar .createdAt))
  | "updated_at" => some (pure (.scalar .updatedAt))
  | "auto_increment" => some (pure (.scalar .autoIncrement))
  | "string" => some (pure (.scalar .string))
  | "email" => some (pure (.scalar .email))
  | "color" => some (pure (.scalar .color))
  | "number" => some (pure (.scalar .number))
  | "rating" => some (pure (.scalar .rating))
  | "bool" => some (pure (.scalar .bool))
  | "date" => some (pure (.scalar .date))
  | "date_range" => some (pure (.scalar .dateRange))
  | "select" => some (pure (.scalar .select))
  | "attachment" => some (pure .attachment)
  | "reference" => some ((fun r => .relation (.reference r)) <$> Reference.decoder)
  | "tree" => some ((fun h => .relation (.tree h)) <$> Hierarchy.treeDecoder)
  | "parent" => some ((fun h => .relation (.parent h)) <$> Hierarchy.parentDecoder)
  | "lookup" => some Attached.lookupDecoder
  | "count" => some Attached.countDecoder
  | "sum" => some Attached.sumDecoder
  | "average" => some Attached.averageDecoder
  | _ => none

end LinkedRecords
