/-! # Fields

A table is described by its fields. A field holds plain values or files, links its record to
records of a table (a relation), or is attached to a relation and shows something about the
records linked through it.
-/

namespace LinkedRecords

/-- The id of a table, which is also the name of the table that its records are stored in. -/
structure TableId where
  text : String
deriving DecidableEq, Repr, Inhabited

/-- The id of a field. -/
structure FieldId where
  text : String
deriving DecidableEq, Repr, Inhabited

/-- Ids are ordered by the code points of their text. -/
instance : LE FieldId := ⟨fun a b => a.text ≤ b.text⟩

instance (a b : FieldId) : Decidable (a ≤ b) := inferInstanceAs (Decidable (a.text ≤ b.text))

/-- The kinds of fields that hold plain values. The first four are kept by the system. -/
inductive ScalarKind where
  | id
  | createdAt
  | updatedAt
  | autoIncrement
  | string
  | email
  | color
  | number
  | rating
  | bool
  | date
  | dateRange
  | select
deriving DecidableEq, Repr

/-- A link to any number of records, kept as edges between the two tables. -/
structure Reference where
  /-- Whether the edges are kept under this field. -/
  isOwner : Bool
  foreignTable : TableId
  /-- The field of the foreign table that shows the same edges from the other end. -/
  symmetric : Option FieldId
  /-- Fields of the foreign table that are shown with each linked record. -/
  display : List FieldId
deriving DecidableEq, Repr

namespace Reference

/-- A reference without a partner that keeps its edges itself. -/
def owner (foreign : TableId) : Reference := ⟨true, foreign, none, []⟩

/-- The end of a symmetric pair that does not keep the edges. -/
def counterpart (foreign : TableId) (symmetric : FieldId) : Reference :=
  ⟨false, foreign, some symmetric, []⟩

/-- The reference paired with a field of the foreign table. -/
def withSymmetric (r : Reference) (symmetric : FieldId) : Reference :=
  { r with symmetric := some symmetric }

/-- The reference showing these fields. -/
def withDisplay (r : Reference) (display : List FieldId) : Reference := { r with display }

end Reference

/-- One end of a hierarchy: a tree field shows all descendants, a parent field the direct parent.
The hierarchy lies in the field's own table unless another one is named. -/
structure Hierarchy where
  foreignTable : Option TableId
  /-- The field at the other end: the parent field of a tree, the tree field of a parent. -/
  partner : Option FieldId
  display : List FieldId
deriving DecidableEq, Repr

/-- A link from the records of a table to records of a table. -/
inductive Relation where
  | reference (r : Reference)
  | tree (h : Hierarchy)
  | parent (h : Hierarchy)
deriving DecidableEq, Repr

namespace Relation

/-- The table linked to, for a relation of the table `owner`. -/
def foreignTable (owner : TableId) : Relation → TableId
  | reference r => r.foreignTable
  | tree h | parent h => h.foreignTable.getD owner

/-- The fields that the relation asks to show; none if the foreign table is to choose. -/
def display : Relation → List FieldId
  | reference r => r.display
  | tree h | parent h => h.display

/-- The kind of the relation. -/
def kindName : Relation → String
  | reference _ => "reference"
  | tree _ => "tree"
  | parent _ => "parent"

end Relation

/-- What a field attached to a relation shows about the records linked through it. -/
inductive Attached where
  /-- The values of these fields. -/
  | lookup (display : List FieldId)
  /-- How many there are. -/
  | count
  /-- The sum of a field. -/
  | sum (source : FieldId)
  /-- The mean of a field. -/
  | average (source : FieldId)
deriving DecidableEq, Repr

/-- The kinds of fields. -/
inductive FieldKind where
  | scalar (kind : ScalarKind)
  /-- Files. -/
  | attachment
  | relation (r : Relation)
  /-- Attached to the relation field `owner` of the same table. -/
  | attached (owner : FieldId) (shows : Attached)
deriving DecidableEq, Repr

namespace ScalarKind

/-- Every kind of plain value. -/
def all : List ScalarKind :=
  [.id, .createdAt, .updatedAt, .autoIncrement, .string, .email, .color, .number, .rating, .bool,
    .date, .dateRange, .select]

/-- The name of the kind in documents. -/
def typeName : ScalarKind → String
  | id => "id"
  | createdAt => "created_at"
  | updatedAt => "updated_at"
  | autoIncrement => "auto_increment"
  | string => "string"
  | email => "email"
  | color => "color"
  | number => "number"
  | rating => "rating"
  | bool => "bool"
  | date => "date"
  | dateRange => "date_range"
  | select => "select"

end ScalarKind

namespace FieldKind

/-- The name of the kind in documents. -/
def typeName : FieldKind → String
  | scalar kind => kind.typeName
  | attachment => "attachment"
  | relation r => r.kindName
  | attached _ (.lookup _) => "lookup"
  | attached _ .count => "count"
  | attached _ (.sum _) => "sum"
  | attached _ (.average _) => "average"

/-- The relation field that the field is attached to. -/
def owner? : FieldKind → Option FieldId
  | attached owner _ => some owner
  | _ => none

/-- The relation, if the field is one. -/
def relation? : FieldKind → Option Relation
  | relation r => some r
  | _ => none

end FieldKind

/-- A field of a table. -/
structure Field where
  id : FieldId
  name : String
  /-- Whether relations to the field's table show it. -/
  display : Bool
  kind : FieldKind
deriving DecidableEq, Repr

/-- The relation, if the field is one. -/
def Field.relation? (f : Field) : Option Relation := f.kind.relation?

end LinkedRecords
