import LinkedRecords.Catalog

/-! # Validating a table

A table is validated as a whole: every problem of every field is listed, in the order of the
fields. A relation to a deleted table is no problem.
-/

namespace LinkedRecords

/-- In what the two fields of a symmetric pair disagree. -/
inductive SymmetricIssue where
  | noReference
  | noWayBack
  | otherTable
deriving DecidableEq, Repr

/-- The issue in words. -/
def SymmetricIssue.message : SymmetricIssue → String
  | noReference => "symmetric field is not a reference field"
  | noWayBack => "symmetric field does not point back"
  | otherTable => "symmetric field targets another table"

/-- What is wrong with the pair of a tree and a parent field. -/
inductive HierarchyIssue where
  | otherTree (parent : FieldId)
  | noParent (field : FieldId)
  | otherTable (tree : FieldId)
  | noTree (field : FieldId)
deriving DecidableEq, Repr

/-- The issue in words. -/
def HierarchyIssue.message : HierarchyIssue → String
  | otherTree parent => "parent field '" ++ parent.text ++ "' is paired with another tree"
  | noParent field => "'" ++ field.text ++ "' is not a parent field"
  | otherTable tree => "tree field '" ++ tree.text ++ "' spans another table"
  | noTree field => "'" ++ field.text ++ "' is not a tree field"

/-- Something wrong with a field. -/
inductive Problem where
  /-- The field leads to a table that is not there. -/
  | undefinedTable (field : FieldId) (table : TableId)
  /-- The field names a field that is not there. -/
  | undefinedField (field : FieldId) (table : TableId) (missing : FieldId)
  /-- The field is attached to one that is no relation. -/
  | invalidOwner (field owner : FieldId)
  | symmetricMismatch (field symmetric : FieldId) (issue : SymmetricIssue)
  /-- Both fields of a symmetric pair, or none, own the edges. -/
  | ownerConflict (field symmetric : FieldId) (both : Bool)
  | invalidHierarchy (field : FieldId) (issue : HierarchyIssue)
deriving DecidableEq, Repr

/-- The problem in words. -/
def Problem.message : Problem → String
  | undefinedTable field table =>
    "Field '" ++ field.text ++ "' references undefined table '" ++ table.text ++ "'"
  | undefinedField field table missing =>
    "Field '" ++ field.text ++ "' references undefined field '" ++ missing.text ++
      "' in table '" ++ table.text ++ "'"
  | invalidOwner field owner =>
    "Field '" ++ field.text ++ "' is attached to '" ++ owner.text ++
      "', which is not a reference, tree or parent field"
  | symmetricMismatch field symmetric issue =>
    "Field '" ++ field.text ++ "' and its symmetric field '" ++ symmetric.text ++
      "' disagree: " ++ issue.message
  | ownerConflict field symmetric both =>
    "Symmetric fields '" ++ field.text ++ "' and '" ++ symmetric.text ++ "': " ++
      (if both then "both" else "neither") ++ " side is the owner"
  | invalidHierarchy field issue =>
    "Hierarchy field '" ++ field.text ++ "' is invalid: " ++ issue.message

namespace Table

variable (t : Table) (c : Catalog)

/-- The table that a relation leads to, deleted or not. -/
def foreign? (r : Relation) : Option Table :=
  let id := r.foreignTable t.id
  if id = t.id then some t else c.table? id

/-- The problems of naming fields of a foreign table. -/
def missingFields (field : FieldId) (foreign : Table) (ids : List FieldId) : List Problem :=
  (ids.filter fun id => !foreign.schema.contains id).map (.undefinedField field foreign.id ·)

/-- The problems of where a relation leads and what it shows. -/
def relationProblems (field : FieldId) (r : Relation) : List Problem :=
  match t.foreign? c r with
  | some foreign => missingFields field foreign r.display
  | none => [.undefinedTable field (r.foreignTable t.id)]

/-- The problem of who owns the edges, reported from the field that sorts first. -/
def ownerProblem (field symmetric : FieldId) (both : Bool) : Problem :=
  if field ≤ symmetric then .ownerConflict field symmetric both
  else .ownerConflict symmetric field both

/-- The problems of a reference with its partner. -/
def symmetricProblems (field : FieldId) (r : Reference) : List Problem :=
  match r.symmetric, t.foreign? c (.reference r) with
  | some symmetric, some foreign =>
    match foreign.field? symmetric with
    | none => [.undefinedField field foreign.id symmetric]
    | some partner =>
      match partner.kind with
      | .relation (.reference p) =>
        (if p.symmetric = some field then []
          else [.symmetricMismatch field symmetric .noWayBack]) ++
        (if p.foreignTable = t.id then []
          else [.symmetricMismatch field symmetric .otherTable]) ++
        (if p.isOwner = r.isOwner then [ownerProblem field symmetric r.isOwner] else [])
      | _ => [.symmetricMismatch field symmetric .noReference]
  | _, _ => []

/-- The problems of a tree field with its parent field. -/
def treeProblems (field : FieldId) (h : Hierarchy) : List Problem :=
  match h.partner with
  | none => []
  | some parent =>
    match t.field? parent with
    | none => [.undefinedField field t.id parent]
    | some f =>
      match f.kind with
      | .relation (.parent p) =>
        if p.partner = some field then [] else [.invalidHierarchy field (.otherTree parent)]
      | _ => [.invalidHierarchy field (.noParent parent)]

/-- The problems of a parent field with its tree field. -/
def parentProblems (field : FieldId) (h : Hierarchy) : List Problem :=
  match h.partner with
  | none => []
  | some tree =>
    match t.field? tree with
    | none => [.undefinedField field t.id tree]
    | some f =>
      match f.kind with
      | .relation (.tree p) =>
        if p.foreignTable.getD t.id = h.foreignTable.getD t.id then []
        else [.invalidHierarchy field (.otherTable tree)]
      | _ => [.invalidHierarchy field (.noTree tree)]

/-- The problems of a field attached to `owner` that reads `sources`. Where the owner leads to no
table, that is the owner's problem. -/
def attachedProblems (field owner : FieldId) (sources : List FieldId) : List Problem :=
  match t.field? owner with
  | none => [.undefinedField field t.id owner]
  | some o =>
    match o.relation? with
    | none => [.invalidOwner field owner]
    | some r =>
      match t.foreign? c r with
      | some foreign => missingFields field foreign sources
      | none => []

/-- The problems of a field. -/
def fieldProblems (f : Field) : List Problem :=
  match f.kind with
  | .scalar _ | .attachment => []
  | .relation r =>
    t.relationProblems c f.id r ++
      match r with
      | .reference r => t.symmetricProblems c f.id r
      | .tree h => t.treeProblems f.id h
      | .parent h => t.parentProblems f.id h
  | .attached owner shows =>
    t.attachedProblems c f.id owner <|
      match shows with
      | .lookup display => display
      | .count => []
      | .sum source | .average source => [source]

/-- All problems of a table. -/
def problems : List Problem := t.schema.fields.flatMap (t.fieldProblems c)

end Table

end LinkedRecords
