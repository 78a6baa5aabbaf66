import LinkedRecords.Catalog
import LinkedRecords.Compile.Fragments

/-! # Walking through a table

The fields of a table are visited in order, and every relation is compiled where it is first met:
at itself or at a field attached to it. A relation to a table that is deleted or not there is left
out, with all that is attached to it, and reported as stale.
-/

namespace LinkedRecords

open Sql

/-- The fields that have been compiled. -/
structure Visited where
  ids : List FieldId := []
deriving DecidableEq, Repr, Inhabited

namespace Visited

/-- Whether a field has been compiled. -/
def contains (v : Visited) (id : FieldId) : Bool := id ∈ v.ids

/-- Notes a field, and tells whether it is new. -/
def insert (v : Visited) (id : FieldId) : Bool × Visited :=
  if id ∈ v.ids then (false, v) else (true, ⟨v.ids ++ [id]⟩)

/-- The number of fields. -/
def size (v : Visited) : Nat := v.ids.length

end Visited

/-- A field that was left out because its relation leads to no table. -/
structure StaleField where
  field : FieldId
  /-- The relation, which may be the field itself. -/
  relation : FieldId
  foreign : TableId
deriving DecidableEq, Repr

/-- How far a compilation has come. -/
structure Progress where
  visited : Visited := {}
  assembly : Assembly := {}
  stale : List StaleField := []
deriving Inhabited

/-- What a compilation looks at. -/
structure Scope where
  catalog : Catalog
  options : Options
  table : Table
  layout : Layout
  attached : AttachedIndex

namespace Scope

/-- The table that a relation leads to. A relation of the table to itself always leads to the table
at hand. -/
def foreign? (s : Scope) (id : TableId) : Option Table :=
  if id = s.table.id then some s.table
  else if s.catalog.isDeleted id then none
  else s.catalog.table? id

/-- The relation and the fields attached to it, as stale. -/
def staleFields (relation : FieldId) (foreign : TableId) (attached : AttachedFields) :
    List StaleField :=
  (relation :: attached.ids).map (⟨·, relation, foreign⟩)

/-- The fragment of a relation field, or `none` if it leads to no table. -/
def fragment? (s : Scope) (field : FieldId) (relation : Relation) :
    Except CompileError (Option Fragment) := do
  let _ ← s.layout.require field
  let foreignId := relation.foreignTable s.table.id
  match s.foreign? foreignId with
  | none => return none
  | some foreign =>
    match s.catalog.layout? foreignId with
    | none => throw (.missingLayout foreignId)
    | some layout =>
      let link ← Link.ofRelation s.options s.table.id field relation foreign layout
        ((s.attached.get? field).getD {})
      return some (link.resolve relation)

/-- Visits a relation field. -/
def visitRelation (s : Scope) (field : FieldId) (relation : Relation) (p : Progress) :
    Except CompileError Progress := do
  match p.visited.insert field with
  | (false, _) => return p
  | (true, visited) =>
    match ← s.fragment? field relation with
    | some fragment => return { p with visited, assembly := (p.assembly.push fragment).2 }
    | none =>
      let stale := staleFields field (relation.foreignTable s.table.id)
        ((s.attached.get? field).getD {})
      return { p with visited, stale := p.stale ++ stale }

/-- Visits a file field. -/
def visitFiles (s : Scope) (field : FieldId) (p : Progress) : Progress :=
  match p.visited.insert field with
  | (false, _) => p
  | (true, visited) =>
    { p with visited, assembly := (p.assembly.push (fileFragment s.options field)).2 }

/-- Visits a field; a field attached to a relation visits that one. -/
def visit (s : Scope) (p : Progress) (f : Field) : Except CompileError Progress :=
  match f.kind with
  | .scalar _ => .ok p
  | .attachment => .ok (s.visitFiles f.id p)
  | .relation r => s.visitRelation f.id r p
  | .attached owner _ =>
    match s.table.field? owner with
    | none => .error (.missingOwner f.id owner)
    | some o =>
      match o.relation? with
      | none => .error (.invalidOwner f.id owner)
      | some r => s.visitRelation o.id r p

/-- Visits all fields in order. -/
def walk (s : Scope) : Except CompileError Progress :=
  s.table.schema.fields.foldlM s.visit {}

end Scope

/-! ## Compiling -/

/-- A compiled query. -/
structure Compiled where
  query : Query
  dialect : Dialect
  /-- The fields that were left out. -/
  stale : List StaleField

/-- The query in SQL. -/
def Compiled.sql (c : Compiled) : String := c.query.render c.dialect

/-- The query for all records of a table. -/
def Options.baseQuery (options : Options) (t : Table) : Query :=
  (({} : Query).selectAll options.baseAlias).readFrom (.tableAs t.id.text options.baseAlias)

/-- The query `base` with all that the fields of a table add to it. -/
def compile (catalog : Catalog) (options : Options) (t : Table) (base : Query) :
    Except CompileError Compiled := do
  match catalog.layout? t.id with
  | none => throw (.missingLayout t.id)
  | some layout =>
    let scope : Scope := ⟨catalog, options, t, layout, .ofSchema t.schema⟩
    let p ← scope.walk
    return ⟨p.assembly.finish base, options.dialect, p.stale⟩

end LinkedRecords
