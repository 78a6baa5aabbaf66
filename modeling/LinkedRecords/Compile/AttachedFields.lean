import LinkedRecords.Compile.DisplayColumns
import LinkedRecords.Compile.Options
import LinkedRecords.Keyed

/-! # Attached fields

Lookups, counts, sums and means are compiled with the relation that they are attached to. They are
gathered from the schema once, by relation.
-/

namespace LinkedRecords

open Sql

/-- The fields attached to one relation, by kind. -/
structure AttachedFields where
  /-- Each lookup with the fields that it shows. -/
  lookups : List (FieldId × List FieldId) := []
  counts : List FieldId := []
  /-- Each sum with the field that is summed. -/
  sums : List (FieldId × FieldId) := []
  /-- Each mean with the field that it is taken of. -/
  averages : List (FieldId × FieldId) := []
deriving DecidableEq, Repr, Inhabited

namespace AttachedFields

/-- One more field. -/
def add (a : AttachedFields) (field : FieldId) : Attached → AttachedFields
  | .lookup display => { a with lookups := a.lookups ++ [(field, display)] }
  | .count => { a with counts := a.counts ++ [field] }
  | .sum source => { a with sums := a.sums ++ [(field, source)] }
  | .average source => { a with averages := a.averages ++ [(field, source)] }

/-- The ids of the fields. -/
def ids (a : AttachedFields) : List FieldId :=
  a.lookups.map (·.1) ++ a.counts ++ a.sums.map (·.1) ++ a.averages.map (·.1)

/-- Whether there are none. -/
def isEmpty (a : AttachedFields) : Bool := a.ids.isEmpty

/-- The fields of the foreign table that are read. -/
def sources (a : AttachedFields) : List FieldId :=
  a.lookups.flatMap (·.2) ++ a.sums.map (·.2) ++ a.averages.map (·.2)

/-- What is computed over all linked records. -/
def aggregates (a : AttachedFields) (foreignAlias : String) : List SelectItem :=
  a.counts.map (fun field => .named .countRows field.text) ++
    a.sums.map (fun (field, source) => .named (Expr.of foreignAlias source.text).sum field.text) ++
    a.averages.map fun (field, source) =>
      .named (Expr.of foreignAlias source.text).average field.text

/-- A count, as it is read from the links. Without links there is no row, so the count of none is
missing unless it is made zero. -/
def countItem (options : Options) (linksAlias : String) (field : FieldId) : SelectItem :=
  let value := Expr.of linksAlias field.text
  .named (if options.coalesceCounts then .coalesce [value, .int 0] else value) field.text

/-- A sum or mean, as it is read from the links. -/
def valueItem (linksAlias : String) (field : FieldId) : SelectItem :=
  .named (.of linksAlias field.text) field.text

/-- What the fields add to the record: the shown values of each lookup, then each number. -/
def projections (a : AttachedFields) (options : Options) (linksAlias : String) : List SelectItem :=
  a.lookups.map (fun (field, display) =>
      expandItem field display linksAlias (Naming.expandColumn field options.expandSuffix)) ++
    a.counts.map (countItem options linksAlias) ++
    (a.sums.map (·.1) ++ a.averages.map (·.1)).map (valueItem linksAlias)

end AttachedFields

/-- The attached fields by the relation that they are attached to. -/
abbrev AttachedIndex := Keyed FieldId AttachedFields

namespace AttachedIndex

/-- The index with one more field, if it is attached to another. -/
def add (index : AttachedIndex) (f : Field) : AttachedIndex :=
  match f.kind with
  | .attached owner shows => index.alter owner fun a => (a.getD {}).add f.id shows
  | _ => index

/-- The attached fields of a schema. Whether they are attached to a relation is not asked here. -/
def ofSchema (s : Schema) : AttachedIndex := s.fields.foldl add .empty

end AttachedIndex

end LinkedRecords
