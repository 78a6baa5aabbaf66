import LinkedRecords.Schema.Field
import LinkedRecords.Sql.Query

/-! # Putting a query together

Each compiled field yields a fragment: one join and the items read from it. Fragments are collected
apart from the query that they are for, so a compilation that fails leaves nothing behind.
-/

namespace LinkedRecords

open Sql

/-- What one field adds to a query. -/
structure Fragment where
  field : FieldId
  /-- The alias of the join. -/
  label : String
  items : List SelectItem
  join : Join Query
deriving DecidableEq

/-- The fragments collected so far. -/
structure Assembly where
  items : List SelectItem := []
  joins : List (Join Query) := []
  labels : List String := []
deriving Inhabited

namespace Assembly

/-- Adds a fragment, unless there is one with its alias; tells whether it was added. -/
def push (a : Assembly) (f : Fragment) : Bool × Assembly :=
  if f.label ∈ a.labels then (false, a)
  else (true, ⟨a.items ++ f.items, a.joins ++ [f.join], a.labels ++ [f.label]⟩)

/-- Whether nothing has been added. -/
def isEmpty (a : Assembly) : Bool := a.items.isEmpty && a.joins.isEmpty

/-- The aliases of the joins. -/
def joinAliases (a : Assembly) : List String := a.joins.filterMap (·.target.qualifier?)

/-- The query with everything added behind what it selects and joins already. -/
def finish (a : Assembly) (base : Query) : Query :=
  a.joins.foldl .addJoin (a.items.foldl .addItem base)

end Assembly

end LinkedRecords
