import LinkedRecords.Text.Case

/-! # Target engines

The three SQL engines, their names, and how each spells identifiers, strings and function names.
Functions are named the SQLite way; PostgreSQL has names of its own for the JSON functions.
-/

namespace LinkedRecords.Sql

/-- An SQL engine. -/
inductive Dialect where
  | sqlite
  | postgres
  | duckdb
deriving DecidableEq, Repr, Inhabited

namespace Dialect

/-- Every engine. -/
def all : List Dialect := [.sqlite, .postgres, .duckdb]

/-- The engine's name. -/
def name : Dialect → String
  | .sqlite => "sqlite"
  | .postgres => "postgres"
  | .duckdb => "duckdb"

/-- The names that a settings file may give an engine. -/
def knownNames : List String := ["sqlite", "postgres", "postgresql", "duckdb"]

/-- The engine of that exact name; PostgreSQL has two. -/
def ofName? : String → Option Dialect
  | "sqlite" => some .sqlite
  | "postgres" => some .postgres
  | "postgresql" => some .postgres
  | "duckdb" => some .duckdb
  | _ => none

/-- The engine of that name in any letter case, or the name that was not found, in lower case. -/
def ofText (text : String) : Except String Dialect :=
  let name := Text.lower text
  match ofName? name with
  | some d => .ok d
  | none => .error name

/-- The message about a name that no engine has. -/
def unknownMessage (name : String) : String :=
  "unknown dialect: " ++ name

theorem ofName?_name (d : Dialect) : ofName? d.name = some d := by
  cases d <;> rfl

/-- What PostgreSQL calls a function, if it has a name of its own for it. -/
def postgresName? : String → Option String
  | "JSON_GROUP_ARRAY" => some "JSON_AGG"
  | "JSON_OBJECT" => some "JSON_BUILD_OBJECT"
  | "JSON_ARRAY" => some "JSON_BUILD_ARRAY"
  | "JSON" => some "TO_JSON"
  | _ => none

/-- The engine's own name for a function, found in any letter case. -/
def remap? (d : Dialect) (function : String) : Option String :=
  match d with
  | .postgres => postgresName? (Text.upper function)
  | .sqlite | .duckdb => none

/-- A function's name as the engine reads it. -/
def functionName (d : Dialect) (function : String) : String :=
  (d.remap? function).getD (Text.upper function)

end Dialect

/-- Text between two quotes, with every such quote inside written twice. -/
def quotedBy (quote : Char) (s : String) : List Char :=
  quote :: s.toList.flatMap (fun c => if c = quote then [c, c] else [c]) ++ [quote]

/-- An identifier, between double quotes in every engine. -/
def quoteIdentifier (name : String) : List Char := quotedBy '"' name

/-- A string literal, between single quotes in every engine. -/
def quoteString (s : String) : List Char := quotedBy '\'' s

end LinkedRecords.Sql
