import LinkedRecords.Sql.Query
import Mathlib.Data.Multiset.Basic
import Mathlib.Data.Rat.Defs

/-! # What queries mean

A query is given the rows that it yields on a database. Conditions have three values, a left join
keeps every row, a condition is asked before rows are grouped, and rows with the same key are one
group. What engines compute over groups and from JSON is left open.

* `Expr.value` — the value of an expression over a group of rows.
* `Frame.leftJoin`, `Frame.filter`, `Frame.select` — the clauses of a query.
* `Query.run` — the rows that a query yields, with those of the queries that it reads from.
-/

namespace LinkedRecords.Sql

/-! ## Values -/

/-- A value. A condition is a number, zero if it is false, or missing if it is unknown. -/
inductive Value where
  | null
  | number (q : ℚ)
  | text (s : String)
deriving DecidableEq, Repr, Inhabited

namespace Value

/-- The value of a condition that is known to be `b`. -/
def ofBool (b : Bool) : Value := .number (if b then 1 else 0)

/-- Whether a condition is true, so neither false nor unknown. -/
def holds : Value → Bool
  | number q => q ≠ 0
  | null | text _ => false

/-- Equality of `a` and `b`, unknown where one of them is `null`. -/
def equals (a b : Value) : Value :=
  if a = null ∨ b = null then null else ofBool (a = b)

/-- Whether one value is greater than another, for two numbers or two texts; `null` otherwise. -/
def greater : Value → Value → Value
  | number a, number b => ofBool (b < a)
  | text a, text b => ofBool (b < a)
  | _, _ => null

/-- Conjunction of `a` and `b`: false where one of them is false, else unknown where one is
`null`. -/
def and (a b : Value) : Value :=
  if a ≠ null ∧ !a.holds ∨ b ≠ null ∧ !b.holds then ofBool false
  else if a = null ∨ b = null then null
  else ofBool true

end Value

/-- The value of a constant. -/
def Literal.value : Literal → Value
  | int n => .number n
  | text s => .text s
  | null => .null

/-- The value of an operator. -/
def Operator.apply : Operator → Value → Value → Value
  | equals => .equals
  | greater => .greater
  | and => .and

/-- The functions of an engine that the meaning of a query leaves open. -/
structure Functions where
  /-- The array of the values of a group, which come in no order. -/
  groupArray : Multiset Value → Value
  sum : Multiset Value → Value
  average : Multiset Value → Value
  /-- Every other function, by name and arguments. -/
  scalar : String → List Value → Value

/-- The `values` that are not `null`. -/
def present (values : List Value) : List Value := values.filter (· ≠ .null)

/-- A call over a group. An aggregate takes its argument in each of the `rows` of the group, any
other function takes its arguments `args` as they are. -/
def Functions.call (F : Functions) (function : String) (rows : List (List Value))
    (args : List Value) : Value :=
  -- aggregates pass over values that are missing, but the array of a group keeps them
  match function with
  | "COUNT" => .number (present (rows.filterMap List.head?)).length
  | "SUM" => F.sum (present (rows.filterMap List.head?))
  | "AVG" => F.average (present (rows.filterMap List.head?))
  | "JSON_GROUP_ARRAY" => F.groupArray (rows.filterMap List.head?)
  | "COALESCE" => (present args).head?.getD .null
  | _ => F.scalar function args

/-! ## Rows -/

/-- A row: named values, in the order of the columns. -/
abbrev Row := List (String × Value)

/-- The first value of `r` under `name`; a column that is not there is `null`. -/
def Row.read (r : Row) (name : String) : Value :=
  ((r.find? (·.1 = name)).map (·.2)).getD .null

/-- Rows with their columns; the order of the rows means nothing. -/
structure Bag where
  columns : List String
  rows : List Row
deriving DecidableEq, Repr, Inhabited

/-- The row of `b` in which everything is missing. -/
def Bag.nulls (b : Bag) : Row := b.columns.map (·, .null)

/-- The rows of each table. -/
abbrev Database := String → Bag

/-- The rows that the sources of a query are at, each with the qualifier of its source. -/
abbrev Env := List (Option String × Row)

namespace Env

/-- The row of the first source of `env` with this `qualifier`. -/
def row (env : Env) (qualifier : String) : Row :=
  ((env.find? (·.1 = some qualifier)).map (·.2)).getD []

/-- A column of `env`. Named alone, it is that of the first source which has one of that name. -/
def read (env : Env) : Option String → String → Value
  | some qualifier, name => (env.row qualifier).read name
  | none, name =>
    ((env.find? fun source => name ∈ source.2.map (·.1)).map fun source =>
      source.2.read name).getD .null

/-- All columns of `env`, those of every source or of one. -/
def all (env : Env) : Option String → Row
  | some qualifier => env.row qualifier
  | none => env.flatMap (·.2)

end Env

/-! ## Expressions -/

namespace Expr

/-- Whether `function` is computed over a group. -/
def isAggregate (function : String) : Bool :=
  function ∈ ["COUNT", "SUM", "AVG", "JSON_GROUP_ARRAY"]

mutual

/-- Whether an expression is computed over a group. -/
def aggregates : Expr → Bool
  | .column .. | .literal _ | .star _ => false
  | .binary left _ right => left.aggregates || right.aggregates
  | .call function args => isAggregate function || aggregatesList args

/-- Whether one of several expressions is computed over a group. -/
def aggregatesList : List Expr → Bool
  | [] => false
  | e :: es => e.aggregates || aggregatesList es

end

variable (F : Functions)

mutual

/-- The value of an expression over a group; a column is read from the first row. A star stands for
the row as a whole, which is never missing. -/
def value : Expr → List Env → Value
  | .column qualifier name, group => (group.head?.map (·.read qualifier name)).getD .null
  | .literal l, _ => l.value
  | .binary left op right, group => op.apply (left.value group) (right.value group)
  | .call function args, group =>
    F.call function (group.map fun env => values args [env]) (values args group)
  | .star _, _ => .number 1

/-- The values of several expressions over a group. -/
def values : List Expr → List Env → List Value
  | [], _ => []
  | e :: es, group => e.value group :: values es group

end

end Expr

/-! ## Clauses -/

/-- The `sources` of a query with their columns, and the rows that they are at together. -/
structure Frame where
  sources : List (Option String × List String)
  envs : List Env

namespace SelectItem

/-- The columns of an item. -/
def columns (item : SelectItem) (sources : List (Option String × List String)) : List String :=
  match item.expr with
  | .star (some qualifier) => ((sources.find? (·.1 = some qualifier)).map (·.2)).getD []
  | .star none => sources.flatMap (·.2)
  | _ => [item.outputName?.getD ""]

/-- The cells of `item` in the row of `group`. -/
def cells (F : Functions) (item : SelectItem) (group : List Env) : Row :=
  match item.expr with
  | .star qualifier => (group.head?.map (·.all qualifier)).getD []
  | e => [(item.outputName?.getD "", e.value F group)]

end SelectItem

namespace Frame

variable (F : Functions)

/-- The rows of one source, `b`, under its `qualifier`. -/
def ofBag (qualifier : Option String) (b : Bag) : Frame :=
  ⟨[(qualifier, b.columns)], b.rows.map fun r => [(qualifier, r)]⟩

/-- Every row of `frame` with each row of `b` that meets the condition `matching`, or with a missing
one if there is none. -/
def leftJoin (frame : Frame) (qualifier : Option String) (b : Bag) (matching : Expr) : Frame where
  sources := frame.sources ++ [(qualifier, b.columns)]
  envs := frame.envs.flatMap fun env =>
    -- the condition sees the joined row behind the rows that were there before
    let found := b.rows.filter fun r => (matching.value F [env ++ [(qualifier, r)]]).holds
    (if found.isEmpty then [b.nulls] else found).map fun r => env ++ [(qualifier, r)]

/-- The rows of `frame` that meet the condition. -/
def filter (frame : Frame) (condition : Option Expr) : Frame where
  sources := frame.sources
  envs :=
    match condition with
    | some e => frame.envs.filter fun env => (e.value F [env]).holds
    | none => frame.envs

/-- The values of `groups` that the row `env` is grouped by. -/
def key (groups : List Expr) (env : Env) : List Value := groups.map fun e => e.value F [env]

/-- The groups of `frame`, one for each key. Without keys, every row is a group of its own, unless
one of `items` is computed over all rows. -/
def split (frame : Frame) (items : List SelectItem) (groups : List Expr) : List (List Env) :=
  -- without keys an aggregate makes one group of all rows, even of none
  if groups.isEmpty then
    if items.any (·.expr.aggregates) then [frame.envs] else frame.envs.map ([·])
  else
    (frame.envs.map (key F groups)).eraseDups.map fun k =>
      frame.envs.filter fun env => key F groups env = k

/-- The selected `items`, one row for each group. -/
def select (frame : Frame) (items : List SelectItem) (groups : List Expr) : Bag where
  columns := items.flatMap (·.columns frame.sources)
  rows := (frame.split F items groups).map fun group => items.flatMap (·.cells F group)

end Frame

/-! ## Queries -/

namespace Query

variable (F : Functions) (db : Database)

mutual

/-- The rows that a query yields on `db`. -/
def run : Query → Bag
  | ⟨items, source, joins, condition, groups⟩ =>
    ((runJoins joins (runSource source)).filter F condition).select F items groups

/-- The rows of the source, or one row without columns. -/
def runSource : Option (TableRef Query) → Frame
  | some ref => .ofBag ref.qualifier? (runRef ref)
  | none => ⟨[], [[]]⟩

/-- The rows of a table or of a derived table. -/
def runRef : TableRef Query → Bag
  | ⟨.table name, _⟩ => db name
  | ⟨.derived query, _⟩ => query.run

/-- The rows of `frame` joined with those of the joined sources, one join after the other. -/
def runJoins : List (Join Query) → Frame → Frame
  | [], frame => frame
  | ⟨target, matching⟩ :: joins, frame =>
    runJoins joins (frame.leftJoin F target.qualifier? (runRef target) matching)

end

/-! ## Names -/

/-- The qualifiers of the sources. -/
def qualifiers (q : Query) : List (Option String) :=
  q.source.toList.map (·.qualifier?) ++ q.joins.map (·.target.qualifier?)

/-- The names of the output columns. -/
def outputNames (q : Query) : List (Option String) := q.items.map (·.outputName?)

mutual

/-- The queries that a query reads from, at every depth. -/
def subqueries : Query → List Query
  | ⟨_, source, joins, _, _⟩ => sourceSubqueries source ++ joinSubqueries joins

/-- The queries among the source. -/
def sourceSubqueries : Option (TableRef Query) → List Query
  | some ref => refSubqueries ref
  | none => []

/-- A derived table with the queries that it reads from. -/
def refSubqueries : TableRef Query → List Query
  | ⟨.table _, _⟩ => []
  | ⟨.derived query, _⟩ => query :: query.subqueries

/-- The queries among the joins. -/
def joinSubqueries : List (Join Query) → List Query
  | [] => []
  | ⟨target, _⟩ :: joins => refSubqueries target ++ joinSubqueries joins

end

/-- Whether no two sources of `q`, or of a query that it reads from, have the same qualifier. -/
def QualifiersDistinct (q : Query) : Prop := ∀ p ∈ q :: q.subqueries, p.qualifiers.Nodup

/-- Whether no two columns of a query that `q` reads from have the same name. -/
def NamesDistinct (q : Query) : Prop := ∀ p ∈ q.subqueries, p.outputNames.Nodup

instance (q : Query) : Decidable q.QualifiersDistinct :=
  inferInstanceAs (Decidable (∀ p ∈ q :: q.subqueries, p.qualifiers.Nodup))

instance (q : Query) : Decidable q.NamesDistinct :=
  inferInstanceAs (Decidable (∀ p ∈ q.subqueries, p.outputNames.Nodup))

end Query

end LinkedRecords.Sql
