import LinkedRecords.Proofs.Sql.Semantics

/-! # Where columns are read from

An expression may name the source that it reads a column from. Such a reference can be followed in a
query if a source of the query has that name, and if a column of that name is among those of the
source, as far as the query itself tells: the columns of a table are not known here, those of a
query that is read from are.

* `Expr.references`, `Query.references` — the columns that are read from named sources.
* `Query.Finds` — whether a reference can be followed in a query.
* `Query.WellScoped` — whether all references can, at any depth.
-/

namespace LinkedRecords.Sql

/-- A column that is read from a source named by its `qualifier`, or all columns of one. -/
structure ColumnRef where
  qualifier : String
  column? : Option String
deriving DecidableEq, Repr

/-! ## The references of an expression -/

namespace Expr

mutual

/-- The columns that an expression reads from named sources. -/
def references : Expr → List ColumnRef
  | .column qualifier name => (qualifier.map fun q => ⟨q, some name⟩).toList
  | .literal _ => []
  | .binary left _ right => left.references ++ right.references
  | .call _ args => referencesList args
  | .star qualifier => (qualifier.map fun q => ⟨q, none⟩).toList

/-- The columns that several expressions read from named sources. -/
def referencesList : List Expr → List ColumnRef
  | [] => []
  | e :: es => e.references ++ referencesList es

end

theorem referencesList_eq_flatMap (es : List Expr) :
    referencesList es = es.flatMap (·.references) := by
  induction es with
  | nil => rfl
  | cons e es ih => rw [referencesList, ih, List.flatMap_cons]

@[simp] theorem references_of (qualifier name : String) :
    (of qualifier name).references = [⟨qualifier, some name⟩] := rfl

@[simp] theorem references_col (name : String) : (col name).references = [] := rfl

@[simp] theorem references_int (n : Int) : (int n).references = [] := rfl

@[simp] theorem references_text (s : String) : (text s).references = [] := rfl

@[simp] theorem references_equals (left right : Expr) :
    (left.equals right).references = left.references ++ right.references := rfl

@[simp] theorem references_greater (left right : Expr) :
    (left.greater right).references = left.references ++ right.references := rfl

@[simp] theorem references_countRows : countRows.references = [] := rfl

/-- A call reads what its arguments `args` read. -/
@[simp] theorem references_call (function : String) (args : List Expr) :
    (call function args).references = args.flatMap (·.references) :=
  referencesList_eq_flatMap args

@[simp] theorem references_sum (e : Expr) : e.sum.references = e.references := by
  simp [sum]

@[simp] theorem references_average (e : Expr) : e.average.references = e.references := by
  simp [average]

@[simp] theorem references_coalesce (args : List Expr) :
    (coalesce args).references = args.flatMap (·.references) := references_call _ args

@[simp] theorem references_jsonGroupArray (e : Expr) :
    e.jsonGroupArray.references = e.references := by
  simp [jsonGroupArray]

@[simp] theorem references_jsonArray (args : List Expr) :
    (jsonArray args).references = args.flatMap (·.references) := references_call _ args

@[simp] theorem references_json (e : Expr) : e.json.references = e.references := by
  simp [json]

/-- An object reads what the values of its `members` read. -/
@[simp] theorem references_jsonObject (members : List (String × Expr)) :
    (jsonObject members).references = members.flatMap (·.2.references) := by
  -- a member is written as two arguments, and its name reads nothing
  have hmember : ∀ m : String × Expr,
      [text m.1, m.2].flatMap (·.references) = m.2.references := by
    intro m
    simp
  rw [jsonObject, references_call, objectArgs, List.flatMap_assoc]
  simp only [hmember]

end Expr

/-! ## The references of a query -/

namespace Query

/-- The expressions of `q`: its items, the conditions of its joins and its own, its groups. -/
def exprs (q : Query) : List Expr :=
  q.items.map (·.expr) ++ q.joins.map (·.matching) ++ q.condition.toList ++ q.groups

theorem mem_exprs {q : Query} {e : Expr} :
    e ∈ q.exprs ↔ (∃ item ∈ q.items, item.expr = e) ∨ (∃ join ∈ q.joins, join.matching = e) ∨
      e ∈ q.condition ∨ e ∈ q.groups := by
  simp only [exprs, List.mem_append, List.mem_map, Option.mem_toList, Option.mem_def, or_assoc]

/-- The columns that a query reads from named sources; not what the queries that it reads from
read. -/
def references (q : Query) : List ColumnRef := q.exprs.flatMap (·.references)

/-- The sources of `q`: the one that it starts from, then those that are joined. -/
def sources (q : Query) : List (TableRef Query) := q.source.toList ++ q.joins.map (·.target)

/-- Whether `ref` can be followed in `q`: there is a source of that name, and if it is the only one
and is a query, it has a column of that name. -/
def Finds (q : Query) (ref : ColumnRef) : Prop :=
  (∃ s ∈ q.sources, s.qualifier? = some ref.qualifier) ∧
    ∀ p label,
      q.sources.filter (fun s => s.qualifier? = some ref.qualifier) = [⟨.derived p, label⟩] →
        ∀ name ∈ ref.column?, some name ∈ p.outputNames

/-- Whether every reference can be followed, in `q` and in every query that it reads from, at any
depth. -/
def WellScoped (q : Query) : Prop :=
  ∀ p ∈ q :: q.subqueries, ∀ ref ∈ p.references, p.Finds ref

variable {q : Query} {ref : ColumnRef}

theorem mem_references :
    ref ∈ q.references ↔
      (∃ item ∈ q.items, ref ∈ item.expr.references) ∨
        (∃ join ∈ q.joins, ref ∈ join.matching.references) ∨
        (∃ e ∈ q.condition, ref ∈ e.references) ∨ ∃ e ∈ q.groups, ref ∈ e.references := by
  simp only [references, exprs, List.mem_flatMap, List.mem_append, List.mem_map, or_and_right,
    exists_or, exists_exists_and_eq_and, Option.mem_toList, Option.mem_def, or_assoc]

/-- A reference can be followed to any source `s` that has its name and, if it is a query, its
column. -/
theorem finds_of_mem {s : TableRef Query} (hs : s ∈ q.sources)
    (hname : s.qualifier? = some ref.qualifier)
    (hcolumn : ∀ p, s.source = .derived p → ∀ name ∈ ref.column?, some name ∈ p.outputNames) :
    q.Finds ref := by
  constructor
  · exact ⟨s, hs, hname⟩
  · intro p label honly name hmem
    -- the source is among those of that name, so it is the only one
    have hfilter : s ∈ q.sources.filter (fun s => s.qualifier? = some ref.qualifier) :=
      List.mem_filter.2 ⟨hs, decide_eq_true hname⟩
    rw [honly, List.mem_singleton] at hfilter
    exact hcolumn p (by rw [hfilter]) name hmem

/-- In a query `q` that names no source there is no reference to follow. -/
theorem finds_of_references_eq_nil (h : q.references = []) : ∀ ref ∈ q.references, q.Finds ref := by
  intro ref href
  rw [h] at href
  cases href

end Query

end LinkedRecords.Sql
