import LinkedRecords.Compile.Fragments
import LinkedRecords.Proofs.Sql.Grouping

/-! # The links of a relation

The queries for the links of a reference, a tree and a parent field differ in the table that they
read, in its columns and in the rows that count. Each is grouped by the column of the record, so it
yields at most one row for a record; for a parent field, as long as the record has one parent.

* `Link.join_resolve` — every relation joins its `Link.query` by the column of the record.
* `Link.determines` — what else the links are grouped by follows from the record.
* `Link.uniqueAt_query` — the main statement: at most one row for a record.
-/

namespace LinkedRecords

open Sql

/-! ## Where links are stored -/

namespace Relation

/-- The table that holds the links of the relation `r`, kept under `field`. -/
def linkTable (r : Relation) (table : TableId) (field : FieldId) : String :=
  match r with
  | reference r => Naming.edgeTable table field r
  | tree _ => Naming.treeTable table field
  | parent h => Naming.parentTable table field h

/-- The column of a link that holds the record itself. -/
def currentColumn : Relation → String
  | reference r => (Naming.Orientation.of r).current
  | tree _ => Naming.parentColumn
  | parent _ => Naming.childColumn

/-- The column of a link that holds the record it is linked to. -/
def foreignColumn : Relation → String
  | reference r => (Naming.Orientation.of r).foreign
  | tree _ => Naming.childColumn
  | parent _ => Naming.parentColumn

/-- Whether `row` is a link: every edge, every proper descendant, or a direct child. -/
def isLink (r : Relation) (row : Row) : Bool :=
  match r with
  | reference _ => true
  | tree _ => match row.read Naming.depthColumn with
    | .number q => 0 < q
    | _ => false
  | parent _ => row.read Naming.depthColumn = .number 1

/-- The links of the record `id`: the rows of its `linkTable` that are links and name it. -/
def links (r : Relation) (db : Database) (table : TableId) (field : FieldId) (id : Value) :
    List Row :=
  (db (r.linkTable table field)).rows.filter fun row =>
    r.isLink row ∧ row.read r.currentColumn = id

/-- Whether `child` has just one direct parent in `b`, a table of ancestors and descendants. -/
def OneParent (b : Bag) (child : Value) : Prop :=
  ∀ row ∈ b.rows, ∀ row' ∈ b.rows, row.read Naming.depthColumn = .number 1 →
    row'.read Naming.depthColumn = .number 1 → row.read Naming.childColumn = child →
    row'.read Naming.childColumn = child →
    row.read Naming.parentColumn = row'.read Naming.parentColumn

/-! ## How links are queried -/

/-- The condition that `isLink` asks of a row of `table`. -/
def condition (r : Relation) (table : String) : Option Expr :=
  match r with
  | reference _ => none
  | tree _ => some ((Expr.of table Naming.depthColumn).greater (.int 0))
  | parent _ => some ((Expr.of table Naming.depthColumn).equals (.int 1))

/-- What a record is linked to, over all of its links in `table`. -/
def linked (r : Relation) (table : String) : Expr :=
  match r with
  | reference _ | tree _ => (Expr.of table r.foreignColumn).jsonGroupArray
  | parent _ => Expr.of table r.foreignColumn

/-- What is grouped by besides the record: for a parent field, the parent. -/
def otherKeys (r : Relation) (table : String) : List Expr :=
  match r with
  | reference _ | tree _ => []
  | parent _ => [Expr.of table r.foreignColumn]

end Relation

namespace Link

variable (l : Link) (r : Relation)

/-- The table that holds the links of `l`. -/
def linkTable : String := r.linkTable l.table l.field

/-- The query for the foreign records that are shown. -/
def records : Query := foreignRecords l.foreign l.options.idColumn l.columns

/-- The items of the query for the links, behind the record. -/
def linkItems : List SelectItem :=
  .named (r.linked (l.linkTable r)) l.field.text ::
    (l.columns.map (·.gathered l.foreignAlias) ++ l.attached.aggregates l.foreignAlias)

/-- The query for the links of the relation `r`. -/
def query : Query where
  items := ⟨.of (l.linkTable r) r.currentColumn, none⟩ :: l.linkItems r
  source := some (.table (l.linkTable r))
  joins := [⟨.derivedAs l.records l.foreignAlias,
    (Expr.of (l.linkTable r) r.foreignColumn).equals (.of l.foreignAlias l.options.idColumn)⟩]
  condition := r.condition (l.linkTable r)
  groups := .of (l.linkTable r) r.currentColumn :: r.otherKeys (l.linkTable r)

/-- What the links select: the record, what it is linked to, the shown values of the `columns`, and
the numbers of `attached`. -/
theorem cases_of_mem_items_query {item : SelectItem} (h : item ∈ (l.query r).items) :
    item = ⟨.of (l.linkTable r) r.currentColumn, none⟩ ∨
      item = .named (r.linked (l.linkTable r)) l.field.text ∨
      (∃ c ∈ l.columns, item = c.gathered l.foreignAlias) ∨
      item ∈ l.attached.aggregates l.foreignAlias := by
  rcases List.mem_cons.1 h with rfl | h
  · exact .inl rfl
  · rcases List.mem_cons.1 h with rfl | h
    · exact .inr (.inl rfl)
    · rcases List.mem_append.1 h with h | h
      · rcases List.mem_map.1 h with ⟨c, hc, rfl⟩
        exact .inr (.inr (.inl ⟨c, hc, rfl⟩))
      · exact .inr (.inr (.inr h))

/-- What the links are grouped by: the `currentColumn`, and for a parent field the `foreignColumn`
too. -/
theorem cases_of_mem_groups_query {e : Expr} (h : e ∈ (l.query r).groups) :
    e = .of (l.linkTable r) r.currentColumn ∨ e = .of (l.linkTable r) r.foreignColumn := by
  rcases List.mem_cons.1 h with rfl | h
  · exact .inl rfl
  · cases r with
    | reference r => cases h
    | tree _ => cases h
    | parent _ => exact .inr (List.mem_singleton.1 h)

/-- The links of a hierarchy are told by their depth, which is compared with a number `n`. -/
theorem cases_of_mem_condition_query {e : Expr} (h : e ∈ (l.query r).condition) :
    ∃ op n, e = .binary (.of (l.linkTable r) Naming.depthColumn) op (.int n) := by
  cases r with
  | reference r => cases h
  | tree _ => exact ⟨.greater, 0, (Option.some.inj h).symm⟩
  | parent _ => exact ⟨.equals, 1, (Option.some.inj h).symm⟩

/-- The links of `l`, joined by the column of the record. -/
def keyJoin : KeyJoin := ⟨l.linksAlias, l.query r, r.currentColumn⟩

/-- Every relation joins its links by `keyJoin`, to the id of the record. -/
theorem join_resolve :
    (l.resolve r).join = (l.keyJoin r).join l.options.baseAlias l.options.idColumn := by
  cases r <;> rfl

variable {F : Functions} {db : Database}

/-- The rows that the links are computed over: those of `linkTable` that are links, next to the
foreign records. -/
def frame (F : Functions) (db : Database) (l : Link) (r : Relation) : Frame :=
  ((Frame.ofBag (some (l.linkTable r)) (db (l.linkTable r))).leftJoin F (some l.foreignAlias)
    (l.records.run F db)
    ((Expr.of (l.linkTable r) r.foreignColumn).equals
      (.of l.foreignAlias l.options.idColumn))).filter F (r.condition (l.linkTable r))

end Link

namespace Relation

/-- The `condition` of `r` holds of a row just if the row is a link. -/
theorem holds_condition (F : Functions) (r : Relation) (table : String) (row : Row) (rest : Env) :
    ((r.condition table).all fun e => (e.value F [(some table, row) :: rest]).holds) =
      r.isLink row := by
  cases r with
  | reference r => rfl
  | tree h =>
      rw [condition, Option.all_some, Expr.value_greater, Expr.value_of_first, Expr.value_int,
        isLink]
      cases row.read Naming.depthColumn with
      | null => rfl
      | text s => rfl
      | number q => simp [Value.greater]
  | parent h =>
      rw [condition, Option.all_some, Expr.value_equals, Expr.value_of_first, Expr.value_int,
        Value.holds_equals, isLink]
      -- a depth that equals 1 is not missing
      refine decide_eq_decide.2 ⟨fun h => h.1, fun h => ⟨h, ?_⟩⟩
      rw [h]
      simp

end Relation

namespace Link

variable {l : Link} {r : Relation} {F : Functions} {db : Database} {id : Value}

/-- Every `env` that the links are computed over starts with a row that is a link. -/
theorem link_of_mem_frame {env : Env} (h : env ∈ (l.frame F db r).envs) :
    ∃ row ∈ (db (l.linkTable r)).rows, r.isLink row = true ∧
      ∃ rest, env = (some (l.linkTable r), row) :: rest := by
  rw [frame, Frame.envs_filter] at h
  rcases List.mem_filter.1 h with ⟨hjoined, hlink⟩
  rcases Frame.exists_of_mem_leftJoin F hjoined with ⟨first, hfirst, row', rfl⟩
  rcases List.mem_map.1 hfirst with ⟨row, hrow, rfl⟩
  -- the condition is asked of the joined row, and looks at the link in front only
  refine ⟨row, hrow, ?_, [(some l.foreignAlias, row')], rfl⟩
  rw [← Relation.holds_condition F r (l.linkTable r) row [(some l.foreignAlias, row')]]
  exact hlink

/-- What else the links are grouped by follows from the record `id`, which must have one parent for
a parent field. -/
theorem determines
    (hparent : id ≠ .null → ∀ h, r = .parent h → Relation.OneParent (db (l.linkTable r)) id) :
    (l.frame F db r).Determines F (.of (l.linkTable r) r.currentColumn) id
      (r.otherKeys (l.linkTable r)) := by
  intro env henv env' henv' hid hid' hnull
  cases hr : r with
  | reference r => rfl
  | tree h => rfl
  | parent h =>
      -- only here there is another key, which is the parent
      rcases link_of_mem_frame henv with ⟨row, hrow, hlink, rest, rfl⟩
      rcases link_of_mem_frame henv' with ⟨row', hrow', hlink', rest', rfl⟩
      rw [Expr.value_of_first] at hid hid'
      subst hr
      have heq := hparent hnull h rfl row hrow row' hrow' (by simpa [Relation.isLink] using hlink)
        (by simpa [Relation.isLink] using hlink') hid hid'
      simp only [Frame.key, Relation.otherKeys, List.map_cons, List.map_nil, Expr.value_of_first]
      exact congrArg (fun v => [v]) heq

/-- The query for the links yields at most one row for the record `id`. -/
theorem uniqueAt_query
    (hparent : id ≠ .null → ∀ h, r = .parent h → Relation.OneParent (db (l.linkTable r)) id) :
    ((l.query r).run F db).UniqueAt r.currentColumn id :=
  Frame.uniqueAt_select (l.linkItems r) (determines hparent)

end Link

end LinkedRecords
