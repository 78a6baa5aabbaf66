import LinkedRecords.Compile.DisplayColumns
import LinkedRecords.Proofs.Sql.Grouping

/-! # The foreign records of a relation

The foreign records are grouped by all of their columns. As long as ids are unique, every group is
one record, so following an id leads to the values of that record.

* `foreignRecords_eq` — the query for the foreign records, written out.
* `DisplayColumn.value_projection` — the value of the item that shows a field is `valueIn`.
* `uniqueAt_foreignRecords` — no two rows of the query have the same id.
* `read_foreignRecords` — following an id reads the values of the record with that id.
-/

namespace LinkedRecords

open Sql

/-! ## The query for foreign records -/

/-- The columns of the foreign records that hold the fields of `columns`, one after the other. -/
def columnKeys (columns : List DisplayColumn) : List Expr :=
  columns.flatMap fun c => c.columns.map fun column => .col column.name

theorem foldl_addGroup (columns : List Column) {q : Query} {keys : List Expr}
    (h : q.groups = keys.eraseDups) :
    columns.foldl (fun q column => q.addGroup (.col column.name)) q =
      { q with groups := (keys ++ columns.map fun column => Expr.col column.name).eraseDups } := by
  induction columns generalizing q keys with
  | nil =>
      rw [List.map_nil, List.append_nil, ← h]
      cases q
      rfl
  | cons column columns ih =>
      have hstep : (q.addGroup (.col column.name)) =
          { q with groups := (keys ++ [Expr.col column.name]).eraseDups } := by
        rw [Query.addGroup, eraseDups_append_singleton, h]
        simp only [List.mem_eraseDups]
        split
        · rw [← h]
          cases q
          rfl
        · rfl
      -- `keys` grow by one column, as the induction asks
      rw [List.foldl_cons, hstep, ih rfl, List.append_assoc]
      rfl

theorem foreignRecords_eq (table : TableId) (idColumn : String) (columns : List DisplayColumn) :
    foreignRecords table idColumn columns =
      { items := ⟨.col idColumn, none⟩ :: columns.map (·.projection)
        source := some (.table table.text)
        groups := (Expr.col idColumn :: columnKeys columns).eraseDups } := by
  have hfold : ∀ (q : Query) (keys : List Expr), q.groups = keys.eraseDups →
      columns.foldl (fun q c => c.columns.foldl (fun q column => q.addGroup (.col column.name))
        (q.addItem c.projection)) q =
      { q with
        items := q.items ++ columns.map (·.projection)
        groups := (keys ++ columnKeys columns).eraseDups } := by
    induction columns with
    | nil =>
        intro q keys h
        cases q
        simp [columnKeys, ← h]
    | cons c columns ih =>
        intro q keys h
        rw [List.foldl_cons, foldl_addGroup c.columns (q := q.addItem c.projection) h, ih _ _ rfl]
        simp [columnKeys, Query.addItem, List.append_assoc]
  -- the grouping starts with the id alone
  rw [foreignRecords, hfold _ [.col idColumn] rfl]
  rfl

namespace DisplayColumn

theorem outputName?_projection (c : DisplayColumn) :
    c.projection.outputName? = some c.field.text := by
  rcases c with ⟨field, columns⟩
  rcases columns with _ | ⟨column, _ | ⟨column', columns⟩⟩
  · rfl
  · simp only [projection]
    by_cases h : column.name = field.text
    · rw [if_pos h, ← h]
      rfl
    · rw [if_neg h]
      rfl
  · rfl

theorem isColumn_projection (c : DisplayColumn) : c.projection.IsColumn := by
  refine ⟨⟨_, c.outputName?_projection⟩, fun qualifier => ?_⟩
  rcases c with ⟨field, columns⟩
  rcases columns with _ | ⟨column, _ | ⟨column', columns⟩⟩
  · simp [projection, SelectItem.named, Expr.null]
  · simp only [projection]
    split
    · simp [Expr.col]
    · simp [SelectItem.named, Expr.col]
  · simp [projection, SelectItem.named, Expr.jsonArray]

/-- The value of the field `c` in a `record`: missing without a column, that of the column, or an
array of those of several columns. -/
def valueIn (F : Functions) (c : DisplayColumn) (record : Row) : Value :=
  match c.columns with
  | [] => .null
  | [column] => record.read column.name
  | columns => F.scalar "JSON_ARRAY" (columns.map fun column => record.read column.name)

theorem value_projection (F : Functions) (c : DisplayColumn) (qualifier : Option String)
    (record : Row) :
    c.projection.expr.value F [[(qualifier, record)]] = c.valueIn F record := by
  rcases c with ⟨field, columns⟩
  rcases columns with _ | ⟨column, _ | ⟨column', columns⟩⟩
  · rfl
  · simp only [projection]
    split
    · exact Expr.value_col F qualifier record column.name
    · exact Expr.value_col F qualifier record column.name
  · -- only the arguments of the array are left to evaluate
    have hargs : ∀ columns : List Column,
        Expr.values F (columns.map fun column => .col column.name) [[(qualifier, record)]] =
          columns.map fun column => record.read column.name := by
      intro columns
      rw [Expr.values_eq_map, List.map_map]
      exact List.map_congr_left fun column _ => Expr.value_col F qualifier record column.name
    exact congrArg (F.scalar "JSON_ARRAY") (hargs (column :: column' :: columns))

end DisplayColumn

/-! ## Following an id -/

section Follow

variable {F : Functions} {db : Database} {table : TableId} {idColumn : String}
  {columns : List DisplayColumn}

/-- The records of `table`, as the query for foreign records groups them. -/
def recordFrame (F : Functions) (db : Database) (table : TableId) : Frame :=
  (Frame.ofBag (some table.text) (db table.text)).filter F none

theorem envs_recordFrame :
    (recordFrame F db table).envs = (db table.text).rows.map fun r => [(some table.text, r)] := rfl

theorem run_foreignRecords (F : Functions) (db : Database) (table : TableId) (idColumn : String)
    (columns : List DisplayColumn) : ∃ others,
    (foreignRecords table idColumn columns).run F db =
      (recordFrame F db table).select F
        (⟨.col idColumn, none⟩ :: columns.map (·.projection)) (.col idColumn :: others) := by
  rw [foreignRecords_eq, List.eraseDups_cons]
  exact ⟨_, rfl⟩

theorem determines_records (hunique : (db table.text).UniqueOn idColumn) (v : Value)
    (others : List Expr) : (recordFrame F db table).Determines F (.col idColumn) v others := by
  intro env henv env' henv' hid hid' hv
  rw [envs_recordFrame] at henv henv'
  rcases List.mem_map.1 henv with ⟨r, hr, rfl⟩
  rcases List.mem_map.1 henv' with ⟨r', hr', rfl⟩
  rw [Expr.value_col] at hid hid'
  -- the rows are the same record, whatever else is grouped by
  rw [hunique.eq_of_mem hr hr' (hid.trans hid'.symm) (hid ▸ hv)]

theorem uniqueAt_foreignRecords (hunique : (db table.text).UniqueOn idColumn) (v : Value) :
    ((foreignRecords table idColumn columns).run F db).UniqueAt idColumn v := by
  rcases run_foreignRecords F db table idColumn columns with ⟨others, hrun⟩
  rw [hrun]
  exact Frame.uniqueAt_select _ (determines_records hunique v others)

/-- Where `v` is followed, the field `c` has the value that it has in the record with the id `v`, or
is missing if there is no such record. -/
theorem read_foreignRecords (hunique : (db table.text).UniqueOn idColumn)
    (hnames : (foreignRecords table idColumn columns).outputNames.Nodup) {c : DisplayColumn}
    (hc : c ∈ columns) (v : Value) :
    (((foreignRecords table idColumn columns).run F db).follow idColumn v).read c.field.text =
      (((db table.text).row? idColumn v).map (c.valueIn F)).getD .null := by
  rcases run_foreignRecords F db table idColumn columns with ⟨others, hrun⟩
  by_cases hv : v = .null
  · subst hv
    simp [Bag.follow]
  · -- the group of the id is the one record with it, or empty
    have hvalue : (recordFrame F db table).withValue F (.col idColumn) v =
        ((db table.text).row? idColumn v).toList.map fun r => [(some table.text, r)] := by
      rw [← (hunique.at v).filter_eq, Frame.withValue, envs_recordFrame, List.filter_map]
      refine congrArg (List.map _) (List.filter_congr fun r _ => ?_)
      rw [Function.comp_apply, Expr.value_col]
      simp [hv]
    have hfollow := Frame.follow_select (columns.map (·.projection))
      (determines_records (F := F) hunique v others) hv
    rw [hrun]
    refine (congrArg (Row.read · c.field.text) hfollow).trans ?_
    have hcol : (Expr.column none idColumn) = .col idColumn := rfl
    rw [hcol, hvalue]
    cases (db table.text).row? idColumn v with
    | none => simp
    | some r =>
        rw [foreignRecords_eq] at hnames
        rw [Option.toList_some, List.map_singleton, if_neg (by simp), Option.map_some,
          Option.getD_some, ← c.value_projection F (some table.text)]
        -- the name of the field is that of one cell only, so reading it gives this cell
        refine SelectItem.read_cells ?_ hnames
          (List.mem_cons_of_mem _ (List.mem_map_of_mem hc)) c.outputName?_projection _
        intro item hitem
        rcases List.mem_cons.1 hitem with rfl | hitem
        · exact ⟨⟨idColumn, rfl⟩, by simp [Expr.col]⟩
        · rcases List.mem_map.1 hitem with ⟨c', -, rfl⟩
          exact c'.isColumn_projection

end Follow

end LinkedRecords
