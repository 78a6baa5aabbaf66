import LinkedRecords.Proofs.Distinct
import LinkedRecords.Proofs.Sql.Joins

/-! # Grouping by a column

A query that selects the column that it is grouped by first yields one row for a value of the
column, as long as the other keys follow from it. That row is computed over all rows with the value.

* `Frame.Determines` — the other keys follow from the value of the column.
* `Frame.uniqueAt_select` — at most one row has the value.
* `Frame.follow_select` — the main statement: following the value leads to the row of its group.
-/

namespace LinkedRecords.Sql

variable {F : Functions}

/-! ## Selecting -/

namespace SelectItem

/-- Whether `item` yields one column with a name of its own. -/
def IsColumn (item : SelectItem) : Prop :=
  (∃ name, item.outputName? = some name) ∧ ∀ qualifier, item.expr ≠ .star qualifier

theorem cells_of_isColumn {item : SelectItem} (h : item.IsColumn) (group : List Env) :
    item.cells F group = [(item.outputName?.getD "", item.expr.value F group)] := by
  rw [cells]
  split
  case h_1 qualifier hstar => exact absurd hstar (h.2 qualifier)
  case h_2 => rfl

theorem columns_of_isColumn {item : SelectItem} (h : item.IsColumn)
    (sources : List (Option String × List String)) :
    item.columns sources = [item.outputName?.getD ""] := by
  rw [columns]
  split
  case h_1 qualifier hstar => exact absurd hstar (h.2 (some qualifier))
  case h_2 hstar => exact absurd hstar (h.2 none)
  case h_3 => rfl

theorem flatMap_cells {items : List SelectItem} (h : ∀ item ∈ items, item.IsColumn)
    (group : List Env) :
    items.flatMap (·.cells F group) =
      items.map fun item => (item.outputName?.getD "", item.expr.value F group) := by
  rw [← List.flatMap_pure_eq_map]
  exact List.flatMap_congr fun item hitem => cells_of_isColumn (h item hitem) group

/-- The column of `item` is read by its `name` from the row of a group, if no other of the `items`
has the name. -/
theorem read_cells {items : List SelectItem} (h : ∀ item ∈ items, item.IsColumn)
    (hnodup : (items.map (·.outputName?)).Nodup) {item : SelectItem} (hitem : item ∈ items)
    {name : String} (hname : item.outputName? = some name) (group : List Env) :
    Row.read (items.flatMap (·.cells F group)) name = item.expr.value F group := by
  rw [flatMap_cells h]
  refine Row.read_of_mem ?_ ?_
  · rw [List.map_map]
    -- every item has a name, so the names are distinct with and without the default
    refine List.Nodup.of_map some ?_
    rw [List.map_map]
    refine Eq.mpr (congrArg List.Nodup (List.map_congr_left fun item' hitem' => ?_)) hnodup
    rcases (h item' hitem').1 with ⟨name', hname'⟩
    simp [hname']
  · exact List.mem_map.2 ⟨item, hitem, by simp [hname]⟩

end SelectItem

/-! ## Groups -/

namespace Frame

/-- Whether the rows of `frame` with the value `v` in `column` have the same `keys`. -/
def Determines (F : Functions) (frame : Frame) (column : Expr) (v : Value) (keys : List Expr) :
    Prop :=
  ∀ env ∈ frame.envs, ∀ env' ∈ frame.envs, column.value F [env] = v → column.value F [env'] = v →
    v ≠ .null → key F keys env = key F keys env'

/-- The rows of `frame` with the value `v` in `column`. -/
def withValue (F : Functions) (frame : Frame) (column : Expr) (v : Value) : List Env :=
  frame.envs.filter fun env => column.value F [env] = v

variable {frame : Frame} {qualifier : Option String} {name : String} {others : List Expr}

/-- Without groups and aggregates, each of the rows is selected from by itself. -/
theorem rows_select_nil {items : List SelectItem} (h : items.any (·.expr.aggregates) = false) :
    (frame.select F items []).rows = frame.envs.map fun env => items.flatMap (·.cells F [env]) := by
  simp only [select, split, List.isEmpty_nil, if_true, h, Bool.false_eq_true, if_false,
    List.map_map]
  rfl

theorem rows_select (items : List SelectItem) (first : Expr) :
    (frame.select F items (first :: others)).rows =
      (frame.envs.map (key F (first :: others))).eraseDups.map fun k =>
        items.flatMap
          (·.cells F (frame.envs.filter fun env => key F (first :: others) env = k)) := by
  rw [select, split, if_neg (by simp), List.map_map]
  rfl

/-- The row of the group of `env` shows, under `name`, the value that the rows of the group
share. -/
theorem read_group (rest : List SelectItem) {env : Env} (henv : env ∈ frame.envs) :
    Row.read ((⟨.column qualifier name, none⟩ :: rest).flatMap
        (·.cells F (frame.envs.filter fun env' =>
          key F (.column qualifier name :: others) env' =
            key F (.column qualifier name :: others) env))) name =
      (Expr.column qualifier name).value F [env] := by
  -- the row is in its own group, so the group has a first row, and the columns are read from that
  have hmem : env ∈ frame.envs.filter fun env' =>
      key F (.column qualifier name :: others) env' =
        key F (.column qualifier name :: others) env :=
    List.mem_filter.2 ⟨henv, by simp⟩
  cases hgroup : frame.envs.filter fun env' =>
      key F (.column qualifier name :: others) env' =
        key F (.column qualifier name :: others) env with
  | nil =>
      rw [hgroup] at hmem
      cases hmem
  | cons env' group =>
      -- the first row of the group has the same keys as `env`, so the same value
      have hkey : key F (.column qualifier name :: others) env' =
          key F (.column qualifier name :: others) env := by
        have hfirst : env' ∈ frame.envs.filter fun env' =>
            key F (.column qualifier name :: others) env' =
              key F (.column qualifier name :: others) env := by
          rw [hgroup]
          exact List.mem_cons_self
        simpa using (List.mem_filter.1 hfirst).2
      have hvalue : (Expr.column qualifier name).value F (env' :: group) =
          (Expr.column qualifier name).value F [env] := (List.cons.inj hkey).1
      rw [List.flatMap_cons, SelectItem.cells, List.singleton_append, Row.read_cons]
      simpa [SelectItem.outputName?] using hvalue

/-- A query that is grouped by its first column `name` has at most one row for the value `v` of
it. -/
theorem uniqueAt_select (rest : List SelectItem) {v : Value}
    (h : frame.Determines F (.column qualifier name) v others) :
    (frame.select F (⟨.column qualifier name, none⟩ :: rest)
      (.column qualifier name :: others)).UniqueAt name v := by
  rw [Bag.UniqueAt, rows_select, List.pairwise_map]
  refine (nodup_eraseDups _).imp_of_mem ?_
  intro k k' hk hk' hne hread hread'
  -- both rows are those of keys, and the keys follow from the value
  rcases List.mem_map.1 (List.mem_eraseDups.1 hk) with ⟨env, henv, rfl⟩
  rcases List.mem_map.1 (List.mem_eraseDups.1 hk') with ⟨env', henv', rfl⟩
  rw [read_group rest henv] at hread
  rw [read_group rest henv'] at hread'
  by_contra hnull
  exact hne (congrArg₂ List.cons (hread.trans hread'.symm)
    (h env henv env' henv' hread hread' hnull))

/-- The rows with the key of `env` are those with its value `v`. -/
theorem filter_key {v : Value} (h : frame.Determines F (.column qualifier name) v others)
    (hv : v ≠ .null) {env : Env} (henv : env ∈ frame.envs)
    (hvalue : (Expr.column qualifier name).value F [env] = v) :
    (frame.envs.filter fun env' =>
        key F (.column qualifier name :: others) env' =
          key F (.column qualifier name :: others) env) =
      frame.withValue F (.column qualifier name) v := by
  rw [withValue]
  refine List.filter_congr fun env' henv' => decide_eq_decide.2 ?_
  constructor
  · intro heq
    exact (List.cons.inj heq).1.trans hvalue
  · intro hvalue'
    exact congrArg₂ List.cons (hvalue'.trans hvalue.symm) (h env' henv' env henv hvalue' hvalue hv)

/-- A query that is grouped by its first column is followed, by the value `v`, to the row of all
rows with the value. -/
theorem follow_select (rest : List SelectItem) {v : Value}
    (h : frame.Determines F (.column qualifier name) v others) (hv : v ≠ .null) :
    (frame.select F (⟨.column qualifier name, none⟩ :: rest)
        (.column qualifier name :: others)).follow name v =
      if (frame.withValue F (.column qualifier name) v).isEmpty then
        (frame.select F (⟨.column qualifier name, none⟩ :: rest)
          (.column qualifier name :: others)).nulls
      else
        (⟨.column qualifier name, none⟩ :: rest).flatMap
          (·.cells F (frame.withValue F (.column qualifier name) v)) := by
  rw [Bag.follow, Bag.row?, rows_select, List.find?_map]
  cases hfind : (frame.envs.map (key F (.column qualifier name :: others))).eraseDups.find?
      ((fun r : Row => decide (r.read name = v ∧ v ≠ .null)) ∘ fun k =>
        (⟨.column qualifier name, none⟩ :: rest).flatMap
          (·.cells F (frame.envs.filter fun env =>
            key F (.column qualifier name :: others) env = k))) with
  | none =>
      -- a row with the value would have a key among those searched
      have hempty : frame.withValue F (.column qualifier name) v = [] := by
        rw [withValue, List.filter_eq_nil_iff]
        intro env henv hvalue
        have hmem : key F (.column qualifier name :: others) env ∈
            (frame.envs.map (key F (.column qualifier name :: others))).eraseDups :=
          List.mem_eraseDups.2 (List.mem_map_of_mem henv)
        have hread := List.find?_eq_none.1 hfind _ hmem
        rw [Function.comp_apply, read_group rest henv] at hread
        simp only [decide_eq_true_eq] at hread hvalue
        exact hread ⟨hvalue, hv⟩
      rw [hempty]
      rfl
  | some k =>
      -- the key that is found is that of a row with the value, and of all such rows
      rcases List.mem_map.1 (List.mem_eraseDups.1 (List.mem_of_find?_eq_some hfind)) with
        ⟨env, henv, rfl⟩
      have hread := List.find?_some hfind
      rw [Function.comp_apply, read_group rest henv] at hread
      simp only [decide_eq_true_eq] at hread
      have hmem : env ∈ frame.withValue F (.column qualifier name) v :=
        List.mem_filter.2 ⟨henv, by simpa using hread.1⟩
      have hsome : (frame.withValue F (.column qualifier name) v).isEmpty = false := by
        cases hrows : frame.withValue F (.column qualifier name) v with
        | nil =>
            rw [hrows] at hmem
            cases hmem
        | cons => rfl
      rw [hsome, ← filter_key h hv henv hread.1]
      rfl

end Frame

end LinkedRecords.Sql
