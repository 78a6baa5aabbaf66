import LinkedRecords.Proofs.Compile.ForeignRecords
import LinkedRecords.Proofs.Compile.Links

/-! # What links are computed to

The links of a record are the rows of the link table that name it. Every one of them is next to at
most one foreign record, so the values gathered over the joined rows are those gathered over the
links: none is lost, and none counts twice.

* `Link.IsClear` — when the query for the links of a record means what it says.
* `Link.IsClear.withValue_frame` — the joined rows of a record are its links.
* `Link.IsClear.read_field`, `Link.IsClear.read_count` — the ids at the other end, and their number.
* `Link.IsClear.read_sum`, `Link.IsClear.read_average` — what is computed over the links.
-/

namespace LinkedRecords

open Sql

/-! ## Values over links -/

/-- What a record is linked to: the ids at the other end of its `links`, or that of its parent. -/
def Relation.linkedIds (r : Relation) (F : Functions) (links : List Row) : Value :=
  match r with
  | reference _ | tree _ =>
    if links.isEmpty then .null else F.groupArray (links.map (·.read r.foreignColumn))
  | parent _ => (links.head?.map (·.read r.foreignColumn)).getD .null

/-- The value of the field `c` in the record at the other end of `link`; missing if there is
none. -/
def Relation.foreignValue (r : Relation) (F : Functions) (records : Bag) (idColumn : String)
    (c : DisplayColumn) (link : Row) : Value :=
  ((records.row? idColumn (link.read r.foreignColumn)).map (c.valueIn F)).getD .null

/-- What `f` computes from the values over all `links`; missing without links. -/
def total (f : Multiset Value → Value) (links : List Row) (value : Row → Value) : Value :=
  if links.isEmpty then .null else f (present (links.map value))

/-- The number of `links`, which is missing without links unless `options` ask for zero. -/
def countOf (options : Options) (links : List Row) : Value :=
  if links.isEmpty ∧ !options.coalesceCounts then .null else .number links.length

namespace Sql.Expr

variable (F : Functions)

theorem heads_values (e : Expr) (group : List Env) :
    (group.map fun env => values F [e] [env]).filterMap List.head? =
      group.map fun env => e.value F [env] := by
  rw [List.filterMap_map, ← List.filterMap_eq_map]
  rfl

theorem value_jsonGroupArray (e : Expr) (group : List Env) :
    e.jsonGroupArray.value F group = F.groupArray (group.map fun env => e.value F [env]) := by
  rw [← heads_values]
  rfl

theorem value_sum (e : Expr) (group : List Env) :
    e.sum.value F group = F.sum (present (group.map fun env => e.value F [env])) := by
  rw [← heads_values]
  rfl

theorem value_average (e : Expr) (group : List Env) :
    e.average.value F group = F.average (present (group.map fun env => e.value F [env])) := by
  rw [← heads_values]
  rfl

theorem value_countRows (group : List Env) : countRows.value F group = .number group.length := by
  have hstars : countRows.value F group =
      .number (present (group.map fun env => (Expr.star none).value F [env])).length := by
    rw [← heads_values]
    rfl
  -- a star is never missing, so rows count whatever they hold
  have hpresent : present (group.map fun env => (Expr.star none).value F [env]) =
      group.map fun env => (Expr.star none).value F [env] := by
    rw [present, List.filter_eq_self]
    intro v hv
    rcases List.mem_map.1 hv with ⟨env, -, rfl⟩
    rfl
  rw [hstars, hpresent, List.length_map]

end Sql.Expr

/-! ## The rows that links are computed over -/

namespace Link

variable {F : Functions} {db : Database} {l : Link} {r : Relation} {id : Value}

/-- When the query for the links of the record `id` means what it says: ids are unique, and so are
the names of its sources and columns. -/
structure IsClear (db : Database) (l : Link) (r : Relation) (id : Value) : Prop where
  known : id ≠ .null
  ids : (db l.foreign.text).UniqueOn l.options.idColumn
  qualifiers : l.linkTable r ≠ l.foreignAlias
  recordNames : l.records.outputNames.Nodup
  names : (l.query r).outputNames.Nodup
  parent : ∀ h, r = .parent h → Relation.OneParent (db (l.linkTable r)) id

/-- The row `link` next to the foreign record that it leads to. -/
def linkEnv (F : Functions) (db : Database) (l : Link) (r : Relation) (link : Row) : Env :=
  [(some (l.linkTable r), link),
    (some l.foreignAlias,
      (l.records.run F db).follow l.options.idColumn (link.read r.foreignColumn))]

/-- The links of the record `id`. -/
def linksOf (db : Database) (l : Link) (r : Relation) (id : Value) : List Row :=
  r.links db l.table l.field id

/-- Every row of `linkTable` stands next to one foreign record, which may be missing. -/
theorem IsClear.envs_leftJoin (h : l.IsClear db r id) :
    ((Frame.ofBag (some (l.linkTable r)) (db (l.linkTable r))).leftJoin F (some l.foreignAlias)
        (l.records.run F db) ((Expr.of (l.linkTable r) r.foreignColumn).equals
          (.of l.foreignAlias l.options.idColumn))).envs =
      (db (l.linkTable r)).rows.map (l.linkEnv F db r) := by
  have hunique : ∀ v, (l.records.run F db).UniqueAt l.options.idColumn v :=
    uniqueAt_foreignRecords h.ids
  have hofBag : (Frame.ofBag (some (l.linkTable r)) (db (l.linkTable r))).envs =
      (db (l.linkTable r)).rows.map fun link => [(some (l.linkTable r), link)] := rfl
  -- ids are unique among the foreign records, so the join follows the id in the link
  rw [Frame.envs_leftJoin F (fun env => (env.row (l.linkTable r)).read r.foreignColumn)
    fun _ _ => hunique _]
  · rw [hofBag, List.map_map]
    refine List.map_congr_left fun link _ => ?_
    rw [Function.comp_apply, Env.row_cons, if_pos rfl]
    rfl
  · intro env henv row
    rw [hofBag] at henv
    rcases List.mem_map.1 henv with ⟨link, -, rfl⟩
    -- each side of the condition is read from a source of its own
    have hne : some (l.linkTable r) ≠ some l.foreignAlias := fun heq =>
      h.qualifiers (Option.some.inj heq)
    rw [List.singleton_append, Expr.value_equals, Value.holds_equals, Expr.value_of_first,
      Expr.value_of, Env.row_cons, if_neg hne, Env.row_cons, if_pos rfl, Env.row_cons, if_pos rfl]
    exact decide_eq_decide.2 (and_congr_left fun _ => eq_comm)

/-- The condition leaves those rows of `linkTable` that are links. -/
theorem IsClear.envs_frame (h : l.IsClear db r id) :
    (l.frame F db r).envs =
      ((db (l.linkTable r)).rows.filter r.isLink).map (l.linkEnv F db r) := by
  rw [frame, Frame.envs_filter, h.envs_leftJoin, List.filter_map]
  refine congrArg (List.map _) (List.filter_congr fun link _ => ?_)
  exact Relation.holds_condition F r _ link _

/-- The joined rows of the record `id` are its links. -/
theorem IsClear.withValue_frame (h : l.IsClear db r id) :
    (l.frame F db r).withValue F (.of (l.linkTable r) r.currentColumn) id =
      (l.linksOf db r id).map (l.linkEnv F db r) := by
  rw [Frame.withValue, h.envs_frame, List.filter_map, List.filter_filter, linksOf, Relation.links]
  refine congrArg (List.map _) (List.filter_congr fun link _ => ?_)
  rw [Function.comp_apply, linkEnv, Expr.value_of_first]
  simp [Bool.and_comm]

/-! ## What the query for links yields -/

theorem isColumn_linkItems {item : SelectItem} (h : item ∈ l.linkItems r) : item.IsColumn := by
  simp only [linkItems, AttachedFields.aggregates, List.mem_cons, List.mem_append,
    List.mem_map] at h
  rcases h with rfl | ⟨c, -, rfl⟩ | (⟨field, -, rfl⟩ | ⟨x, -, rfl⟩) | ⟨x, -, rfl⟩
  · refine ⟨⟨_, rfl⟩, fun qualifier => ?_⟩
    cases r <;> simp [SelectItem.named, Relation.linked, Expr.jsonGroupArray, Expr.of]
  · exact ⟨⟨_, rfl⟩, by simp [DisplayColumn.gathered, SelectItem.named, Expr.jsonGroupArray]⟩
  · exact ⟨⟨_, rfl⟩, by simp [SelectItem.named, Expr.countRows]⟩
  · exact ⟨⟨_, rfl⟩, by simp [SelectItem.named, Expr.sum]⟩
  · exact ⟨⟨_, rfl⟩, by simp [SelectItem.named, Expr.average]⟩

/-- What is read for the record `id` under `name` is computed over its links, and missing without
links. -/
theorem IsClear.read_query (h : l.IsClear db r id) {item : SelectItem}
    (hitem : item ∈ l.linkItems r) {name : String} (hname : item.outputName? = some name) :
    (((l.query r).run F db).follow r.currentColumn id).read name =
      if (l.linksOf db r id).isEmpty then .null
      else item.expr.value F ((l.linksOf db r id).map (l.linkEnv F db r)) := by
  have hfollow : ((l.query r).run F db).follow r.currentColumn id =
      if ((l.frame F db r).withValue F (.of (l.linkTable r) r.currentColumn) id).isEmpty then
        ((l.query r).run F db).nulls
      else (l.query r).items.flatMap
        (·.cells F ((l.frame F db r).withValue F (.of (l.linkTable r) r.currentColumn) id)) :=
    Frame.follow_select (l.linkItems r) (determines fun _ => h.parent) h.known
  -- the group of the record is empty just if the record has no links
  rw [hfollow, h.withValue_frame, List.isEmpty_map]
  split
  · exact Bag.read_nulls _ name
  · refine SelectItem.read_cells ?_ h.names (List.mem_cons_of_mem _ hitem) hname _
    intro item' hitem'
    rcases List.mem_cons.1 hitem' with rfl | hitem'
    · exact ⟨⟨r.currentColumn, rfl⟩, by simp [Expr.of]⟩
    · exact isColumn_linkItems hitem'

/-- Under the relation field itself the ids at the other end are read. -/
theorem IsClear.read_field (h : l.IsClear db r id) :
    (((l.query r).run F db).follow r.currentColumn id).read l.field.text =
      r.linkedIds F (l.linksOf db r id) := by
  have hitem : .named (r.linked (l.linkTable r)) l.field.text ∈ l.linkItems r := List.mem_cons_self
  rw [h.read_query hitem rfl]
  have hforeign : ∀ link : Row, (Expr.of (l.linkTable r) r.foreignColumn).value F
      [l.linkEnv F db r link] = link.read r.foreignColumn :=
    fun link => Expr.value_of_first ..
  -- references and trees gather the other ends, in whatever order the rows come
  have hgathered : ((Expr.of (l.linkTable r) r.foreignColumn).jsonGroupArray).value F
      ((l.linksOf db r id).map (l.linkEnv F db r)) =
        F.groupArray ((l.linksOf db r id).map (·.read r.foreignColumn)) := by
    rw [Expr.value_jsonGroupArray, List.map_map]
    exact congrArg (fun values : List Value => F.groupArray values)
      (List.map_congr_left fun link _ => hforeign link)
  cases r with
  | reference r => simp only [SelectItem.named, Relation.linked, hgathered, Relation.linkedIds]
  | tree hierarchy =>
      simp only [SelectItem.named, Relation.linked, hgathered, Relation.linkedIds]
  | parent hierarchy =>
      -- the parent is no aggregate: like every column it is read from the first link
      generalize l.linksOf db (.parent hierarchy) id = links
      cases links with
      | nil => rfl
      | cons link links => exact Expr.value_of_first F ..

/-- Under a field of `attached.counts` the number of links is read. -/
theorem IsClear.read_count (h : l.IsClear db r id) {field : FieldId}
    (hfield : field ∈ l.attached.counts) :
    (((l.query r).run F db).follow r.currentColumn id).read field.text =
      if (l.linksOf db r id).isEmpty then .null else .number (l.linksOf db r id).length := by
  have hitem : .named .countRows field.text ∈ l.linkItems r :=
    List.mem_cons_of_mem _ (List.mem_append_right _ (List.mem_append_left _
      (List.mem_append_left _ (List.mem_map_of_mem hfield))))
  rw [h.read_query hitem rfl, SelectItem.named, Expr.value_countRows, List.length_map]

/-- Next to a link, the column of `c` is read as the `foreignValue` of the link. -/
theorem IsClear.value_source (h : l.IsClear db r id) {c : DisplayColumn} (hc : c ∈ l.columns)
    (link : Row) :
    (Expr.of l.foreignAlias c.field.text).value F [l.linkEnv F db r link] =
      r.foreignValue F (db l.foreign.text) l.options.idColumn c link := by
  have hne : some (l.linkTable r) ≠ some l.foreignAlias := fun heq =>
    h.qualifiers (Option.some.inj heq)
  rw [Expr.value_of, linkEnv, Env.row_cons, if_neg hne, Env.row_cons, if_pos rfl]
  exact read_foreignRecords h.ids h.recordNames hc _

/-- What an `aggregate` computes from the field `c` over the links is the `total` of its foreign
values. -/
theorem IsClear.read_total (h : l.IsClear db r id) {field : FieldId} {c : DisplayColumn}
    (hc : c ∈ l.columns) {aggregate : Expr → Expr} {f : Multiset Value → Value}
    (hvalue : ∀ e group, (aggregate e).value F group =
      f (present (group.map fun env => e.value F [env])))
    (hitem : .named (aggregate (.of l.foreignAlias c.field.text)) field.text ∈ l.linkItems r) :
    (((l.query r).run F db).follow r.currentColumn id).read field.text =
      total f (l.linksOf db r id)
        (r.foreignValue F (db l.foreign.text) l.options.idColumn c) := by
  rw [h.read_query hitem rfl, SelectItem.named, hvalue, List.map_map, total]
  simp only [Function.comp_def, h.value_source hc]

theorem IsClear.read_sum (h : l.IsClear db r id) {field : FieldId} {c : DisplayColumn}
    (hc : c ∈ l.columns) (hfield : (field, c.field) ∈ l.attached.sums) :
    (((l.query r).run F db).follow r.currentColumn id).read field.text =
      total F.sum (l.linksOf db r id)
        (r.foreignValue F (db l.foreign.text) l.options.idColumn c) := by
  refine h.read_total hc (Expr.value_sum F) ?_
  exact List.mem_cons_of_mem _ (List.mem_append_right _ (List.mem_append_left _
    (List.mem_append_right _ (List.mem_map_of_mem hfield))))

theorem IsClear.read_average (h : l.IsClear db r id) {field : FieldId} {c : DisplayColumn}
    (hc : c ∈ l.columns) (hfield : (field, c.field) ∈ l.attached.averages) :
    (((l.query r).run F db).follow r.currentColumn id).read field.text =
      total F.average (l.linksOf db r id)
        (r.foreignValue F (db l.foreign.text) l.options.idColumn c) := by
  refine h.read_total hc (Expr.value_average F) ?_
  exact List.mem_cons_of_mem _ (List.mem_append_right _ (List.mem_append_right _
    (List.mem_map_of_mem hfield)))

end Link

end LinkedRecords
