import LinkedRecords.Proofs.Compile.Accounting
import LinkedRecords.Proofs.Compile.ForeignRecords
import LinkedRecords.Proofs.Compile.Links
import LinkedRecords.Proofs.Sql.Scoping

/-! # The parts of a compiled query

A compiled query is its base with one fragment for each file field and for each relation that leads
to a table. A fragment joins queries of its own: the files of the records, or the links of the
records with the foreign records that they lead to. Here these queries are found, and the names of
their columns.

* `Link.outputNames_query`, `Link.outputNames_records` — the names of the columns of each query.
* `Link.forall_exprs_query`, `Link.forall_exprs_records`, `forall_exprs_fileRows` — what has to be
  shown of all expressions of each query.
* `Table.HasLink`, `Table.Adds` — the fragments that a table may add.
* `exists_compile_iff` — when a table compiles, told field by field.
* `exists_madeOf` — every compiled query is `MadeOf` fragments of its table.
* `Compiled.MadeOf.mem_exprs_iff`, `Compiled.MadeOf.exists_link` — what can be found in it.
-/

namespace LinkedRecords

open Sql

/-! ## Queries that are added -/

namespace Sql.Query

theorem joinSubqueries_eq_flatMap (joins : List (Join Query)) :
    joinSubqueries joins = joins.flatMap fun join => refSubqueries join.target := by
  induction joins with
  | nil => rfl
  | cons join joins ih => rw [joinSubqueries, List.flatMap_cons, ih]

end Sql.Query

/-- The queries that a compilation adds to `base`, at every depth. -/
def Compiled.added (out : Compiled) (base : Query) : List Query :=
  Query.joinSubqueries (out.query.joins.drop base.joins.length)

namespace Link

variable (l : Link) (r : Relation)

theorem subqueries_records : l.records.subqueries = [] := by
  rw [records, foreignRecords_eq]
  rfl

/-- The foreign records have their id, and one item for each of the `columns` that are shown. -/
theorem cases_of_mem_items_records {item : SelectItem} (h : item ∈ l.records.items) :
    item = ⟨.col l.options.idColumn, none⟩ ∨ ∃ c ∈ l.columns, item = c.projection := by
  rw [records, foreignRecords_eq] at h
  rcases List.mem_cons.1 h with rfl | h
  · exact .inl rfl
  · rcases List.mem_map.1 h with ⟨c, hc, rfl⟩
    exact .inr ⟨c, hc, rfl⟩

/-- The foreign records are grouped by columns that are named alone. -/
theorem exists_of_mem_groups_records {e : Expr} (h : e ∈ l.records.groups) :
    ∃ name, e = .col name := by
  rw [records, foreignRecords_eq] at h
  rcases List.mem_cons.1 (List.mem_eraseDups.1 h) with rfl | h
  · exact ⟨_, rfl⟩
  · rcases List.mem_flatMap.1 h with ⟨c, -, h⟩
    rcases List.mem_map.1 h with ⟨column, -, rfl⟩
    exact ⟨_, rfl⟩

theorem joins_records : l.records.joins = [] := by
  rw [records, foreignRecords_eq]

theorem condition_records : l.records.condition = none := by
  rw [records, foreignRecords_eq]

theorem subqueries_query : (l.query r).subqueries = [l.records] := by
  have hsubqueries : (l.query r).subqueries = (l.records :: l.records.subqueries) ++ [] := rfl
  rw [hsubqueries, subqueries_records, List.append_nil]

variable {P : Expr → Prop}

/-- The expressions of the foreign records meet `P` if all columns that are named alone do, and
whatever the `columns` that are shown are read as. -/
theorem forall_exprs_records (column : ∀ name, P (.col name))
    (projection : ∀ c ∈ l.columns, P c.projection.expr) : ∀ e ∈ l.records.exprs, P e := by
  intro e he
  rw [Query.mem_exprs, l.joins_records, l.condition_records] at he
  -- the foreign records are grouped, but neither joined nor filtered
  rcases he with ⟨item, hitem, rfl⟩ | ⟨join, hjoin, -⟩ | he | he
  · rcases l.cases_of_mem_items_records hitem with rfl | ⟨c, hc, rfl⟩
    · exact column _
    · exact projection c hc
  · cases hjoin
  · cases he
  · rcases l.exists_of_mem_groups_records he with ⟨name, rfl⟩
    exact column name

/-- The expressions of the links meet `P` if the two ends of a link do, what the record is linked to,
the values that are gathered, the numbers, and the conditions on the foreign id and on the depth. -/
theorem forall_exprs_query (current : P (.of (l.linkTable r) r.currentColumn))
    (foreign : P (.of (l.linkTable r) r.foreignColumn)) (linked : P (r.linked (l.linkTable r)))
    (gathered : ∀ c ∈ l.columns, P (c.gathered l.foreignAlias).expr)
    (aggregate : ∀ item ∈ l.attached.aggregates l.foreignAlias, P item.expr)
    (follows : P ((Expr.of (l.linkTable r) r.foreignColumn).equals
      (.of l.foreignAlias l.options.idColumn)))
    (depth : ∀ op n, P (.binary (.of (l.linkTable r) Naming.depthColumn) op (.int n))) :
    ∀ e ∈ (l.query r).exprs, P e := by
  intro e he
  rw [Query.mem_exprs] at he
  rcases he with ⟨item, hitem, rfl⟩ | ⟨join, hjoin, rfl⟩ | he | he
  · rcases l.cases_of_mem_items_query r hitem with rfl | rfl | ⟨c, hc, rfl⟩ | hitem
    · exact current
    · exact linked
    · exact gathered c hc
    · exact aggregate item hitem
  · obtain rfl := List.mem_singleton.1 hjoin
    exact follows
  · rcases l.cases_of_mem_condition_query r he with ⟨op, n, rfl⟩
    exact depth op n
  · rcases l.cases_of_mem_groups_query r he with rfl | rfl
    · exact current
    · exact foreign

end Link

/-- The expressions of the files of `field` meet `P` if the column of the record does, the files of
one record, and the condition that they are those of `field`. -/
theorem forall_exprs_fileRows {P : Expr → Prop} {options : FileOptions} {field : FieldId}
    (record : P (.col options.recordColumn))
    (files : P (Expr.jsonObject (fileColumns.map fun column =>
      (column, .col column))).jsonGroupArray)
    (own : P ((Expr.col options.fieldColumn).equals (.text field.text))) :
    ∀ e ∈ (fileRows options field).exprs, P e := by
  intro e he
  rw [Query.mem_exprs] at he
  rcases he with ⟨item, hitem, rfl⟩ | ⟨join, hjoin, -⟩ | he | he
  · rcases List.mem_pair.1 hitem with rfl | rfl
    · exact record
    · exact files
  · cases hjoin
  · cases he
    exact own
  · obtain rfl := List.mem_singleton.1 he
    exact record

namespace Fragment

/-- The queries that the fragment `f` joins, at every depth. -/
def queries (f : Fragment) : List Query := Query.refSubqueries f.join.target

/-- The expressions that the fragment `f` adds: those of its items, the condition of its join, and
those of the queries that it joins. -/
def exprs (f : Fragment) : List Expr :=
  f.items.map (·.expr) ++ f.join.matching :: f.queries.flatMap (·.exprs)

theorem mem_exprs {f : Fragment} {e : Expr} :
    e ∈ f.exprs ↔ (∃ item ∈ f.items, item.expr = e) ∨ e = f.join.matching ∨
      ∃ q ∈ f.queries, e ∈ q.exprs := by
  simp only [exprs, List.mem_append, List.mem_cons, List.mem_map, List.mem_flatMap]

theorem queries_resolve (l : Link) (r : Relation) :
    (l.resolve r).queries = [l.query r, l.records] := by
  rw [queries, l.join_resolve, ← l.subqueries_query r]
  rfl

theorem queries_fileFragment (options : Options) (field : FieldId) :
    (fileFragment options field).queries = [fileRows options.files field] := rfl

end Fragment

/-! ## The names of their columns -/

/-- The attached fields that are computed over all links: counts, sums and averages. -/
def AttachedFields.numbers (a : AttachedFields) : List FieldId :=
  a.counts ++ a.sums.map (·.1) ++ a.averages.map (·.1)

theorem AttachedFields.numbers_sublist_ids (a : AttachedFields) : a.numbers.Sublist a.ids := by
  have hsplit : a.ids = a.lookups.map (·.1) ++ a.numbers := by
    simp only [ids, numbers, List.append_assoc]
  rw [hsplit]
  exact List.sublist_append_right ..

namespace Link

variable (l : Link) (r : Relation)

/-- The fields whose values are columns of the links: the relation itself, those that are read from
the foreign records, and those that are computed. -/
def shownFields : List FieldId := l.field :: (l.columns.map (·.field) ++ l.attached.numbers)

theorem outputNames_query :
    (l.query r).outputNames = some r.currentColumn :: l.shownFields.map (some ·.text) := by
  have hgathered : (l.columns.map (·.gathered l.foreignAlias)).map (·.outputName?) =
      (l.columns.map (·.field)).map (some ·.text) := by
    rw [List.map_map, List.map_map]
    rfl
  have haggregates : (l.attached.aggregates l.foreignAlias).map (·.outputName?) =
      l.attached.numbers.map (some ·.text) := by
    simp only [AttachedFields.aggregates, AttachedFields.numbers, List.map_append, List.map_map]
    rfl
  -- the items stand in this order: the record, the relation, the shown fields, the numbers
  rw [shownFields, List.map_cons, List.map_append, ← hgathered, ← haggregates, ← List.map_append]
  rfl

theorem outputNames_records :
    l.records.outputNames =
      some l.options.idColumn :: (l.columns.map (·.field)).map (some ·.text) := by
  have hprojections : (l.columns.map (·.projection)).map (·.outputName?) =
      (l.columns.map (·.field)).map (some ·.text) := by
    rw [List.map_map, List.map_map]
    exact List.map_congr_left fun c _ => c.outputName?_projection
  rw [records, foreignRecords_eq, ← hprojections]
  rfl

end Link

theorem outputNames_fileRows (options : FileOptions) (field : FieldId) :
    (fileRows options field).outputNames = [some options.recordColumn, some field.text] := rfl

/-! ## The fragments of a table -/

namespace Table

variable (t : Table) (c : Catalog) (options : Options)

/-- Whether `l` is the link of the relation `field`, which leads to the table `foreign`, stored in
`layout`. -/
structure HasLink (field : FieldId) (r : Relation) (foreign : Table) (layout : Layout) (l : Link) :
    Prop where
  live : t.reaches c r = true
  leads : t.foreign? c r = some foreign
  stored : c.layout? (r.foreignTable t.id) = some layout
  collected : DisplayColumn.collect foreign layout
    (r.displayIds foreign ++ (t.attachedTo field).sources) = .ok l.columns
  parts : l = ⟨options, t.id, field, foreign.id, r.displayIds foreign, l.columns,
    t.attachedTo field⟩

/-- The fragments that a compilation of `t` may add: one of files, or that of a link. -/
inductive Adds : Fragment → Prop
  | files {field : FieldId} (hkind : t.kind? field = some .attachment) :
      Adds (fileFragment options field)
  | link {field : FieldId} {r : Relation} {foreign : Table} {layout : Layout} {l : Link}
      (hkind : t.kind? field = some (.relation r))
      (hlink : t.HasLink c options field r foreign layout l) : Adds (l.resolve r)

end Table

/-- Whether `out` is made of `base` and these `fragments`, which are those of the live fields of
`t`. -/
structure Compiled.MadeOf (out : Compiled) (catalog : Catalog) (options : Options) (t : Table)
    (base : Query) (fragments : List Fragment) : Prop where
  query : out.query = { base with
    items := base.items ++ fragments.flatMap (·.items)
    joins := base.joins ++ fragments.map (·.join) }
  fields : fragments.map (·.field) = t.compileOrder.filter (t.isLive catalog)
  adds : ∀ f ∈ fragments, t.Adds catalog options f
  stale : out.stale = (t.compileOrder.filter fun id => !t.isLive catalog id).flatMap t.staleFields

section Parts

variable {catalog : Catalog} {options : Options} {t : Table} {base : Query} {out : Compiled}

namespace Table.HasLink

variable {field : FieldId} {r : Relation} {foreign : Table} {layout : Layout} {l : Link}

theorem options_eq (h : t.HasLink catalog options field r foreign layout l) :
    l.options = options := by
  rw [h.parts]

theorem table_eq (h : t.HasLink catalog options field r foreign layout l) : l.table = t.id := by
  rw [h.parts]

theorem field_eq (h : t.HasLink catalog options field r foreign layout l) : l.field = field := by
  rw [h.parts]

theorem foreign_eq (h : t.HasLink catalog options field r foreign layout l) :
    l.foreign = foreign.id := by
  rw [h.parts]

theorem display_eq (h : t.HasLink catalog options field r foreign layout l) :
    l.display = r.displayIds foreign := by
  rw [h.parts]

theorem attached_eq (h : t.HasLink catalog options field r foreign layout l) :
    l.attached = t.attachedTo field := by
  rw [h.parts]

/-- A relation of `t` to itself leads to `t` as it is at hand. -/
theorem foreign_of_self (h : t.HasLink catalog options field r foreign layout l)
    (hself : r.foreignTable t.id = t.id) : foreign = t := by
  have hleads := h.leads
  rw [Table.foreign?, if_pos hself] at hleads
  exact (Option.some.inj hleads).symm

/-- All that is shown or computed with is read, each field once: the columns are those of
`displayIds` and `sources`. -/
theorem columns_eq (h : t.HasLink catalog options field r foreign layout l) :
    l.columns.map (·.field) = (r.displayIds foreign ++ (t.attachedTo field).sources).eraseDups :=
  DisplayColumn.field_of_collect h.collected

/-- Two links `l` and `l'` of one relation are the same. -/
theorem unique {foreign' : Table} {layout' : Layout} {l' : Link}
    (h : t.HasLink catalog options field r foreign layout l)
    (h' : t.HasLink catalog options field r foreign' layout' l') : l = l' := by
  have hforeign : foreign = foreign' := by
    rw [← Option.some.injEq, ← h.leads, ← h'.leads]
  subst hforeign
  have hlayout : layout = layout' := by
    rw [← Option.some.injEq, ← h.stored, ← h'.stored]
  subst hlayout
  -- the two links collect the same columns, and everything else is given
  have hcolumns : l.columns = l'.columns := by
    have hboth := h.collected
    rw [h'.collected] at hboth
    exact (Except.ok.inj hboth).symm
  rw [h.parts, h'.parts, hcolumns]

/-- A relation that has the link `l` is compiled to the fragment of `l`. -/
theorem resolves {own : Layout} (h : t.HasLink catalog options field r foreign layout l) :
    (Scope.start catalog options t own).Resolves field r foreign l := by
  constructor
  · exact Scope.foreign?_start_eq_some.2 ⟨h.live, h.leads⟩
  · refine ⟨layout, h.stored, ?_⟩
    rw [Scope.attachedTo_start]
    exact Link.ofRelation_eq_ok.2 ⟨l.columns, h.collected, h.parts⟩

end Table.HasLink

theorem Scope.Resolves.hasLink {layout : Layout} {field : FieldId} {r : Relation} {foreign : Table}
    {link : Link} (h : (start catalog options t layout).Resolves field r foreign link) :
    ∃ foreignLayout, t.HasLink catalog options field r foreign foreignLayout link := by
  rcases foreign?_start_eq_some.1 h.leads with ⟨hlive, hforeign⟩
  rcases h.built with ⟨foreignLayout, hlayout, hbuilt⟩
  rw [attachedTo_start] at hbuilt
  rcases Link.ofRelation_eq_ok.1 hbuilt with ⟨columns, hcolumns, rfl⟩
  exact ⟨foreignLayout, hlive, hforeign, hlayout, hcolumns, rfl⟩

/-! ### When they can be made -/

/-- A relation compiles if the layout `own` knows it and, should it lead to a table, it has a
link. -/
theorem Scope.exists_perform_iff {own : Layout} {field : FieldId} {r : Relation} :
    (∃ o, (start catalog options t own).perform (.relation field r) = .ok o) ↔
      (∃ columns, own.columns? field = some columns) ∧
        (t.reaches catalog r = true →
          ∃ foreign layout l, t.HasLink catalog options field r foreign layout l) := by
  constructor
  · rintro ⟨o, ho⟩
    rcases bind_eq_ok.1 ho with ⟨found, hfound, -⟩
    rcases fragment?_eq_ok.1 hfound with ⟨hown, ⟨hnone, -⟩ | ⟨foreign, l, hresolves, -⟩⟩
    · refine ⟨hown, ?_⟩
      intro hreaches
      -- a relation that reaches a table leads to it
      have hsome : ((start catalog options t own).foreign? (r.foreignTable t.id)).isSome =
          t.reaches catalog r := isSome_foreign?_start r
      rw [table_start] at hnone
      rw [hnone, hreaches] at hsome
      cases hsome
    · refine ⟨hown, ?_⟩
      intro _
      rcases hresolves.hasLink with ⟨layout, hlink⟩
      exact ⟨foreign, layout, l, hlink⟩
  · rintro ⟨hown, hlinks⟩
    have hfragment : ∃ found,
        (start catalog options t own).fragment? field r = .ok found := by
      -- a relation that reaches no table is left out, which is no failure
      cases hreaches : t.reaches catalog r with
      | false =>
          have hnone : (start catalog options t own).foreign? (r.foreignTable t.id) = none := by
            rw [foreign?_start, hreaches]
            rfl
          exact ⟨none, fragment?_eq_ok.2 ⟨hown, .inl ⟨hnone, rfl⟩⟩⟩
      | true =>
          rcases hlinks hreaches with ⟨foreign, layout, l, hlink⟩
          exact ⟨_, fragment?_eq_ok.2 ⟨hown, .inr ⟨foreign, l, hlink.resolves, rfl⟩⟩⟩
    rcases hfragment with ⟨_ | fragment, hfound⟩
    · exact ⟨_, bind_eq_ok.2 ⟨none, hfound, rfl⟩⟩
    · exact ⟨_, bind_eq_ok.2 ⟨some fragment, hfound, rfl⟩⟩

/-- The field `f` compiles if its task is known and can be done. -/
theorem Scope.exists_check_iff {s : Scope} {f : Field} :
    (∃ e, s.check f = .ok e) ↔
      ∃ task, s.task? f = .ok task ∧ ∀ x ∈ task, ∃ o, s.perform x = .ok o := by
  constructor
  · rintro ⟨e, he⟩
    rcases bind_eq_ok.1 he with ⟨task, htask, hrest⟩
    refine ⟨task, htask, ?_⟩
    intro x hx
    obtain rfl : task = some x := hx
    rcases bind_eq_ok.1 hrest with ⟨o, ho, -⟩
    exact ⟨o, ho⟩
  · rintro ⟨_ | task, htask, hperform⟩
    · exact ⟨none, bind_eq_ok.2 ⟨none, htask, rfl⟩⟩
    · rcases hperform task rfl with ⟨o, ho⟩
      exact ⟨some (task, o), check_eq_ok.2 ⟨htask, ho⟩⟩

/-- The table `t` compiles if it has a layout and each of its fields compiles apart from the
others. -/
theorem exists_compile_iff :
    (∃ out, compile catalog options t base = .ok out) ↔
      ∃ layout, catalog.layout? t.id = some layout ∧
        ∀ f ∈ t.schema.fields, ∃ e, (Scope.start catalog options t layout).check f = .ok e := by
  constructor
  · rintro ⟨out, hout⟩
    rcases compile_eq_ok.1 hout with ⟨layout, es, hlayout, hes, -⟩
    refine ⟨layout, hlayout, ?_⟩
    intro f hf
    rcases ok_of_mapM hes hf with ⟨e, -, he⟩
    exact ⟨e, he⟩
  · rintro ⟨layout, hlayout, hchecks⟩
    rcases exists_mapM_of_forall hchecks with ⟨es, hes⟩
    exact ⟨_, compile_eq_ok.2 ⟨layout, es, hlayout, hes, rfl⟩⟩

/-! ### What they are made of -/

/-- Every compiled query `out` is made of fragments of its table. -/
theorem exists_madeOf (h : compile catalog options t base = .ok out) :
    ∃ fragments, out.MadeOf catalog options t base fragments := by
  rcases compile_eq_ok.1 h with ⟨layout, es, -, hes, rfl⟩
  have hyields : ∀ e ∈ es.reduceOption, (Scope.start catalog options t layout).Yields e :=
    Scope.yields_of_mapM hes
  have horder : es.reduceOption.eraseDups.map (·.1.field) = t.compileOrder :=
    Scope.fields_of_entries hes
  refine ⟨fragmentsOf es.reduceOption, ?_⟩
  constructor
  case query => exact Assembly.finish_eq _ base
  case fields => rw [Scope.fields_fragmentsOf hyields, horder]
  case adds =>
    intro fragment hfragment
    rcases Scope.cases_of_mem_fragmentsOf hyields hfragment with
      ⟨hkind, hfiles⟩ | ⟨r, foreign, link, hkind, hresolves, hlink⟩
    · rw [hfiles]
      exact .files hkind
    · -- what a relation was resolved to is a link, stored in the layout of its foreign table
      rcases hresolves.hasLink with ⟨foreignLayout, hhasLink⟩
      rw [hlink]
      exact .link hkind hhasLink
  case stale =>
    rw [← horder]
    exact Scope.stale_ofEntries hyields

namespace Table.Adds

/-- A fragment joins its query under its own `label`. -/
theorem qualifier?_eq {fragment : Fragment} (h : t.Adds catalog options fragment) :
    fragment.join.target.qualifier? = some fragment.label := by
  cases h with
  | files hkind => rfl
  | link hkind hlink => rw [Link.qualifier?_resolve, Link.label_resolve]

/-- The label of a fragment tells its field, whatever table it is of. -/
theorem field_eq_of_label_eq {t' : Table} {a b : Fragment} (ha : t.Adds catalog options a)
    (hb : t'.Adds catalog options b) (hlabel : a.label = b.label) : a.field = b.field := by
  -- files and links have different labels, so both fragments are of one sort
  cases ha with
  | files hkind =>
      cases hb with
      | files hkind' => exact Naming.filesAlias_inj hlabel
      | link hkind' hlink =>
          rw [Link.label_resolve] at hlabel
          exact absurd hlabel.symm (Naming.linksAlias_ne_filesAlias _ _ _)
  | link hkind hlink =>
      rw [Link.label_resolve] at hlabel
      cases hb with
      | files hkind' => exact absurd hlabel (Naming.linksAlias_ne_filesAlias _ _ _)
      | link hkind' hlink' =>
          rw [Link.label_resolve] at hlabel
          rw [Link.field_resolve, Link.field_resolve]
          exact Naming.linksAlias_inj hlabel

/-- Two fragments of `t` for the same field are the same. -/
theorem eq_of_field_eq {a b : Fragment} (ha : t.Adds catalog options a)
    (hb : t.Adds catalog options b) (hfield : a.field = b.field) : a = b := by
  cases ha with
  | @files field hkind =>
      cases hb with
      | @files field' hkind' =>
          obtain rfl : field = field' := hfield
          rfl
      | @link field' r foreign layout l hkind' hlink =>
          -- a field of files is no relation
          rw [Link.field_resolve, hlink.field_eq] at hfield
          obtain rfl : field = field' := hfield
          rw [hkind] at hkind'
          cases hkind'
  | @link field r foreign layout l hkind hlink =>
      rw [Link.field_resolve, hlink.field_eq] at hfield
      cases hb with
      | @files field' hkind' =>
          obtain rfl : field = field' := hfield
          rw [hkind] at hkind'
          cases hkind'
      | @link field' r' foreign' layout' l' hkind' hlink' =>
          rw [Link.field_resolve, hlink'.field_eq] at hfield
          subst hfield
          rw [hkind, Option.some.injEq] at hkind'
          cases hkind'
          rw [hlink.unique hlink']

end Table.Adds

namespace Compiled.MadeOf

variable {fragments : List Fragment}

/-- The queries that are added are those of the `fragments`. -/
theorem added_eq (h : out.MadeOf catalog options t base fragments) :
    out.added base = fragments.flatMap (·.queries) := by
  rw [Compiled.added, h.query, List.drop_left, Query.joinSubqueries_eq_flatMap, List.flatMap_map]
  rfl

theorem subqueries_eq_append (h : out.MadeOf catalog options t base fragments) :
    out.query.subqueries = base.subqueries ++ fragments.flatMap (·.queries) := by
  rcases base with ⟨items, source, joins, condition, groups⟩
  rw [h.query, Query.subqueries, Query.subqueries, Query.joinSubqueries_eq_flatMap,
    Query.joinSubqueries_eq_flatMap, List.flatMap_append, List.append_assoc, List.flatMap_map]
  rfl

/-- The expressions of a compiled query, at any depth, are those of `base` and of the
`fragments`. -/
theorem mem_exprs_iff (h : out.MadeOf catalog options t base fragments) {e : Expr} :
    (∃ q ∈ out.query :: out.query.subqueries, e ∈ q.exprs) ↔
      (∃ q ∈ base :: base.subqueries, e ∈ q.exprs) ∨ ∃ f ∈ fragments, e ∈ f.exprs := by
  -- the base keeps its own expressions, and the fragments add items and conditions of joins
  have hself : e ∈ out.query.exprs ↔ e ∈ base.exprs ∨
      ∃ f ∈ fragments, (∃ item ∈ f.items, item.expr = e) ∨ e = f.join.matching := by
    simp only [Query.mem_exprs, h.query, List.mem_append, List.mem_flatMap, List.mem_map]
    grind
  -- the queries that are read from are those of the base and those that the fragments join
  have hrest : (∃ q ∈ out.query.subqueries, e ∈ q.exprs) ↔
      (∃ q ∈ base.subqueries, e ∈ q.exprs) ∨ ∃ f ∈ fragments, ∃ q ∈ f.queries, e ∈ q.exprs := by
    simp only [h.subqueries_eq_append, List.mem_append, List.mem_flatMap]
    grind
  rw [List.exists_mem_cons_iff, List.exists_mem_cons_iff, hself, hrest]
  simp only [Fragment.mem_exprs]
  grind

/-- The fragment of a relation `f` that leads to a table is among the `fragments`. -/
theorem exists_link (h : out.MadeOf catalog options t base fragments) {f : Field}
    (hf : f ∈ t.schema.fields) {r : Relation} (hkind : f.kind = .relation r)
    (hlive : t.reaches catalog r = true) :
    ∃ foreign layout l, t.HasLink catalog options f.id r foreign layout l ∧
      l.resolve r ∈ fragments := by
  have hkind' : t.kind? f.id = some (.relation r) := by
    rw [Table.kind?_of_mem hf, hkind]
  have hmem : f.id ∈ fragments.map (·.field) := by
    rw [h.fields, List.mem_filter]
    exact ⟨Table.mem_compileOrder hf hkind, by simp only [Table.isLive, hkind', hlive]⟩
  rcases List.mem_map.1 hmem with ⟨fragment, hfragment, hid⟩
  -- the field is a relation, so its fragment is that of its link
  cases h.adds fragment hfragment with
  | @files field hfiles =>
      obtain rfl : field = f.id := hid
      rw [hkind'] at hfiles
      cases hfiles
  | @link field r' foreign layout l hrelation hlink =>
      have hfield : field = f.id := by
        rw [← hid, Link.field_resolve, hlink.field_eq]
      subst hfield
      rw [hkind', Option.some.injEq] at hrelation
      cases hrelation
      exact ⟨foreign, layout, l, hlink, hfragment⟩

end Compiled.MadeOf

end Parts

end LinkedRecords
