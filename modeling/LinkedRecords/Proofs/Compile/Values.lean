import LinkedRecords.Proofs.Compile.LinkValues
import LinkedRecords.Proofs.Compile.Rows
import LinkedRecords.Proofs.Registry
import Mathlib.Data.List.Sort

/-! # The values of relations

Next to each record, a compiled query shows for every live relation what the record is linked to and
what is computed over its links, each taken from the rows of the link table that name the record.

* `Table.LinkCells` — the cells that a relation and the fields attached to it add to a record.
* `Link.IsClear.linkCells` — the fragment of a link has these cells, next to a row of its links.
* `Run.joined`, `Run.row_linksAlias` — every live relation has a fragment, and the row it is joined
  to.
* `compile_values` — the rows of a compiled query, with the cells of every live relation.
* `compile_values_posts` — a post with three tags, one of which is gone.
-/

namespace LinkedRecords

open Sql

/-! ## What a relation shows -/

/-- Whether the rows of the table `b` are told apart by their ids. -/
structure Identified (b : Bag) (idColumn : String) : Prop where
  /-- No two records have one id. -/
  unique : b.UniqueOn idColumn
  /-- Every record has an id in `idColumn`. -/
  present : ∀ record ∈ b.rows, record.read idColumn ≠ .null

/-- The `cells` that the relation `r` and the fields attached to it add to a `record`: the linked
ids, the `shown` values, then each count, sum and mean over the links. -/
def Table.LinkCells (t : Table) (F : Functions) (db : Database) (options : Options)
    (field : FieldId) (r : Relation) (foreign : Table) (layout : Layout) (record cells : Row) :
    Prop :=
  let links := r.links db t.id field (record.read options.idColumn)
  let attached := t.attachedTo field
  let value := fun source : FieldId => r.foreignValue F (db foreign.id.text) options.idColumn
    ⟨source, (layout.columns? source).getD []⟩
  ∃ shown : Row,
    shown.map (·.1) = (field.text ++ options.expandSuffix) ::
      attached.lookups.map (·.1.text ++ options.expandSuffix) ∧
    cells = (field.text, r.linkedIds F links) :: shown ++
      attached.counts.map (fun count => (count.text, countOf options links)) ++
      attached.sums.map (fun sum => (sum.1.text, total F.sum links (value sum.2))) ++
      attached.averages.map fun average => (average.1.text, total F.average links (value average.2))

/-! ## Reading the joined rows -/

theorem row_recordEnv {F : Functions} {db : Database} {options : Options} {ks : List KeyJoin}
    (hlabels : (options.baseAlias :: ks.map (·.label)).Nodup) {k : KeyJoin} (hk : k ∈ ks)
    (record : Row) :
    (recordEnv F db options ks record).row k.label = k.row F db (record.read options.idColumn) := by
  rw [List.nodup_cons] at hlabels
  rcases hlabels with ⟨hbase, hlabels⟩
  have hne : some options.baseAlias ≠ some k.label := by
    intro heq
    rw [Option.some.inj heq] at hbase
    exact hbase (List.mem_map_of_mem hk)
  rw [recordEnv, Env.row_cons, if_neg hne]
  -- behind the record, the labels alone tell the joined rows apart
  clear hbase hne
  induction ks with
  | nil => cases hk
  | cons first ks ih =>
      rw [List.map_cons, List.nodup_cons] at hlabels
      rw [List.map_cons, Env.row_cons]
      rcases List.mem_cons.1 hk with rfl | hk
      · rw [if_pos rfl]
      · have hlabel : some first.label ≠ some k.label := by
          intro heq
          rw [Option.some.inj heq] at hlabels
          exact hlabels.1 (List.mem_map_of_mem hk)
        rw [if_neg hlabel]
        exact ih hk hlabels.2

theorem KeyJoin.join_inj {k k' : KeyJoin} {base id : String}
    (h : k.join base id = k'.join base id) : k = k' := by
  rcases k with ⟨label, query, column⟩
  rcases k' with ⟨label', query', column'⟩
  simp_all [KeyJoin.join, TableRef.derivedAs, Expr.equals, Expr.of]

namespace Link

variable {F : Functions} {db : Database} {l : Link} {r : Relation} {id : Value}

/-- A count over the links of `id` is their number; without links it is missing, or zero if the
options of `l` say so. -/
theorem IsClear.value_countItem (h : l.IsClear db r id) {field : FieldId}
    (hfield : field ∈ l.attached.counts) {env : Env}
    (henv : env.row l.linksAlias = ((l.query r).run F db).follow r.currentColumn id) :
    (AttachedFields.countItem l.options l.linksAlias field).expr.value F [env] =
      countOf l.options (l.linksOf db r id) := by
  have hvalue : (Expr.of l.linksAlias field.text).value F [env] =
      if (l.linksOf db r id).isEmpty then .null else .number (l.linksOf db r id).length := by
    rw [Expr.value_of, henv, h.read_count hfield]
  have hcoalesce : (Expr.coalesce [.of l.linksAlias field.text, .int 0]).value F [env] =
      (present [(Expr.of l.linksAlias field.text).value F [env], .number 0]).head?.getD .null := rfl
  unfold AttachedFields.countItem countOf
  cases hoption : l.options.coalesceCounts with
  | false =>
      simp only [SelectItem.named, Bool.false_eq_true, if_false, hvalue]
      simp
  | true =>
      simp only [SelectItem.named, if_true, hcoalesce, hvalue]
      -- a count that is missing is made zero; any other is kept
      cases l.linksOf db r id with
      | nil => rfl
      | cons link links => rfl

theorem IsClear.cell_countItem (h : l.IsClear db r id) {field : FieldId}
    (hfield : field ∈ l.attached.counts) {env : Env}
    (henv : env.row l.linksAlias = ((l.query r).run F db).follow r.currentColumn id) :
    ((AttachedFields.countItem l.options l.linksAlias field).outputName?.getD "",
      (AttachedFields.countItem l.options l.linksAlias field).expr.value F [env]) =
        (field.text, countOf l.options (l.linksOf db r id)) :=
  Prod.ext rfl (h.value_countItem hfield henv)

theorem cell_valueItem {env : Env}
    (henv : env.row l.linksAlias = ((l.query r).run F db).follow r.currentColumn id)
    {field : FieldId} {v : Value}
    (hread : (((l.query r).run F db).follow r.currentColumn id).read field.text = v) :
    ((AttachedFields.valueItem l.linksAlias field).outputName?.getD "",
      (AttachedFields.valueItem l.linksAlias field).expr.value F [env]) = (field.text, v) := by
  rw [← hread, ← henv]
  rfl

/-- The `source` of a sum or mean is among the columns of `l`, with those that its layout has. -/
theorem source_mem_columns {options : Options} {table : TableId} {field : FieldId}
    {foreign : Table} {layout : Layout} {attached : AttachedFields}
    (h : Link.ofRelation options table field r foreign layout attached = .ok l) {source : FieldId}
    (hsource : source ∈ attached.sources) :
    (⟨source, (layout.columns? source).getD []⟩ : DisplayColumn) ∈ l.columns := by
  rcases ofRelation_eq_ok.1 h with ⟨columns, hcolumns, rfl⟩
  have hmem : source ∈ columns.map (·.field) := by
    rw [DisplayColumn.field_of_collect hcolumns]
    exact List.mem_eraseDups.2 (List.mem_append_right _ hsource)
  rcases List.mem_map.1 hmem with ⟨c, hc, rfl⟩
  rw [DisplayColumn.columns_of_collect hcolumns hc, Option.getD_some]
  exact hc

/-- The cells of the relation `r`, where `env` has the row that its links are joined to. -/
theorem IsClear.linkCells {t : Table} {foreign : Table} {layout : Layout} {record : Row}
    (h : l.IsClear db r (record.read l.options.idColumn))
    (hbuilt : Link.ofRelation l.options t.id l.field r foreign layout (t.attachedTo l.field) =
      .ok l) {env : Env} (henv : env.row l.linksAlias =
      ((l.query r).run F db).follow r.currentColumn (record.read l.options.idColumn)) :
    t.LinkCells F db l.options l.field r foreign layout record ((l.resolve r).cells F env) := by
  rcases ofRelation_eq_ok.1 hbuilt with ⟨columns, -, hlink⟩
  have htable : l.table = t.id := by rw [hlink]
  have hforeign : l.foreign = foreign.id := by rw [hlink]
  have hattached : l.attached = t.attachedTo l.field := by rw [hlink]
  have hlinks : r.links db t.id l.field (record.read l.options.idColumn) =
      l.linksOf db r (record.read l.options.idColumn) := by rw [← htable, linksOf]
  have hfield : (Expr.of l.linksAlias l.field.text).value F [env] =
      r.linkedIds F (l.linksOf db r (record.read l.options.idColumn)) := by
    rw [Expr.value_of, henv, h.read_field]
  have hsources : ∀ source ∈ l.attached.sources,
      (⟨source, (layout.columns? source).getD []⟩ : DisplayColumn) ∈ l.columns := by
    intro source hsource
    rw [hattached] at hsource
    exact source_mem_columns hbuilt hsource
  have hcounts := fun count (hcount : count ∈ l.attached.counts) => h.cell_countItem hcount henv
  have hsums := fun (sum : FieldId × FieldId) (hsum : sum ∈ l.attached.sums) =>
    cell_valueItem henv (h.read_sum (hsources sum.2 (List.mem_append_left _
      (List.mem_append_right _ (List.mem_map_of_mem hsum)))) hsum)
  have haverages := fun (average : FieldId × FieldId) (haverage : average ∈ l.attached.averages) =>
    cell_valueItem henv (h.read_average (hsources average.2
      (List.mem_append_right _ (List.mem_map_of_mem haverage))) haverage)
  simp only [Table.LinkCells, hlinks, ← hattached, ← hforeign]
  -- the shown values are whatever the items say, the other cells are those read above
  refine ⟨(l.field.text ++ l.options.expandSuffix,
      (expandItem l.field l.display l.linksAlias
        (Naming.expandColumn l.field l.options.expandSuffix)).expr.value F [env]) ::
    l.attached.lookups.map fun lookup => (lookup.1.text ++ l.options.expandSuffix,
      (expandItem lookup.1 lookup.2 l.linksAlias
        (Naming.expandColumn lookup.1 l.options.expandSuffix)).expr.value F [env]), ?_, ?_⟩
  · simp
  · rw [Fragment.cells, SelectItem.flatMap_cells fun item hitem =>
      (isPlain_resolve l r item hitem).1, items_resolve, AttachedFields.projections]
    rw [← List.map_congr_left hcounts, ← List.map_congr_left hsums,
      ← List.map_congr_left haverages, ← hfield]
    simp only [List.map_append, List.map_cons, List.map_map, List.append_assoc,
      List.cons_append, List.nil_append]
    rfl

end Link

/-! ## Relations of a compiled query -/

section Run

variable {F : Functions} {db : Database} {catalog : Catalog} {options : Options} {t : Table}
  {out : Compiled} {entries : List Entry} {k : Fragment → KeyJoin}

/-- A live relation `r` has been compiled to a `fragment`. -/
theorem Run.joined (h : Run F db catalog options t out entries k) {layout : Layout}
    (hyields : ∀ e ∈ entries, (Scope.start catalog options t layout).Yields e) {f : Field}
    (hf : f ∈ t.schema.fields) {r : Relation} (hkind : f.kind = .relation r)
    (hlive : t.reaches catalog r = true) :
    ∃ fragment ∈ fragmentsOf entries,
      (Scope.start catalog options t layout).Yields (.relation f.id r, .joined fragment) := by
  have horder : f.id ∈ t.compileOrder := Table.mem_compileOrder hf hkind
  rw [← h.order] at horder
  -- the relation is compiled, so an entry of the walk is about its field
  rcases List.mem_map.1 horder with ⟨⟨task, o⟩, he, hid⟩
  have hyield := hyields _ (List.mem_eraseDups.1 he)
  have hkind' : t.kind? f.id = some (.relation r) := by
    rw [Table.kind?_of_mem hf, hkind]
  have htask : t.kind? task.field = some task.kind := hyield.kind?
  rw [show task.field = f.id from hid, hkind', Option.some.injEq] at htask
  cases task with
  | files field => cases htask
  | relation field r' =>
      cases htask
      obtain rfl : field = f.id := hid
      cases o with
      | stale fields =>
          -- a stale relation leads nowhere, but this one is live
          have hsome : ((Scope.start catalog options t layout).foreign?
              (r.foreignTable t.id)).isSome = t.reaches catalog r := Scope.isSome_foreign?_start r
          have hnone := (Scope.perform_relation_stale hyield.perform).1
          rw [Scope.table_start] at hnone
          rw [hnone, hlive] at hsome
          cases hsome
      | joined fragment =>
          exact ⟨fragment, List.mem_filterMap.2 ⟨_, he, rfl⟩, hyield⟩

/-- The queries of a joined `link` are clear if `out` has distinct names, and ids are unique. -/
theorem Run.isClear (h : Run F db catalog options t out entries k)
    (hqualifiers : out.query.QualifiersDistinct) (hnames : out.query.NamesDistinct)
    (hparent : t.OneParent catalog db options.idColumn) {field : FieldId} {link : Link}
    {r : Relation} (hkind : t.kind? field = some (.relation r))
    (hlive : t.reaches catalog r = true) (htable : link.linkTable r = r.linkTable t.id field)
    (hmem : link.resolve r ∈ fragmentsOf entries)
    (hids : (db link.foreign.text).UniqueOn link.options.idColumn) {record : Row}
    (hrecord : record ∈ (db t.id.text).rows) (hknown : record.read options.idColumn ≠ .null) :
    link.IsClear db r (record.read options.idColumn) := by
  have hjoin : (link.resolve r).join ∈ out.query.joins := by
    rw [h.query]
    exact List.mem_map_of_mem hmem
  have htarget : (link.resolve r).join.target = .derivedAs (link.query r) link.linksAlias := by
    rw [link.join_resolve]
    rfl
  have hsubqueries := Query.subqueries_of_join hjoin htarget
  have hrecords : link.records ∈ (link.query r).subqueries := List.mem_cons_self
  constructor
  case known => exact hknown
  case ids => exact hids
  case qualifiers =>
    -- the link table and the foreign records are the two sources of the links
    have hnodup := hqualifiers _ (List.mem_cons_of_mem _ (hsubqueries _ List.mem_cons_self))
    have hlist : (link.query r).qualifiers =
        [some (link.linkTable r), some link.foreignAlias] := rfl
    rw [hlist] at hnodup
    intro heq
    rw [heq] at hnodup
    simp at hnodup
  case recordNames => exact hnames _ (hsubqueries _ (List.mem_cons_of_mem _ hrecords))
  case names => exact hnames _ (hsubqueries _ List.mem_cons_self)
  case parent =>
    rintro hierarchy rfl
    rcases Option.map_eq_some_iff.1 hkind with ⟨f, hf, hrel⟩
    rcases t.field?_eq_some_iff.1 hf with ⟨hmem', rfl⟩
    rw [htable]
    exact hparent record hrecord hknown f hmem' hierarchy hrel hlive

/-- The row that `link` is joined to, among all rows joined to `record`. -/
theorem Run.row_linksAlias (h : Run F db catalog options t out entries k) {link : Link}
    {r : Relation} (hoptions : link.options = options) (hmem : link.resolve r ∈ fragmentsOf entries)
    (record : Row) :
    (recordEnv F db options ((fragmentsOf entries).map k) record).row link.linksAlias =
      ((link.query r).run F db).follow r.currentColumn (record.read options.idColumn) := by
  -- the fragment may have been given by another link, but the join tells them apart
  have hjoin : (k (link.resolve r)).join options.baseAlias options.idColumn =
      (link.keyJoin r).join options.baseAlias options.idColumn := by
    rw [← (h.follows _ hmem).join, link.join_resolve, hoptions]
  have hrow : (recordEnv F db options ((fragmentsOf entries).map k) record).row
      (k (link.resolve r)).label =
        (k (link.resolve r)).row F db (record.read options.idColumn) :=
    row_recordEnv h.labels (List.mem_map_of_mem hmem) record
  rw [KeyJoin.join_inj hjoin] at hrow
  exact hrow

end Run

/-- Next to every record of `t`, the query `out` shows for each live relation the ids that the
record is linked to, and each count, sum and mean over its links. -/
theorem compile_values {catalog : Catalog} {options : Options} {t : Table} {out : Compiled}
    (h : compile catalog options t (options.baseQuery t) = .ok out)
    (hqualifiers : out.query.QualifiersDistinct) (hnames : out.query.NamesDistinct) (F : Functions)
    {db : Database} (hparent : t.OneParent catalog db options.idColumn)
    (hids : ∀ table : Table, table = t ∨ (∃ id, catalog.table? id = some table) →
      Identified (db table.id.text) options.idColumn) :
    ∃ (fragments : List Fragment) (cells : Row → Fragment → Row),
      out.query.items = (options.baseQuery t).items ++ fragments.flatMap (·.items) ∧
      (out.query.run F db).rows = (db t.id.text).rows.map (fun record =>
        record ++ fragments.flatMap (cells record)) ∧
      (∀ record, ∀ fragment ∈ fragments,
        (cells record fragment).map (some ·.1) = fragment.items.map (·.outputName?)) ∧
      ∀ f ∈ t.schema.fields, ∀ r, f.kind = .relation r → t.reaches catalog r = true →
        ∃ foreign layout, t.foreign? catalog r = some foreign ∧
          catalog.layout? (r.foreignTable t.id) = some layout ∧
          ∃ fragment ∈ fragments, fragment.field = f.id ∧ ∀ record ∈ (db t.id.text).rows,
            t.LinkCells F db options f.id r foreign layout record (cells record fragment) := by
  rcases Run.of_compile h (hqualifiers _ List.mem_cons_self) F hparent with ⟨entries, k, hrun⟩
  rcases hrun.yields with ⟨layout, -, hyields⟩
  refine ⟨fragmentsOf entries, fun record fragment =>
    fragment.cells F (recordEnv F db options ((fragmentsOf entries).map k) record), ?_,
    hrun.rows.2, ?_, ?_⟩
  · rw [hrun.query]
  · intro record fragment hfragment
    have hplain := hrun.plain fragment hfragment
    rw [hplain.names_eq, ← hplain.map_cells F _, List.map_map]
    rfl
  · intro f hf r hkind hlive
    -- the relation has a fragment, and this fragment is that of its link
    rcases hrun.joined hyields hf hkind hlive with ⟨fragment, hmem, hyield⟩
    rcases hyield.link with ⟨foreign, link, hresolves, rfl, hoptions, htable⟩
    have hforeign := (Scope.foreign?_start_eq_some.1 hresolves.leads).2
    rcases hresolves.built with ⟨foreignLayout, hlayout, hbuilt⟩
    refine ⟨foreign, foreignLayout, hforeign, hlayout, link.resolve r, hmem,
      (hyield.field_label rfl).1, ?_⟩
    intro record hrecord
    rw [Scope.options_start, Scope.table_start, Scope.attachedTo_start] at hbuilt
    obtain ⟨columns, -, rfl⟩ := Link.ofRelation_eq_ok.1 hbuilt
    -- the foreign table is the table itself or one of the catalog
    have hrecords : Identified (db foreign.id.text) options.idColumn := by
      rw [Table.foreign?] at hforeign
      split at hforeign
      · exact hids foreign (.inl (Option.some.inj hforeign).symm)
      · exact hids foreign (.inr ⟨_, hforeign⟩)
    have hclear := hrun.isClear hqualifiers hnames hparent hyield.kind? hlive htable
      hmem hrecords.unique hrecord ((hids t (.inl rfl)).present record hrecord)
    exact hclear.linkCells hbuilt (hrun.row_linksAlias hoptions hmem record)

/-- All tables of the blog have records with distinct ids in `Blog.db`. -/
theorem Blog.identified (table : Table)
    (h : table = posts ∨ ∃ id, registry.catalog.table? id = some table) :
    Identified (db table.id.text) "id" := by
  have hposts : Identified (db "posts") "id" := ⟨by unfold Bag.UniqueOn; decide, by decide⟩
  have htags : Identified (db "tags") "id" := ⟨by unfold Bag.UniqueOn; decide, by decide⟩
  have hdrafts : Identified (db "drafts") "id" := ⟨by unfold Bag.UniqueOn; decide, by decide⟩
  rcases h with rfl | ⟨id, h⟩
  · exact hposts
  · simp only [registry, Registry.table?_insert] at h
    split at h
    · rw [← Option.some.inj h]
      exact hdrafts
    · split at h
      · rw [← Option.some.inj h]
        exact hposts
      · split at h
        · rw [← Option.some.inj h]
          exact htags
        · cases h

namespace Blog

/-- The relation of posts to tags, as it is kept in the field `tagged`. -/
def tagged : Relation := .reference (.owner ⟨"tags"⟩)

/-- The tags of the first post, `p1`. -/
def firstTags : List Row := tagged.links db posts.id ⟨"tagged"⟩ (.text "p1")

theorem groupArray_eq (values : List Value) :
    functions.groupArray values =
      .text ("[" ++ ",".intercalate ((values.map render).insertionSort (· ≤ ·)) ++ "]") := by
  have hsort : functions.groupArray values =
      .text ("[" ++ ",".intercalate (Multiset.sort (values.map render : List String) (· ≤ ·)) ++
        "]") := rfl
  rw [hsort, Multiset.coe_sort, List.mergeSort_eq_insertionSort]

theorem linkedIds_firstTags :
    tagged.linkedIds functions firstTags = .text "[\"a\",\"b\",\"gone\"]" := by
  have hids : firstTags.map (·.read "to_id") = [.text "a", .text "b", .text "gone"] := by
    decide +kernel
  have hlinked : tagged.linkedIds functions firstTags =
      functions.groupArray (firstTags.map (·.read "to_id")) := rfl
  rw [hlinked, hids, groupArray_eq]
  decide +kernel

/-- The tag that is gone has no weight, so `firstTags` weigh two and three. -/
theorem sum_firstTags :
    total functions.sum firstTags (tagged.foreignValue functions (db "tags") "id"
      ⟨⟨"weight"⟩, ((Layout.ofTable tags).columns? ⟨"weight"⟩).getD []⟩) = .number 5 := by
  decide +kernel

end Blog

/-- The post `p1` has three tags, one of which is gone; the others weigh two and three. -/
theorem compile_values_posts : ∃ out,
    compile Blog.registry.catalog {} Blog.posts (Options.baseQuery {} Blog.posts) = .ok out ∧
      out.query.QualifiersDistinct ∧ out.query.NamesDistinct ∧
      ∃ (fragments : List Fragment) (cells : Row → Fragment → Row),
        (out.query.run Blog.functions Blog.db).rows = (Blog.db "posts").rows.map (fun record =>
          record ++ fragments.flatMap (cells record)) ∧
        ∃ fragment ∈ fragments, fragment.field = ⟨"tagged"⟩ ∧ ∃ shown : Row,
          cells [("id", .text "p1")] fragment =
            ("tagged", .text "[\"a\",\"b\",\"gone\"]") :: shown ++
              [("number", .number 3)] ++ [("weights", .number 5)] := by
  have hdistinct : (compile Blog.registry.catalog {} Blog.posts
      (Options.baseQuery {} Blog.posts)).map (fun out =>
        decide (out.query.QualifiersDistinct ∧ out.query.NamesDistinct)) = .ok true := by
    decide +kernel
  rcases map_eq_ok.1 hdistinct with ⟨out, h, hout⟩
  rcases of_decide_eq_true hout with ⟨hqualifiers, hnames⟩
  rcases compile_values h hqualifiers hnames Blog.functions Blog.oneParent_posts
    Blog.identified with
    ⟨fragments, cells, -, hrows, -, hvalues⟩
  have htagged : (⟨⟨"tagged"⟩, "Tags", false, .relation Blog.tagged⟩ : Field) ∈
      Blog.posts.schema.fields := by decide +kernel
  rcases hvalues _ htagged _ rfl (by decide +kernel) with
    ⟨foreign, layout, hforeign, hlayout, fragment, hfragment, hfield, hcells⟩
  obtain rfl : Blog.tags = foreign := Option.some.inj hforeign
  obtain rfl : Layout.ofTable Blog.tags = layout := Option.some.inj hlayout
  rcases hcells [("id", .text "p1")] (by decide) with ⟨shown, -, hp1⟩
  refine ⟨out, h, hqualifiers, hnames, fragments, cells, hrows, fragment, hfragment, hfield,
    shown, ?_⟩
  rw [← Blog.linkedIds_firstTags, ← Blog.sum_firstTags]
  exact hp1.trans (List.append_nil _)

end LinkedRecords
