import LinkedRecords.Proofs.Compile.Parts
import LinkedRecords.Proofs.Sql.Scoping

/-! # Every column that is read is there

A compiled query names the source of every column that it reads. The readers are the record, which
shows what is linked, and the links, which gather the values of the foreign records; what they read
is put together from other lists than what the links and the foreign records offer. Here the two are
compared, and every reference is found to lead to a source of its query and to a column of it.

* `Link.Covers` — a link reads the column of whatever it shows or computes with.
* `Link.exists_of_mem_items`, `Link.cases_of_mem_references` — what the record reads from the links,
  and the links from the foreign records.
* `Table.Adds.finds`, `Table.Adds.reads` — the references of a fragment.
* `Compiled.ReadsLink` — how a relation is read through the two queries that are made for it.
* `compile_wellScoped` — every reference of a compiled query, at any depth.
-/

namespace LinkedRecords

open Sql

/-! ## What the items read -/

theorem DisplayColumn.references_projection (c : DisplayColumn) :
    c.projection.expr.references = [] := by
  rcases c with ⟨field, columns⟩
  rcases columns with _ | ⟨column, _ | ⟨column', columns⟩⟩
  · rfl
  · simp only [projection]
    split
    · rfl
    · rfl
  · simp [projection, SelectItem.named]

theorem DisplayColumn.references_gathered (c : DisplayColumn) (foreignAlias : String) :
    (c.gathered foreignAlias).expr.references = [⟨foreignAlias, some c.field.text⟩] := by
  simp only [gathered, SelectItem.named, Expr.references_jsonGroupArray]
  split
  · simp
  · simp

theorem references_expandItem (owner : FieldId) (display : List FieldId)
    (linksAlias name : String) :
    (expandItem owner display linksAlias name).expr.references =
      display.map fun id => ⟨linksAlias, some id.text⟩ := by
  simp only [expandItem, SelectItem.named, Expr.references_jsonObject, List.flatMap_cons,
    List.flatMap_nil, List.append_nil, List.flatMap_map, Expr.references_json, Expr.references_of]
  -- each shown value is one column of the links, read again
  exact List.flatMap_pure_eq_map ..

namespace AttachedFields

variable {a : AttachedFields} {item : SelectItem} {ref : ColumnRef}

/-- What the attached fields `a` add to the record is read from the links. -/
theorem exists_of_mem_projections {options : Options} {linksAlias : String}
    (hitem : item ∈ a.projections options linksAlias) (href : ref ∈ item.expr.references) :
    ∃ id ∈ a.lookups.flatMap (·.2) ++ a.numbers, ref = ⟨linksAlias, some id.text⟩ := by
  rw [projections, List.mem_append, List.mem_append, List.map_append] at hitem
  -- a lookup, a count, or a sum or mean
  rcases hitem with (hitem | hitem) | hitem
  · rcases List.mem_map.1 hitem with ⟨⟨field, display⟩, hlookup, rfl⟩
    rw [references_expandItem] at href
    rcases List.mem_map.1 href with ⟨id, hid, rfl⟩
    have hshown : id ∈ a.lookups.flatMap (·.2) := List.mem_flatMap.2 ⟨_, hlookup, hid⟩
    exact ⟨id, List.mem_append_left _ hshown, rfl⟩
  · rcases List.mem_map.1 hitem with ⟨id, hid, rfl⟩
    have hread : ref = ⟨linksAlias, some id.text⟩ := by
      simp only [countItem, SelectItem.named] at href
      split at href
      · simpa using href
      · simpa using href
    refine ⟨id, ?_, hread⟩
    simp [numbers, hid]
  · rw [← List.map_append] at hitem
    rcases List.mem_map.1 hitem with ⟨id, hid, rfl⟩
    have hread : ref = ⟨linksAlias, some id.text⟩ := by
      simpa [valueItem, SelectItem.named] using href
    refine ⟨id, ?_, hread⟩
    rw [numbers, List.append_assoc]
    exact List.mem_append_right _ (List.mem_append_right _ hid)

/-- What `a` computes over the links is read from the foreign records. -/
theorem exists_of_mem_aggregates {foreignAlias : String}
    (hitem : item ∈ a.aggregates foreignAlias) (href : ref ∈ item.expr.references) :
    ∃ id ∈ a.sources, ref = ⟨foreignAlias, some id.text⟩ := by
  rw [aggregates, List.mem_append, List.mem_append] at hitem
  rcases hitem with (hitem | hitem) | hitem
  · -- a count reads no column
    rcases List.mem_map.1 hitem with ⟨id, -, rfl⟩
    simp [SelectItem.named] at href
  · rcases List.mem_map.1 hitem with ⟨⟨field, source⟩, hsum, rfl⟩
    have hread : ref = ⟨foreignAlias, some source.text⟩ := by
      simpa [SelectItem.named] using href
    have hsource : source ∈ a.sums.map (·.2) := List.mem_map_of_mem hsum
    refine ⟨source, ?_, hread⟩
    simp only [sources, List.mem_append, hsource, or_true, true_or]
  · rcases List.mem_map.1 hitem with ⟨⟨field, source⟩, haverage, rfl⟩
    have hread : ref = ⟨foreignAlias, some source.text⟩ := by
      simpa [SelectItem.named] using href
    have hsource : source ∈ a.averages.map (·.2) := List.mem_map_of_mem haverage
    refine ⟨source, ?_, hread⟩
    simp only [sources, List.mem_append, hsource, or_true]

end AttachedFields

/-! ## What a fragment reads -/

theorem references_fileRows (options : FileOptions) (field : FieldId) :
    (fileRows options field).references = [] := rfl

theorem exists_of_mem_fileFragment {options : Options} {field : FieldId} {item : SelectItem}
    (hitem : item ∈ (fileFragment options field).items) {ref : ColumnRef}
    (href : ref ∈ item.expr.references) :
    ref = ⟨Naming.filesAlias field options.files.table, some field.text⟩ := by
  have heq : item = .named (.coalesce [.of (Naming.filesAlias field options.files.table) field.text,
      .jsonArray []]) field.text := List.mem_singleton.1 hitem
  rw [heq] at href
  simpa [SelectItem.named] using href

/-- The columns that the links of the relation `r` are kept in. -/
def Relation.ownColumns (r : Relation) : List String :=
  [r.currentColumn, r.foreignColumn, Naming.depthColumn]

namespace Link

variable {l : Link} {r : Relation}

/-- Whether all that the link `l` shows or computes with is among the columns that it reads. -/
def Covers (l : Link) : Prop :=
  ∀ id ∈ l.display ++ l.attached.sources, id ∈ l.columns.map (·.field)

theorem references_records (l : Link) : l.records.references = [] := by
  rw [Query.references, List.flatMap_eq_nil_iff]
  refine l.forall_exprs_records ?column ?projection
  case column => exact fun _ => rfl
  case projection => exact fun c _ => c.references_projection

/-- The record reads a field `id` from the links that they have as a column. -/
theorem exists_of_mem_items (hcovers : l.Covers) {item : SelectItem}
    (hitem : item ∈ (l.resolve r).items) {ref : ColumnRef} (href : ref ∈ item.expr.references) :
    ∃ id ∈ l.shownFields, ref = ⟨l.linksAlias, some id.text⟩ := by
  have hread : ∀ id ∈ l.display ++ l.attached.sources, id ∈ l.shownFields := by
    intro id hid
    exact List.mem_cons_of_mem _ (List.mem_append_left _ (hcovers id hid))
  rw [items_resolve, List.mem_append, List.mem_pair] at hitem
  -- the relation itself, what it shows, or what is attached to it
  rcases hitem with (rfl | rfl) | hitem
  · refine ⟨l.field, List.mem_cons_self, ?_⟩
    simpa [SelectItem.named] using href
  · rw [references_expandItem] at href
    rcases List.mem_map.1 href with ⟨id, hid, rfl⟩
    exact ⟨id, hread id (List.mem_append_left _ hid), rfl⟩
  · rcases AttachedFields.exists_of_mem_projections hitem href with ⟨id, hid, rfl⟩
    refine ⟨id, ?_, rfl⟩
    rcases List.mem_append.1 hid with hid | hid
    · have hsource : id ∈ l.attached.sources := by
        simp only [AttachedFields.sources, List.mem_append, hid, true_or]
      exact hread id (List.mem_append_right _ hsource)
    · exact List.mem_cons_of_mem _ (List.mem_append_right _ hid)

theorem mem_outputNames_query {id : FieldId} (h : id ∈ l.shownFields) :
    some id.text ∈ (l.query r).outputNames := by
  rw [outputNames_query]
  exact List.mem_cons_of_mem _ (List.mem_map_of_mem h)

theorem mem_outputNames_records {id : FieldId} (h : id ∈ l.columns.map (·.field)) :
    some id.text ∈ l.records.outputNames := by
  rw [outputNames_records]
  exact List.mem_cons_of_mem _ (List.mem_map_of_mem h)

/-- The links read what they are kept in, and columns of `l.records` that these have. -/
theorem cases_of_mem_references (hcovers : l.Covers) : ∀ ref ∈ (l.query r).references,
    (∃ name ∈ r.ownColumns, ref = ⟨l.linkTable r, some name⟩) ∨
      ∃ name, some name ∈ l.records.outputNames ∧ ref = ⟨l.foreignAlias, some name⟩ := by
  have hcurrent : r.currentColumn ∈ r.ownColumns := by simp [Relation.ownColumns]
  have hforeign : r.foreignColumn ∈ r.ownColumns := by simp [Relation.ownColumns]
  have hdepth : Naming.depthColumn ∈ r.ownColumns := by simp [Relation.ownColumns]
  rw [Query.references, List.forall_mem_flatMap]
  refine l.forall_exprs_query r ?current ?foreign ?linked ?gathered ?aggregate ?follows ?depth
  case current =>
    intro ref href
    exact .inl ⟨_, hcurrent, List.mem_singleton.1 href⟩
  case foreign =>
    intro ref href
    exact .inl ⟨_, hforeign, List.mem_singleton.1 href⟩
  case linked =>
    intro ref href
    left
    refine ⟨_, hforeign, ?_⟩
    cases r <;> simpa [Relation.linked] using href
  case gathered =>
    intro c hc ref href
    right
    rw [c.references_gathered, List.mem_singleton] at href
    exact ⟨_, mem_outputNames_records (List.mem_map_of_mem hc), href⟩
  case aggregate =>
    intro item hitem ref href
    right
    rcases AttachedFields.exists_of_mem_aggregates hitem href with ⟨id, hid, rfl⟩
    have hcolumn := hcovers id (List.mem_append_right _ hid)
    exact ⟨_, mem_outputNames_records hcolumn, rfl⟩
  case follows =>
    intro ref href
    -- the link is followed from its own end to the id of the foreign record
    rw [Expr.references_equals, Expr.references_of, Expr.references_of] at href
    rcases List.mem_pair.1 href with rfl | rfl
    · left
      exact ⟨_, hforeign, rfl⟩
    · right
      refine ⟨_, ?_, rfl⟩
      rw [outputNames_records]
      exact List.mem_cons_self
  case depth =>
    intro op n ref href
    left
    exact ⟨_, hdepth, by simpa [Expr.references] using href⟩

/-- Every reference of the links `l.query r` can be followed. -/
theorem finds_query (hcovers : l.Covers) :
    ∀ ref ∈ (l.query r).references, (l.query r).Finds ref := by
  intro ref href
  rcases cases_of_mem_references hcovers ref href with ⟨name, -, rfl⟩ | ⟨name, hname, rfl⟩
  · refine Query.finds_of_mem (s := .table (l.linkTable r)) List.mem_cons_self rfl ?_
    intro p hp
    cases hp
  · refine Query.finds_of_mem (s := .derivedAs l.records l.foreignAlias)
      (List.mem_cons_of_mem _ List.mem_cons_self) rfl ?_
    intro p hp name' hname'
    cases hp
    cases hname'
    exact hname

end Link

/-! ## What a compiled query reads -/

/-- How `out` reads the relation `r`: the query `links` is joined to the record and the foreign
`records` to the links, and each has the columns that are read from it. -/
structure Compiled.ReadsLink (out : Compiled) (t : Table) (field : FieldId) (r : Relation)
    (foreign : Table) (links records : Query) : Prop where
  /-- The record is joined to `links`, under the alias of the relation. -/
  joined : ∃ matching,
    ⟨.derivedAs links (Naming.linksAlias field), matching⟩ ∈ out.query.joins
  /-- The query `links` is joined to `records` and to nothing else. -/
  followed : ∃ matching, links.joins = [⟨.derivedAs records (Naming.foreignAlias field), matching⟩]
  /-- Whatever the record reads under the alias of the relation is a column of `links`. -/
  read : ∀ item ∈ out.query.items, ∀ name,
    ⟨Naming.linksAlias field, some name⟩ ∈ item.expr.references → some name ∈ links.outputNames
  /-- The query `links` reads the columns that the links are kept in, and columns of `records`. -/
  gathered : ∀ ref ∈ links.references,
    (∃ name ∈ r.ownColumns, ref = ⟨r.linkTable t.id field, some name⟩) ∨
      ∃ name, some name ∈ records.outputNames ∧ ref = ⟨Naming.foreignAlias field, some name⟩
  /-- All that the relation and its lookups show, and all that is summed, is in both queries. -/
  shown : ∀ id ∈ r.displayIds foreign ++ (t.attachedTo field).sources,
    some id.text ∈ links.outputNames ∧ some id.text ∈ records.outputNames
  /-- Every number that is attached to `field` is a column of `links`. -/
  computed : ∀ id ∈ (t.attachedTo field).numbers, some id.text ∈ links.outputNames

section Scoping

variable {catalog : Catalog} {options : Options} {t : Table} {out : Compiled}

namespace Table.HasLink

variable {base : Query} {field : FieldId} {r : Relation} {foreign : Table} {layout : Layout}
  {l : Link}

theorem covers (h : t.HasLink catalog options field r foreign layout l) : l.Covers := by
  intro id hid
  rw [h.display_eq, h.attached_eq] at hid
  rw [h.columns_eq, List.mem_eraseDups]
  exact hid

theorem linksAlias_eq (h : t.HasLink catalog options field r foreign layout l) :
    l.linksAlias = Naming.linksAlias field := by
  rw [Link.linksAlias, h.field_eq]

theorem foreignAlias_eq (h : t.HasLink catalog options field r foreign layout l) :
    l.foreignAlias = Naming.foreignAlias field := by
  rw [Link.foreignAlias, h.field_eq]

theorem linkTable_eq (h : t.HasLink catalog options field r foreign layout l) :
    l.linkTable r = r.linkTable t.id field := by
  rw [Link.linkTable, h.table_eq, h.field_eq]

end Table.HasLink

/-- Every reference in a query `q` that the `fragment` joins can be followed there. -/
theorem Table.Adds.finds {fragment : Fragment} (h : t.Adds catalog options fragment) :
    ∀ q ∈ fragment.queries, ∀ ref ∈ q.references, q.Finds ref := by
  intro q hq
  cases h with
  | files hkind =>
      rw [Fragment.queries_fileFragment, List.mem_singleton] at hq
      subst hq
      exact Query.finds_of_references_eq_nil (references_fileRows _ _)
  | link hkind hlink =>
      rw [Fragment.queries_resolve] at hq
      rcases List.mem_pair.1 hq with rfl | rfl
      · exact Link.finds_query hlink.covers
      · exact Query.finds_of_references_eq_nil (Link.references_records _)

/-- The query `q` that the `fragment` joins has every column that its items, or the condition of its
join, read under its label; nothing else is read but the id of the record. -/
theorem Table.Adds.reads {fragment : Fragment} (h : t.Adds catalog options fragment) :
    ∃ q, fragment.join.target = .derivedAs q fragment.label ∧
      (∀ item ∈ fragment.items, ∀ ref ∈ item.expr.references,
        ∃ name, some name ∈ q.outputNames ∧ ref = ⟨fragment.label, some name⟩) ∧
      ∀ ref ∈ fragment.join.matching.references,
        (∃ name, some name ∈ q.outputNames ∧ ref = ⟨fragment.label, some name⟩) ∨
          ref = ⟨options.baseAlias, some options.idColumn⟩ := by
  cases h with
  | @files field hkind =>
      refine ⟨fileRows options.files field, rfl, ?_, ?_⟩
      · intro item hitem ref href
        rw [outputNames_fileRows]
        exact ⟨field.text, by simp, exists_of_mem_fileFragment hitem href⟩
      · intro ref href
        rw [outputNames_fileRows]
        -- the two sides of the condition: the column of the links, and the id of the record
        rcases List.mem_pair.1 href with rfl | rfl
        · left
          exact ⟨options.files.recordColumn, by simp, rfl⟩
        · right
          rfl
  | @link field r foreign layout l hkind hlink =>
      refine ⟨l.query r, ?_, ?_, ?_⟩
      · rw [l.join_resolve, l.label_resolve]
        rfl
      · intro item hitem ref href
        rcases Link.exists_of_mem_items hlink.covers hitem href with ⟨id, hid, rfl⟩
        rw [l.label_resolve]
        exact ⟨id.text, Link.mem_outputNames_query hid, rfl⟩
      · intro ref href
        rw [l.join_resolve, hlink.options_eq] at href
        rw [l.label_resolve]
        rcases List.mem_pair.1 href with rfl | rfl
        · left
          refine ⟨r.currentColumn, ?_, rfl⟩
          rw [l.outputNames_query]
          exact List.mem_cons_self
        · right
          rfl

namespace Compiled.MadeOf

variable {fragments : List Fragment}

/-- The fragments `a` and `b` are the same if they have one label. -/
theorem eq_of_label_eq {base : Query} (h : out.MadeOf catalog options t base fragments)
    {a b : Fragment} (ha : a ∈ fragments) (hb : b ∈ fragments) (hlabel : a.label = b.label) :
    a = b := by
  have hnodup : (fragments.map (·.field)).Nodup := by
    rw [h.fields]
    exact t.nodup_compileOrder.filter _
  have hfield : a.field = b.field := (h.adds a ha).field_eq_of_label_eq (h.adds b hb) hlabel
  exact List.inj_on_of_nodup_map hnodup ha hb hfield

variable (h : out.MadeOf catalog options t (options.baseQuery t) fragments)
include h

theorem items_eq : out.query.items =
    ⟨.star (some options.baseAlias), none⟩ :: fragments.flatMap (·.items) := by
  rw [h.query]
  rfl

theorem joins_eq : out.query.joins = fragments.map (·.join) := by
  rw [h.query]
  rfl

theorem source_eq : out.query.source = some (.tableAs t.id.text options.baseAlias) := by
  rw [h.query]
  rfl

theorem subqueries_eq : out.query.subqueries = fragments.flatMap (·.queries) := by
  rw [← h.added_eq, Compiled.added, h.query]
  rfl

/-- The records can be referred to in `out`, and so can the queries of the fragments. -/
theorem finds_query {ref : ColumnRef} (href : ref ∈ out.query.references) :
    out.query.Finds ref := by
  have hbase : TableRef.tableAs t.id.text options.baseAlias ∈ out.query.sources := by
    rw [Query.sources, h.source_eq]
    exact List.mem_cons_self
  have hrecord : ∀ column?, out.query.Finds ⟨options.baseAlias, column?⟩ := by
    intro column?
    refine Query.finds_of_mem hbase rfl ?_
    intro p hp
    cases hp
  have hjoined : ∀ fragment ∈ fragments, ∀ q, fragment.join.target = .derivedAs q fragment.label →
      ∀ name, some name ∈ q.outputNames → out.query.Finds ⟨fragment.label, some name⟩ := by
    intro fragment hfragment q hq name hname
    have htarget : TableRef.derivedAs q fragment.label ∈ out.query.sources := by
      rw [Query.sources, h.joins_eq, List.map_map, ← hq]
      exact List.mem_append_right _ (List.mem_map_of_mem hfragment)
    refine Query.finds_of_mem htarget rfl ?_
    intro p hp name' hname'
    cases hp
    cases hname'
    exact hname
  rw [Query.mem_references, h.items_eq, h.joins_eq] at href
  rcases href with ⟨item, hitem, href⟩ | ⟨join, hjoin, href⟩ | ⟨e, he, href⟩ | ⟨e, he, href⟩
  · rcases List.mem_cons.1 hitem with rfl | hitem
    · -- the base selects all columns of the records
      obtain rfl : ref = ⟨options.baseAlias, none⟩ := List.mem_singleton.1 href
      exact hrecord none
    · rcases List.mem_flatMap.1 hitem with ⟨fragment, hfragment, hitem⟩
      rcases (h.adds fragment hfragment).reads with ⟨q, hq, hitems, -⟩
      rcases hitems item hitem ref href with ⟨name, hname, rfl⟩
      exact hjoined fragment hfragment q hq name hname
  · rcases List.mem_map.1 hjoin with ⟨fragment, hfragment, rfl⟩
    rcases (h.adds fragment hfragment).reads with ⟨q, hq, -, hmatching⟩
    rcases hmatching ref href with ⟨name, hname, rfl⟩ | rfl
    · exact hjoined fragment hfragment q hq name hname
    · exact hrecord (some options.idColumn)
  -- a base without conditions and groups is given none
  · rw [h.query] at he
    cases he
  · rw [h.query] at he
    cases he

/-- The links of the relation `r` are read by `out` through the two queries of `l`. -/
theorem readsLink {field : FieldId} {r : Relation} {foreign : Table} {layout : Layout} {l : Link}
    (hlink : t.HasLink catalog options field r foreign layout l) (hmem : l.resolve r ∈ fragments) :
    out.ReadsLink t field r foreign (l.query r) l.records where
  joined := by
    have hjoin : (l.resolve r).join ∈ out.query.joins := by
      rw [h.joins_eq]
      exact List.mem_map_of_mem hmem
    rw [l.join_resolve] at hjoin
    rw [← hlink.linksAlias_eq]
    exact ⟨_, hjoin⟩
  followed := by
    rw [← hlink.foreignAlias_eq]
    exact ⟨_, rfl⟩
  read := by
    intro item hitem name href
    rw [h.items_eq] at hitem
    rcases List.mem_cons.1 hitem with rfl | hitem
    · -- the columns of the record are not read one by one
      have hcolumn := congrArg ColumnRef.column? (List.mem_singleton.1 href)
      cases hcolumn
    · rcases List.mem_flatMap.1 hitem with ⟨fragment, hfragment, hitem⟩
      rcases (h.adds fragment hfragment).reads with ⟨q, hq, hitems, -⟩
      rcases hitems item hitem _ href with ⟨name', hname, href'⟩
      rw [ColumnRef.mk.injEq, Option.some.injEq] at href'
      rcases href' with ⟨hlabel, rfl⟩
      -- only the fragment of the relation itself reads under this alias
      have hsame : fragment = l.resolve r := by
        refine h.eq_of_label_eq hfragment hmem ?_
        rw [l.label_resolve, hlink.linksAlias_eq, hlabel]
      subst hsame
      rw [l.join_resolve] at hq
      obtain rfl : l.query r = q := Source.derived.inj (congrArg TableRef.source hq)
      exact hname
  gathered := by
    intro ref href
    rw [← hlink.linkTable_eq, ← hlink.foreignAlias_eq]
    exact Link.cases_of_mem_references hlink.covers ref href
  shown := by
    intro id hid
    rw [← hlink.display_eq, ← hlink.attached_eq] at hid
    -- what is shown is read, so it is a column of both queries
    have hcolumn := hlink.covers id hid
    constructor
    · exact Link.mem_outputNames_query (List.mem_cons_of_mem _ (List.mem_append_left _ hcolumn))
    · exact Link.mem_outputNames_records hcolumn
  computed := by
    intro id hid
    rw [← hlink.attached_eq] at hid
    exact Link.mem_outputNames_query (List.mem_cons_of_mem _ (List.mem_append_right _ hid))

end Compiled.MadeOf

/-- Every reference of a compiled query `out` can be followed, at any depth, and the queries that
are made for a relation have the columns that are read from them. -/
theorem compile_wellScoped (h : compile catalog options t (options.baseQuery t) = .ok out) :
    out.query.WellScoped ∧
      ∀ f ∈ t.schema.fields, ∀ r, f.kind = .relation r → t.reaches catalog r = true →
        ∃ foreign links records, t.foreign? catalog r = some foreign ∧
          out.ReadsLink t f.id r foreign links records := by
  rcases exists_madeOf h with ⟨fragments, hmade⟩
  constructor
  · intro q hq ref href
    -- the output itself, or a query that one of its fragments joins
    rcases List.mem_cons.1 hq with rfl | hq
    · exact hmade.finds_query href
    · rw [hmade.subqueries_eq] at hq
      rcases List.mem_flatMap.1 hq with ⟨fragment, hfragment, hq⟩
      exact (hmade.adds fragment hfragment).finds q hq ref href
  · intro f hf r hkind hlive
    rcases hmade.exists_link hf hkind hlive with ⟨foreign, layout, l, hlink, hmem⟩
    exact ⟨foreign, l.query r, l.records, hlink.leads, hmade.readsLink hlink hmem⟩

/-- The posts read their tags as `tagged`, of which the sum needs a column that is not shown. -/
theorem compile_wellScoped_posts :
    ∃ out, compile Blog.registry.catalog {} Blog.posts (Options.baseQuery {} Blog.posts) = .ok out ∧
      out.query.WellScoped ∧
      ∃ links records, out.ReadsLink Blog.posts ⟨"tagged"⟩ (.reference (.owner ⟨"tags"⟩)) Blog.tags
        links records := by
  have hcompiles : (compile Blog.registry.catalog {} Blog.posts
      (Options.baseQuery {} Blog.posts)).map (·.dialect) = .ok .sqlite := by rfl
  have htags : Blog.posts.foreign? Blog.registry.catalog (.reference (.owner ⟨"tags"⟩)) =
      some Blog.tags := by rfl
  have htagged : (⟨⟨"tagged"⟩, "Tags", false, .relation (.reference (.owner ⟨"tags"⟩))⟩ : Field) ∈
      Blog.posts.schema.fields := by decide +kernel
  rcases map_eq_ok.1 hcompiles with ⟨out, h, -⟩
  rcases compile_wellScoped h with ⟨hscoped, hlinks⟩
  rcases hlinks _ htagged _ rfl (by decide +kernel) with ⟨foreign, links, records, hforeign, hread⟩
  rw [htags, Option.some.injEq] at hforeign
  subst hforeign
  exact ⟨out, h, hscoped, links, records, hread⟩

end Scoping

end LinkedRecords
