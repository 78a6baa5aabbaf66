import LinkedRecords.Proofs.Compile.Failures

/-! # What a relation reads

A relation reads fields of its foreign table: those that it shows, those that its lookups show, and
those that numbers are computed from. Each is read once, where it first comes, and from the columns
that hold it. Two queries are made of these fields, the foreign records and the links, in which the
values of the records are gathered; both have the same fields in the same order.

* `DisplayColumn.collect_eq_ok_iff`, `DisplayColumn.collect_eq_error_iff` — the columns of several
  fields, or the first field that cannot be read.
* `Relation.reads` — the fields that a relation reads.
* `Link.Reads` — how a link reads fields through its two queries.
* `Link.ofRelation_reads` — every link reads the fields of its relation, and when there is none.
-/

namespace LinkedRecords

open Sql

namespace DisplayColumn

variable {foreign : Table} {layout : Layout}

/-! ## Reading a field -/

/-- Whether the field of `c` is one of the table `foreign`, with the columns that hold it there. -/
structure ReadFrom (foreign : Table) (layout : Layout) (c : DisplayColumn) : Prop where
  /-- The field is in the schema of `foreign`. -/
  known : ∃ f ∈ foreign.schema.fields, f.id = c.field
  /-- The `layout` keeps the field in these columns. -/
  stored : layout.columns? c.field = some c.columns

theorem ofField_eq_ok_iff {field : FieldId} {c : DisplayColumn} :
    ofField foreign layout field = .ok c ↔ c.field = field ∧ c.ReadFrom foreign layout := by
  rw [ofField_eq_ok, Schema.contains_iff]
  constructor
  · rintro ⟨hknown, rfl, hstored⟩
    exact ⟨rfl, hknown, hstored⟩
  · rintro ⟨rfl, hknown, hstored⟩
    exact ⟨hknown, rfl, hstored⟩

/-! ## Reading several fields -/

variable {ids : List FieldId}

/-- The `columns` that are collected are those of the fields `ids`, each field once. -/
theorem collect_eq_ok_iff {columns : List DisplayColumn} :
    collect foreign layout ids = .ok columns ↔
      FirstOccurrences ids (columns.map (·.field)) ∧ ∀ c ∈ columns, c.ReadFrom foreign layout := by
  rw [collect, mapM_eq_ok, firstOccurrences_iff]
  simp only [ofField_eq_ok_iff]
  -- that the fields are distinct does not matter any more
  generalize ids.eraseDups = fields
  constructor
  · intro hall
    induction hall with
    | nil => simp
    | cons hread _ ih =>
        rw [List.map_cons, hread.1, ih.1, List.forall_mem_cons]
        exact ⟨rfl, hread.2, ih.2⟩
  · rintro ⟨rfl, hread⟩
    -- each column is paired with its own field
    rw [List.forall₂_map_left_iff, List.forall₂_same]
    intro c hc
    exact ⟨rfl, hread c hc⟩

/-- The first of the fields `ids` that cannot be read is reported. -/
theorem collect_eq_error_iff {e : CompileError} :
    collect foreign layout ids = .error e ↔ FirstError (Table.ReadFails foreign layout) ids e := by
  rw [collect_eq_error]
  simp only [ofField_eq_error_iff]

/-! ## Values of one record -/

/-- The columns of the field of `c` in one expression: missing without a column, the column itself,
or an array of several columns in their order. -/
def packed (c : DisplayColumn) : Expr :=
  match c.columns with
  | [] => .null
  | [column] => .col column.name
  | columns => .jsonArray (columns.map fun column => .col column.name)

theorem expr_projection (c : DisplayColumn) : c.projection.expr = c.packed := by
  rcases c with ⟨field, columns⟩
  rcases columns with _ | ⟨column, _ | ⟨column', columns⟩⟩
  · rfl
  · simp only [projection, packed]
    -- under its own name or another, the column is the same
    split
    · rfl
    · rfl
  · rfl

end DisplayColumn

/-! ## The queries of a relation -/

/-- The fields that the relation `r` reads: those that it shows, those that its lookups show, those
that are summed and those that means are taken of. -/
def Relation.reads (r : Relation) (foreign : Table) (attached : AttachedFields) : List FieldId :=
  r.displayIds foreign ++ attached.lookups.flatMap (·.2) ++ attached.sums.map (·.2) ++
    attached.averages.map (·.2)

theorem Relation.reads_eq (r : Relation) (foreign : Table) (attached : AttachedFields) :
    r.reads foreign attached = r.displayIds foreign ++ attached.sources := by
  simp only [reads, AttachedFields.sources, List.append_assoc]

/-- How the link `l` reads the fields `ids` of its foreign table, through the query `links` and the
foreign `records` that this leads to. -/
structure Link.Reads (l : Link) (r : Relation) (foreign : Table) (layout : Layout)
    (ids : List FieldId) (links records : Query) : Prop where
  /-- The record is joined to `links`, under the alias of the relation. -/
  linked : (l.resolve r).join.target = .derivedAs links l.linksAlias
  /-- The query `links` is joined to `records` and to nothing else. -/
  followed : links.joins.map (·.target) = [.derivedAs records l.foreignAlias]
  /-- The query `records` reads the table of the foreign records. -/
  kept : records.source = some (.table foreign.id.text)
  /-- Each of the fields `ids` is read once, where it first comes. -/
  fields : FirstOccurrences ids (l.columns.map (·.field))
  /-- Each field is read from the columns that hold it in `layout`. -/
  columns : ∀ c ∈ l.columns, c.ReadFrom foreign layout
  /-- The `records` have their id, and each field under its own name. -/
  recordNames : records.outputNames =
    some l.options.idColumn :: (l.columns.map (·.field)).map (some ·.text)
  /-- The value of a field in `records` is made of its own columns alone. -/
  recordValues : records.items.map (·.expr) =
    .col l.options.idColumn :: l.columns.map (·.packed)
  /-- The `records` are grouped by the id and the columns of all fields, each once. -/
  recordGroups : FirstOccurrences
    (.col l.options.idColumn :: l.columns.flatMap fun c => c.columns.map fun column =>
      .col column.name) records.groups
  /-- The `links` have the same fields in the same order, in front of what is computed. -/
  linkNames : links.outputNames = some r.currentColumn :: some l.field.text ::
    ((l.columns.map (·.field)).map (some ·.text) ++ l.attached.numbers.map (some ·.text))

namespace Link

variable {options : Options} {table : TableId} {field : FieldId} {r : Relation} {foreign : Table}
  {layout : Layout} {attached : AttachedFields} {l : Link}

theorem ofRelation_eq_error {e : CompileError} :
    ofRelation options table field r foreign layout attached = .error e ↔
      DisplayColumn.collect foreign layout (r.displayIds foreign ++ attached.sources) =
        .error e := by
  rw [ofRelation, bind_eq_error]
  simp [pure, Except.pure]

theorem exprs_records (l : Link) : l.records.items.map (·.expr) =
    .col l.options.idColumn :: l.columns.map (·.packed) := by
  have hpacked : (l.columns.map (·.projection)).map (·.expr) = l.columns.map (·.packed) := by
    rw [List.map_map]
    exact List.map_congr_left fun c _ => c.expr_projection
  rw [records, foreignRecords_eq, List.map_cons, hpacked]

theorem reads_of_ofRelation (h : ofRelation options table field r foreign layout attached = .ok l) :
    l.Reads r foreign layout (r.reads foreign attached) (l.query r) l.records := by
  rcases ofRelation_eq_ok.1 h with ⟨columns, hcollect, rfl⟩
  rw [← Relation.reads_eq] at hcollect
  -- all queries of the link are made of the columns that were collected
  rcases DisplayColumn.collect_eq_ok_iff.1 hcollect with ⟨hfields, hcolumns⟩
  constructor
  case linked =>
    rw [join_resolve]
    rfl
  case followed => rfl
  case kept => rw [records, foreignRecords_eq]
  case fields => exact hfields
  case columns => exact hcolumns
  case recordNames => exact outputNames_records _
  case recordValues => exact exprs_records _
  case recordGroups =>
    rw [records, foreignRecords_eq]
    exact firstOccurrences_eraseDups _
  case linkNames =>
    rw [outputNames_query, shownFields, List.map_cons, List.map_append]

/-- The relation `r` reads its fields in the order in which they first come, both from the foreign
records and through the links, or fails with the first of them that cannot be read. -/
theorem ofRelation_reads (options : Options) (table : TableId) (field : FieldId) (r : Relation)
    (foreign : Table) (layout : Layout) (attached : AttachedFields) :
    (∀ e, ofRelation options table field r foreign layout attached = .error e ↔
      FirstError (Table.ReadFails foreign layout) (r.reads foreign attached) e) ∧
    ∀ l, ofRelation options table field r foreign layout attached = .ok l →
      ∃ links records, l.Reads r foreign layout (r.reads foreign attached) links records := by
  constructor
  · intro e
    rw [ofRelation_eq_error, DisplayColumn.collect_eq_error_iff, Relation.reads_eq]
  · intro l h
    exact ⟨l.query r, l.records, reads_of_ofRelation h⟩

end Link

namespace Blog

/-- Meetings, whose `key` has the name of the column of ids, and whose `notes` have no column. -/
def meetings : Table where
  id := ⟨"meetings"⟩
  name := "Meetings"
  schema := schema [
    ⟨⟨"key"⟩, "Key", false, .scalar .id⟩,
    ⟨⟨"title"⟩, "Title", true, .scalar .string⟩,
    ⟨⟨"days"⟩, "Days", true, .scalar .dateRange⟩,
    ⟨⟨"notes"⟩, "Notes", false, .attachment⟩]
  deleted := false

end Blog

/-- The `days` are shown twice and summed, and are read where they first come. -/
theorem Link.ofRelation_reads_meetings :
    ∃ l links records,
      Link.ofRelation {} ⟨"rooms"⟩ ⟨"booked"⟩
        (.reference ⟨true, ⟨"meetings"⟩, none, [⟨"days"⟩, ⟨"key"⟩, ⟨"days"⟩]⟩) Blog.meetings
        (.ofTable Blog.meetings)
        { lookups := [(⟨"agenda"⟩, [⟨"title"⟩, ⟨"notes"⟩])], sums := [(⟨"time"⟩, ⟨"days"⟩)] } =
          .ok l ∧
      l.Reads (.reference ⟨true, ⟨"meetings"⟩, none, [⟨"days"⟩, ⟨"key"⟩, ⟨"days"⟩]⟩) Blog.meetings
        (.ofTable Blog.meetings)
        [⟨"days"⟩, ⟨"key"⟩, ⟨"days"⟩, ⟨"title"⟩, ⟨"notes"⟩, ⟨"days"⟩] links records ∧
      l.columns.map (fun c => (c.field.text, c.columns.map (·.name))) =
        [("days", ["days_from", "days_to"]), ("key", ["id"]), ("title", ["title"]),
          ("notes", [])] := by
  have hcolumns : (Link.ofRelation {} ⟨"rooms"⟩ ⟨"booked"⟩
      (.reference ⟨true, ⟨"meetings"⟩, none, [⟨"days"⟩, ⟨"key"⟩, ⟨"days"⟩]⟩) Blog.meetings
      (.ofTable Blog.meetings)
      { lookups := [(⟨"agenda"⟩, [⟨"title"⟩, ⟨"notes"⟩])], sums := [(⟨"time"⟩, ⟨"days"⟩)] }).map
        (fun l => l.columns.map fun c => (c.field.text, c.columns.map (·.name))) =
      .ok [("days", ["days_from", "days_to"]), ("key", ["id"]), ("title", ["title"]),
        ("notes", [])] := by decide +kernel
  rcases map_eq_ok.1 hcolumns with ⟨l, h, hl⟩
  rcases (Link.ofRelation_reads _ _ _ _ _ _ _).2 l h with ⟨links, records, hreads⟩
  exact ⟨l, links, records, h, hreads, hl⟩

end LinkedRecords
