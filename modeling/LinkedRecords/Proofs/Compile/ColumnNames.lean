import LinkedRecords.Proofs.Compile.Parts
import LinkedRecords.Proofs.Registry

/-! # Distinct column names

What a compilation joins is read by the names of its columns. As long as no two fields have the same
id, and none that of a column with a name of its own, these names are distinct, but for one case: a
relation of a table to itself that shows itself, or a number computed over its own links. Its links
have that name twice.

* `Catalog.IdsUnique`, `Catalog.Avoids` — the two conditions on the ids of fields.
* `Table.ShowsItself` — the one case in which a name comes twice.
* `Table.HasLink.nodup_outputNames_query_iff` — the names of the columns of one link.
* `compile_columns_distinct_iff` — the same for all that a compilation adds.
* `compile_columns_repeated_tasks` — a table that is valid and has such a relation.
-/

namespace LinkedRecords

open Sql

/-! ## Names that are taken -/

/-- Whether no id is that of fields in two tables of the catalog `c`. -/
def Catalog.IdsUnique (c : Catalog) : Prop :=
  ∀ id id' s t, c.table? id = some s → c.table? id' = some t →
    ∀ f ∈ s.schema.fields, ∀ g ∈ t.schema.fields, f.id = g.id → id = id'

/-- The columns of records, links and files that the options `o` name, and not a field. -/
def Options.columnNames (o : Options) : List String :=
  [o.idColumn, Naming.fromColumn, Naming.toColumn, Naming.parentColumn, Naming.childColumn,
    o.files.recordColumn, o.files.fieldColumn]

/-- Whether no field of any table of `c` has one of these `names` for its id. -/
def Catalog.Avoids (c : Catalog) (names : List String) : Prop :=
  ∀ id t, c.table? id = some t → ∀ f ∈ t.schema.fields, f.id.text ∉ names

/-- Whether the relation `r` leads to its own table `t` and shows itself, or a number computed over
its links. -/
def Table.ShowsItself (t : Table) (field : FieldId) (r : Relation) : Prop :=
  r.foreignTable t.id = t.id ∧
    ∃ id ∈ field :: (t.attachedTo field).numbers,
      id ∈ r.displayIds t ++ (t.attachedTo field).sources

instance (t : Table) (field : FieldId) (r : Relation) : Decidable (t.ShowsItself field r) :=
  inferInstanceAs (Decidable (_ ∧ _))

theorem FieldId.outputName_injective : Function.Injective fun id : FieldId => some id.text := by
  rintro ⟨a⟩ ⟨b⟩ h
  exact congrArg FieldId.mk (Option.some.inj h)

theorem Relation.currentColumn_mem (r : Relation) (options : Options) :
    r.currentColumn ∈ options.columnNames := by
  rcases r with r | h | h
  · rw [currentColumn, Naming.Orientation.of]
    split <;> simp [Options.columnNames, Naming.Orientation.against, Naming.Orientation.along]
  · simp [currentColumn, Options.columnNames]
  · simp [currentColumn, Options.columnNames]

/-! ## A relation and the numbers attached to it -/

namespace Table

variable {t : Table} {g : Field}

theorem nodup_family (hg : g ∈ t.schema.fields) (hhead : isHead g = true) :
    (g.id :: (t.attachedTo g.id).numbers).Nodup := by
  have hids : (g.id :: (t.attachedTo g.id).ids).Nodup := by
    rw [(family_ids_perm hg hhead).nodup_iff]
    exact t.schema.distinct.sublist (List.filter_sublist.map _)
  -- a relation with all that is attached to it is part of the table, which has distinct ids
  exact hids.sublist ((AttachedFields.numbers_sublist_ids _).cons_cons g.id)

theorem exists_field_of_mem_family (hg : g ∈ t.schema.fields) (hhead : isHead g = true)
    {id : FieldId} (hid : id ∈ g.id :: (t.attachedTo g.id).numbers) :
    ∃ f ∈ t.schema.fields, f.id = id := by
  have hmem : id ∈ g.id :: (t.attachedTo g.id).ids :=
    ((AttachedFields.numbers_sublist_ids _).cons_cons g.id).subset hid
  rw [(family_ids_perm hg hhead).mem_iff] at hmem
  rcases List.mem_map.1 hmem with ⟨f, hf, rfl⟩
  exact ⟨f, List.mem_of_mem_filter hf, rfl⟩

end Table

/-! ## The names of one link -/

namespace Table.HasLink

variable {catalog : Catalog} {options : Options} {t : Table} {g : Field} {r : Relation}
  {foreign : Table} {layout : Layout} {l : Link}

/-- What the link `l` reads from the foreign records are fields of the table `foreign`. -/
theorem exists_field_of_mem_columns (h : t.HasLink catalog options g.id r foreign layout l)
    {id : FieldId} (hid : id ∈ l.columns.map (·.field)) :
    ∃ f ∈ foreign.schema.fields, f.id = id := by
  rw [h.columns_eq, List.mem_eraseDups] at hid
  exact foreign.schema.contains_iff.1 (DisplayColumn.known_of_collect h.collected hid)

/-- The table `foreign` that a link leads to is kept in the catalog. -/
theorem table?_foreign (h : t.HasLink catalog options g.id r foreign layout l)
    (ht : catalog.table? t.id = some t) :
    catalog.table? (r.foreignTable t.id) = some foreign := by
  have hleads := h.leads
  rw [Table.foreign?] at hleads
  by_cases hself : r.foreignTable t.id = t.id
  · rw [if_pos hself] at hleads
    rw [hself, ht, hleads]
  · rwa [if_neg hself] at hleads

/-- Fields come twice among the columns of the link `l` just if the relation `r` shows itself. -/
theorem nodup_shownFields_iff (h : t.HasLink catalog options g.id r foreign layout l)
    (hg : g ∈ t.schema.fields) (hhead : isHead g = true) (ht : catalog.table? t.id = some t)
    (hids : catalog.IdsUnique) : l.shownFields.Nodup ↔ ¬ t.ShowsItself g.id r := by
  have hperm : l.shownFields.Perm
      (l.columns.map (·.field) ++ g.id :: (t.attachedTo g.id).numbers) := by
    rw [Link.shownFields, h.field_eq, h.attached_eq]
    exact List.perm_middle.symm
  have hcolumns : (l.columns.map (·.field)).Nodup := by
    rw [h.columns_eq]
    exact nodup_eraseDups _
  rw [hperm.nodup_iff, List.nodup_append]
  -- each part is without repetitions, so it is about what they have in common
  constructor
  · rintro ⟨-, -, hdisjoint⟩ ⟨hself, id, hown, hshown⟩
    have hread : id ∈ l.columns.map (·.field) := by
      rw [h.columns_eq, List.mem_eraseDups, h.foreign_of_self hself]
      exact hshown
    exact hdisjoint id hread id hown rfl
  · intro hshows
    refine ⟨hcolumns, nodup_family hg hhead, ?_⟩
    rintro id hread _ hown rfl
    rcases h.exists_field_of_mem_columns hread with ⟨f, hf, hfid⟩
    rcases exists_field_of_mem_family hg hhead hown with ⟨f', hf', hfid'⟩
    -- a field of both tables is one of a single table, so the relation leads to its own
    have hself : r.foreignTable t.id = t.id :=
      hids _ _ _ _ (h.table?_foreign ht) ht f hf f' hf' (hfid.trans hfid'.symm)
    rw [h.columns_eq, List.mem_eraseDups, h.foreign_of_self hself] at hread
    exact hshows ⟨hself, id, hown, hread⟩

theorem text_not_mem_columnNames (h : t.HasLink catalog options g.id r foreign layout l)
    (hg : g ∈ t.schema.fields) (hhead : isHead g = true) (ht : catalog.table? t.id = some t)
    (havoids : catalog.Avoids options.columnNames) {id : FieldId} (hid : id ∈ l.shownFields) :
    id.text ∉ options.columnNames := by
  rw [Link.shownFields, h.field_eq, h.attached_eq, ← List.cons_append,
    List.cons_append, List.mem_cons, List.mem_append] at hid
  -- the relation itself, what is read from the foreign records, and the numbers
  rcases hid with hid | hid | hid
  · subst hid
    exact havoids _ _ ht g hg
  · rcases h.exists_field_of_mem_columns hid with ⟨f, hf, rfl⟩
    exact havoids _ _ (h.table?_foreign ht) f hf
  · rcases exists_field_of_mem_family hg hhead (List.mem_cons_of_mem _ hid) with ⟨f, hf, rfl⟩
    exact havoids _ _ ht f hf

/-- The columns of the links have distinct names unless the relation `r` shows itself. -/
theorem nodup_outputNames_query_iff (h : t.HasLink catalog options g.id r foreign layout l)
    (hg : g ∈ t.schema.fields) (hhead : isHead g = true) (ht : catalog.table? t.id = some t)
    (hids : catalog.IdsUnique) (havoids : catalog.Avoids options.columnNames) :
    (l.query r).outputNames.Nodup ↔ ¬ t.ShowsItself g.id r := by
  -- the column for the record is named by the options, and so not for a field
  have hcurrent : some r.currentColumn ∉ l.shownFields.map (some ·.text) := by
    intro hin
    rcases List.mem_map.1 hin with ⟨id, hid, htext⟩
    have hname := r.currentColumn_mem options
    rw [← Option.some.inj htext] at hname
    exact h.text_not_mem_columnNames hg hhead ht havoids hid hname
  rw [l.outputNames_query, List.nodup_cons, List.nodup_map_iff FieldId.outputName_injective,
    h.nodup_shownFields_iff hg hhead ht hids]
  exact and_iff_right hcurrent

/-- The columns of the foreign records of `l` have distinct names, whatever its relation shows. -/
theorem nodup_outputNames_records (h : t.HasLink catalog options g.id r foreign layout l)
    (ht : catalog.table? t.id = some t) (havoids : catalog.Avoids options.columnNames) :
    l.records.outputNames.Nodup := by
  rw [l.outputNames_records, List.nodup_cons, List.nodup_map_iff FieldId.outputName_injective,
    h.columns_eq]
  refine ⟨?_, nodup_eraseDups _⟩
  intro hin
  rcases List.mem_map.1 hin with ⟨id, hid, htext⟩
  rcases h.exists_field_of_mem_columns (h.columns_eq ▸ hid) with ⟨f, hf, rfl⟩
  refine havoids _ _ (h.table?_foreign ht) f hf ?_
  rw [Option.some.inj htext, h.options_eq]
  exact List.mem_cons_self

end Table.HasLink

theorem nodup_outputNames_fileRows {catalog : Catalog} {options : Options} {t : Table} {g : Field}
    (hg : g ∈ t.schema.fields) (ht : catalog.table? t.id = some t)
    (havoids : catalog.Avoids options.columnNames) :
    (fileRows options.files g.id).outputNames.Nodup := by
  have hne : options.files.recordColumn ≠ g.id.text := by
    intro heq
    refine havoids _ _ ht g hg ?_
    rw [← heq]
    simp [Options.columnNames]
  rw [outputNames_fileRows]
  simpa using hne

/-! ## The names of all that is added -/

/-- The columns of every query that is added to `base` have distinct names just if no relation of
`t` shows itself. -/
theorem compile_columns_distinct_iff {catalog : Catalog} {options : Options} {t : Table}
    {base : Query} {out : Compiled} (hids : catalog.IdsUnique)
    (havoids : catalog.Avoids options.columnNames) (ht : catalog.table? t.id = some t)
    (h : compile catalog options t base = .ok out) :
    (∀ q ∈ out.added base, q.outputNames.Nodup) ↔
      ∀ f ∈ t.schema.fields, ∀ r, f.kind = .relation r → ¬ t.ShowsItself f.id r := by
  rcases exists_madeOf h with ⟨fragments, hmade⟩
  rw [hmade.added_eq]
  constructor
  · intro hnodup f hf r hkind hshows
    have hhead : Table.isHead f = true := by simp [Table.isHead, hkind]
    -- a relation to its own table is always joined
    have hlive : t.reaches catalog r = true := by simp [Table.reaches, hshows.1]
    rcases hmade.exists_link hf hkind hlive with ⟨foreign, layout, l, hlink, hmem⟩
    have hquery : l.query r ∈ fragments.flatMap (·.queries) := by
      refine List.mem_flatMap.2 ⟨_, hmem, ?_⟩
      rw [Fragment.queries_resolve]
      exact List.mem_cons_self
    exact (hlink.nodup_outputNames_query_iff hf hhead ht hids havoids).1 (hnodup _ hquery) hshows
  · intro hshows q hq
    rcases List.mem_flatMap.1 hq with ⟨fragment, hfragment, hq⟩
    -- a query that is added belongs to a fragment of files or to a link
    cases hmade.adds fragment hfragment with
    | @files field hkind =>
        rcases Option.map_eq_some_iff.1 hkind with ⟨f, hf, -⟩
        rcases t.field?_eq_some_iff.1 hf with ⟨hmem, rfl⟩
        rw [Fragment.queries_fileFragment, List.mem_singleton] at hq
        rw [hq]
        exact nodup_outputNames_fileRows hmem ht havoids
    | @link field r foreign layout l hkind hlink =>
        rcases Option.map_eq_some_iff.1 hkind with ⟨f, hf, hrelation⟩
        rcases t.field?_eq_some_iff.1 hf with ⟨hmem, rfl⟩
        have hhead : Table.isHead f = true := by simp [Table.isHead, hrelation]
        rw [Fragment.queries_resolve] at hq
        -- the links, and the foreign records that are joined to them
        rcases List.mem_pair.1 hq with rfl | rfl
        · exact (hlink.nodup_outputNames_query_iff hmem hhead ht hids havoids).2
            (hshows f hmem r hrelation)
        · exact hlink.nodup_outputNames_records ht havoids

/-! ## Tables with and without repeated columns -/

namespace Registry

variable {r : Registry}

theorem idsUnique_of_entries
    (h : ∀ e ∈ r.tables.entries, ∀ e' ∈ r.tables.entries, ∀ f ∈ e.2.schema.fields,
      ∀ g ∈ e'.2.schema.fields, f.id = g.id → e.1 = e'.1) : r.catalog.IdsUnique := by
  intro id id' s t hs ht f hf g hg hid
  exact h _ (mem_entries_of_table? hs) _ (mem_entries_of_table? ht) f hf g hg hid

theorem avoids_of_entries {names : List String}
    (h : ∀ e ∈ r.tables.entries, ∀ f ∈ e.2.schema.fields, f.id.text ∉ names) :
    r.catalog.Avoids names := by
  intro id t ht f hf
  exact h _ (mem_entries_of_table? ht) f hf

end Registry

/-- The thread of a post leads to `Blog.posts`, but does not show itself. -/
theorem compile_columns_distinct_posts :
    Blog.registry.catalog.IdsUnique ∧ Blog.registry.catalog.Avoids (Options.columnNames {}) ∧
      Blog.registry.catalog.table? Blog.posts.id = some Blog.posts ∧
      ∃ out,
        compile Blog.registry.catalog {} Blog.posts (Options.baseQuery {} Blog.posts) = .ok out ∧
        (out.added (Options.baseQuery {} Blog.posts)).length = 5 ∧
        ∀ q ∈ out.added (Options.baseQuery {} Blog.posts), q.outputNames.Nodup := by
  have hids : Blog.registry.catalog.IdsUnique :=
    Registry.idsUnique_of_entries (by decide +kernel)
  have havoids : Blog.registry.catalog.Avoids (Options.columnNames {}) :=
    Registry.avoids_of_entries (by decide +kernel)
  have htable : Blog.registry.catalog.table? Blog.posts.id = some Blog.posts := by rfl
  have hshows : ∀ f ∈ Blog.posts.schema.fields, ∀ r ∈ f.relation?,
      ¬ Blog.posts.ShowsItself f.id r := by decide +kernel
  have hlength : (compile Blog.registry.catalog {} Blog.posts
      (Options.baseQuery {} Blog.posts)).map
        (fun out => (out.added (Options.baseQuery {} Blog.posts)).length) = .ok 5 := by
    decide +kernel
  rcases map_eq_ok.1 hlength with ⟨out, h, hout⟩
  refine ⟨hids, havoids, htable, out, h, hout, ?_⟩
  apply (compile_columns_distinct_iff hids havoids htable h).2
  intro f hf r hkind
  exact hshows f hf r (by simp [Field.relation?, FieldKind.relation?, hkind])

namespace Blog

/-- Tasks in the tree `sub`, which is among the fields that are shown of a task. -/
def tasks : Table where
  id := ⟨"tasks"⟩
  name := "Tasks"
  schema := schema [
    ⟨⟨"title"⟩, "Title", true, .scalar .string⟩,
    ⟨⟨"sub"⟩, "Tasks below", true, .relation (.tree ⟨none, none, []⟩)⟩]
  deleted := false

def plan : Registry := Registry.empty.insert tasks

end Blog

/-- The tree `sub` is shown among its own tasks, so its links have two columns of that name. -/
theorem compile_columns_repeated_tasks :
    Blog.plan.Built ∧ Blog.plan.catalog.IdsUnique ∧
      Blog.plan.catalog.Avoids (Options.columnNames {}) ∧
      Blog.plan.catalog.table? Blog.tasks.id = some Blog.tasks ∧
      Blog.tasks.problems Blog.plan.catalog = [] ∧
      ∃ out, compile Blog.plan.catalog {} Blog.tasks (Options.baseQuery {} Blog.tasks) = .ok out ∧
        ∃ q ∈ out.added (Options.baseQuery {} Blog.tasks),
          q.outputNames = [some "parent_id", some "sub", some "title", some "sub"] := by
  have hnames : (compile Blog.plan.catalog {} Blog.tasks
      (Options.baseQuery {} Blog.tasks)).map (fun out => decide
        (∃ q ∈ out.added (Options.baseQuery {} Blog.tasks),
          q.outputNames = [some "parent_id", some "sub", some "title", some "sub"])) =
        .ok true := by decide +kernel
  rcases map_eq_ok.1 hnames with ⟨out, h, hout⟩
  refine ⟨Registry.Built.empty.insert _, Registry.idsUnique_of_entries (by decide +kernel),
    Registry.avoids_of_entries (by decide +kernel), by rfl, by decide +kernel, out, h, ?_⟩
  exact of_decide_eq_true hout

end LinkedRecords
