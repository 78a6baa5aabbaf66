import LinkedRecords.Proofs.Compile.Parts
import Mathlib.Data.List.Flatten

/-! # The columns that a compilation adds to a record

A record gets columns of two sorts: one under the id of each relation, file field and number, and
one with the suffix of shown values for each relation and lookup. Ids are distinct, so columns of
one sort have distinct names, and all names are distinct unless an id is another one with the
suffix.

* `Table.hasColumn`, `Table.hasExpansion` — which fields have a column of either sort.
* `Table.mem_flatMap_ownColumns`, `Table.mem_flatMap_expansions` — these are the columns that come
  with the fields that are joined.
* `nodup_flatMap_columnNames_iff` — when their names are distinct.
* `compile_recordColumns_distinct_iff` — the names of all columns that a compilation adds.
-/

namespace LinkedRecords

open Sql

/-- The items of `out` that come behind those of `base`. -/
def Compiled.addedItems (out : Compiled) (base : Query) : List SelectItem :=
  out.query.items.drop base.items.length

/-! ## Which fields have columns -/

namespace Table

variable (t : Table) (c : Catalog)

/-- Whether `field` is a relation of the table `t` that leads to a table. -/
def leads (field : FieldId) : Bool :=
  match t.kind? field with
  | some (.relation r) => t.reaches c r
  | _ => false

/-- Whether a record has a column under the id of the field `f`. -/
def hasColumn (f : Field) : Bool :=
  match f.kind with
  | .scalar _ | .attached _ (.lookup _) => false
  | .attachment => true
  | .relation r => t.reaches c r
  | .attached owner _ => t.leads c owner

/-- Whether a record has a column of values that the field `f` shows. -/
def hasExpansion (f : Field) : Bool :=
  match f.kind with
  | .scalar _ | .attachment => false
  | .relation r => t.reaches c r
  | .attached owner (.lookup _) => t.leads c owner
  | .attached .. => false

/-- The fields whose columns come with `field`, each under its own id. -/
def ownColumns (field : FieldId) : List FieldId :=
  match t.kind? field with
  | some (.relation _) => field :: (t.attachedTo field).numbers
  | _ => [field]

/-- The fields whose shown values come with `field`. -/
def expansions (field : FieldId) : List FieldId :=
  match t.kind? field with
  | some (.relation _) => field :: (t.attachedTo field).lookups.map (·.1)
  | _ => []

end Table

namespace AttachedFields

variable {fields : List Field} {owner id : FieldId}

theorem mem_lookups_iff {x : FieldId × List FieldId} :
    x ∈ (of fields owner).lookups ↔
      ∃ f ∈ fields, f.id = x.1 ∧ f.kind = .attached owner (.lookup x.2) := by
  rw [← mem_members_of]
  simp [members]

theorem mem_lookups_of :
    id ∈ (of fields owner).lookups.map (·.1) ↔
      ∃ f ∈ fields, f.id = id ∧ ∃ display, f.kind = .attached owner (.lookup display) := by
  rw [List.mem_map]
  constructor
  · rintro ⟨x, hx, rfl⟩
    rcases mem_lookups_iff.1 hx with ⟨f, hf, hid, hkind⟩
    exact ⟨f, hf, hid, x.2, hkind⟩
  · rintro ⟨f, hf, rfl, display, hkind⟩
    exact ⟨(f.id, display), mem_lookups_iff.2 ⟨f, hf, rfl, hkind⟩, rfl⟩

/-- The numbers of `owner` are the fields attached to it that are no lookups. -/
theorem mem_numbers_of :
    id ∈ (of fields owner).numbers ↔
      ∃ f ∈ fields, f.id = id ∧ ∃ shows, f.kind = .attached owner shows ∧
        ∀ display, shows ≠ .lookup display := by
  -- fields are added at the end, each behind those of its sort that came before it
  induction fields using List.reverseRecOn with
  | nil => simp [of, numbers]
  | append_singleton fields f ih =>
      have hadd : ∀ (a : AttachedFields) (shows : Attached), id ∈ (a.add f.id shows).numbers ↔
          id ∈ a.numbers ∨ f.id = id ∧ ∀ display, shows ≠ .lookup display := by
        intro a shows
        cases shows <;> grind [add, numbers]
      have hlast : (∃ g ∈ fields ++ [f], g.id = id ∧ ∃ shows, g.kind = .attached owner shows ∧
            ∀ display, shows ≠ .lookup display) ↔
          id ∈ (of fields owner).numbers ∨ f.id = id ∧ ∃ shows, shown? owner f = some shows ∧
            ∀ display, shows ≠ .lookup display := by
        simp only [List.mem_append, List.mem_singleton, or_and_right, exists_or, exists_eq_left,
          ih, shown?_eq_some_iff]
      rw [hlast, of_append_singleton]
      cases hshown : shown? owner f with
      | none => simp
      | some shows => simp [hadd]

end AttachedFields

namespace Table

variable {t : Table} {c : Catalog} {id : FieldId}

/-! ## The fields that are joined -/

theorem kind?_eq_some_iff {kind : FieldKind} :
    t.kind? id = some kind ↔ ∃ f ∈ t.schema.fields, f.id = id ∧ f.kind = kind := by
  rw [kind?, Option.map_eq_some_iff]
  simp only [t.field?_eq_some_iff, and_assoc]

theorem leads_iff :
    t.leads c id = true ↔ ∃ r, t.kind? id = some (.relation r) ∧ t.reaches c r = true := by
  rw [leads]
  split
  case h_1 r hkind => simp [hkind]
  case h_2 hkind => simpa using fun r hr => absurd hr (hkind r)

theorem leads_of_mem {f : Field} (hf : f ∈ t.schema.fields) {r : Relation}
    (hkind : f.kind = .relation r) (hreaches : t.reaches c r = true) : t.leads c f.id = true := by
  rw [leads_iff, kind?_of_mem hf, hkind]
  exact ⟨r, rfl, hreaches⟩

theorem isLive_iff :
    t.isLive c id = true ↔ t.kind? id = some .attachment ∨ t.leads c id = true := by
  rw [isLive, leads]
  cases t.kind? id with
  | none => simp
  | some kind => cases kind <;> simp

/-- A field `id` that is live is compiled itself. -/
theorem exists_head_of_isLive (h : t.isLive c id = true) :
    ∃ g ∈ t.schema.fields, g.id = id ∧ isHead g = true := by
  rcases isLive_iff.1 h with hkind | hleads
  · rcases kind?_eq_some_iff.1 hkind with ⟨g, hg, hid, hkind⟩
    exact ⟨g, hg, hid, by simp only [isHead, hkind]⟩
  · rcases leads_iff.1 hleads with ⟨r, hkind, -⟩
    rcases kind?_eq_some_iff.1 hkind with ⟨g, hg, hid, hkind⟩
    exact ⟨g, hg, hid, by simp only [isHead, hkind]⟩

/-- The fields of `t` that are joined, in the order in which they are compiled. -/
def joined (t : Table) (c : Catalog) : List FieldId := t.compileOrder.filter (t.isLive c)

theorem mem_joined_iff :
    id ∈ t.joined c ↔ t.kind? id = some .attachment ∨ t.leads c id = true := by
  rw [joined, List.mem_filter, isLive_iff]
  refine and_iff_right_of_imp fun h => ?_
  -- a field that is live is its own target, so it is compiled
  rcases exists_head_of_isLive (isLive_iff.2 h) with ⟨g, hg, rfl, hhead⟩
  have htarget : g.target? = some g.id := target?_eq_some_iff.2 (.inl ⟨hhead, rfl⟩)
  exact List.mem_eraseDups.2 (List.mem_filterMap.2 ⟨g, hg, htarget⟩)

/-- No field comes with two of the fields in `t.joined c`. -/
theorem nodup_flatMap_joined (t : Table) (c : Catalog) :
    ((t.joined c).flatMap fun id => id :: (t.attachedTo id).ids).Nodup := by
  have hheads : ∀ id ∈ t.joined c, ∃ g ∈ t.schema.fields, g.id = id ∧ isHead g = true :=
    fun id hid => exists_head_of_isLive (isLive_iff.2 (mem_joined_iff.1 hid))
  -- the fields grouped by what they are compiled with are fields of the schema, whose ids are
  -- distinct
  have hall : ((t.compileOrder.flatMap fun id =>
      t.schema.fields.filter fun f => f.target? = some id).map (·.id)).Nodup := by
    rw [((flatMap_families_perm t).map _).nodup_iff]
    exact t.schema.distinct.sublist (List.filter_sublist.map _)
  rw [(flatMap_ids_perm hheads).nodup_iff]
  exact hall.sublist ((List.filter_sublist.flatMap _).map _)

/-! ## The columns that come with them -/

theorem ownColumns_sublist (t : Table) (id : FieldId) :
    (t.ownColumns id).Sublist (id :: (t.attachedTo id).ids) := by
  rw [ownColumns]
  split
  · exact (AttachedFields.numbers_sublist_ids _).cons_cons id
  · exact (List.nil_sublist _).cons_cons id

theorem expansions_sublist (t : Table) (id : FieldId) :
    (t.expansions id).Sublist (id :: (t.attachedTo id).ids) := by
  rw [expansions]
  split
  · refine List.Sublist.cons_cons id ?_
    simp only [AttachedFields.ids, List.append_assoc]
    exact List.sublist_append_left ..
  · exact List.nil_sublist _

/-- What `columns` lists for the fields that are joined, it lists for a file field or for a relation
that leads to a table. -/
theorem mem_flatMap_joined_iff {columns : FieldId → List FieldId} :
    id ∈ (t.joined c).flatMap columns ↔
      ∃ f ∈ t.schema.fields, id ∈ columns f.id ∧
        (f.kind = .attachment ∨ ∃ r, f.kind = .relation r ∧ t.reaches c r = true) := by
  rw [List.mem_flatMap]
  constructor
  · rintro ⟨field, hfield, hid⟩
    rcases mem_joined_iff.1 hfield with hfiles | hleads
    · rcases kind?_eq_some_iff.1 hfiles with ⟨f, hf, rfl, hkind⟩
      exact ⟨f, hf, hid, .inl hkind⟩
    · rcases leads_iff.1 hleads with ⟨r, hrelation, hreaches⟩
      rcases kind?_eq_some_iff.1 hrelation with ⟨f, hf, rfl, hkind⟩
      exact ⟨f, hf, hid, .inr ⟨r, hkind, hreaches⟩⟩
  · rintro ⟨f, hf, hid, hkind | ⟨r, hkind, hreaches⟩⟩
    · exact ⟨f.id, mem_joined_iff.2 (.inl ((kind?_of_mem hf).trans (congrArg some hkind))), hid⟩
    · exact ⟨f.id, mem_joined_iff.2 (.inr (leads_of_mem hf hkind hreaches)), hid⟩

/-- The fields with a column are those in the `ownColumns` of a field that is joined. -/
theorem mem_flatMap_ownColumns :
    id ∈ (t.joined c).flatMap t.ownColumns ↔
      ∃ f ∈ t.schema.fields, t.hasColumn c f = true ∧ f.id = id := by
  rw [mem_flatMap_joined_iff]
  constructor
  · rintro ⟨f, hf, hid, hkind | ⟨r, hkind, hreaches⟩⟩
    · simp only [ownColumns, kind?_of_mem hf, hkind, List.mem_singleton] at hid
      exact ⟨f, hf, by simp only [hasColumn, hkind], hid.symm⟩
    · simp only [ownColumns, kind?_of_mem hf, hkind, List.mem_cons] at hid
      rcases hid with rfl | hid
      · exact ⟨f, hf, by simp only [hasColumn, hkind, hreaches], rfl⟩
      · -- what comes with a relation besides itself are the numbers attached to it
        rcases AttachedFields.mem_numbers_of.1 hid with ⟨g, hg, rfl, shows, hnumber, hshows⟩
        refine ⟨g, hg, ?_, rfl⟩
        cases shows with
        | lookup display => exact absurd rfl (hshows display)
        | count | sum | average =>
            simp only [hasColumn, hnumber, leads_of_mem hf hkind hreaches]
  · rintro ⟨f, hf, hcolumn, rfl⟩
    rcases hkind : f.kind with kind | _ | r | ⟨owner, shows⟩
    · simp [hasColumn, hkind] at hcolumn
    · exact ⟨f, hf, by simp [ownColumns, kind?_of_mem hf, hkind], .inl hkind⟩
    · simp only [hasColumn, hkind] at hcolumn
      exact ⟨f, hf, by simp [ownColumns, kind?_of_mem hf, hkind], .inr ⟨r, hkind, hcolumn⟩⟩
    · -- a number comes with its owner
      have hshows : (∀ display, shows ≠ .lookup display) ∧ t.leads c owner = true := by
        cases shows <;> simp_all [hasColumn]
      rcases leads_iff.1 hshows.2 with ⟨r, howner, hreaches⟩
      rcases kind?_eq_some_iff.1 howner with ⟨g, hg, rfl, hrelation⟩
      refine ⟨g, hg, ?_, .inr ⟨r, hrelation, hreaches⟩⟩
      simp only [ownColumns, howner]
      exact List.mem_cons_of_mem _
        (AttachedFields.mem_numbers_of.2 ⟨f, hf, rfl, shows, hkind, hshows.1⟩)

/-- The fields whose values are shown are those in the `expansions` of a field that is joined. -/
theorem mem_flatMap_expansions :
    id ∈ (t.joined c).flatMap t.expansions ↔
      ∃ f ∈ t.schema.fields, t.hasExpansion c f = true ∧ f.id = id := by
  rw [mem_flatMap_joined_iff]
  constructor
  · rintro ⟨f, hf, hid, hkind | ⟨r, hkind, hreaches⟩⟩
    · simp [expansions, kind?_of_mem hf, hkind] at hid
    · simp only [expansions, kind?_of_mem hf, hkind, List.mem_cons] at hid
      rcases hid with rfl | hid
      · exact ⟨f, hf, by simp only [hasExpansion, hkind, hreaches], rfl⟩
      · rcases AttachedFields.mem_lookups_of.1 hid with ⟨g, hg, rfl, display, hlookup⟩
        exact ⟨g, hg, by simp only [hasExpansion, hlookup, leads_of_mem hf hkind hreaches], rfl⟩
  · rintro ⟨f, hf, hexpansion, rfl⟩
    rcases hkind : f.kind with kind | _ | r | ⟨owner, shows⟩
    · simp [hasExpansion, hkind] at hexpansion
    · simp [hasExpansion, hkind] at hexpansion
    · simp only [hasExpansion, hkind] at hexpansion
      exact ⟨f, hf, by simp [expansions, kind?_of_mem hf, hkind], .inr ⟨r, hkind, hexpansion⟩⟩
    · -- a lookup comes with its owner
      have hshows : (∃ display, shows = .lookup display) ∧ t.leads c owner = true := by
        cases shows <;> simp_all [hasExpansion]
      rcases hshows with ⟨⟨display, rfl⟩, hleads⟩
      rcases leads_iff.1 hleads with ⟨r, howner, hreaches⟩
      rcases kind?_eq_some_iff.1 howner with ⟨g, hg, rfl, hrelation⟩
      refine ⟨g, hg, ?_, .inr ⟨r, hrelation, hreaches⟩⟩
      simp only [expansions, howner]
      exact List.mem_cons_of_mem _ (AttachedFields.mem_lookups_of.2 ⟨f, hf, rfl, display, hkind⟩)

/-! ## Their names -/

/-- The names of the columns that come with `field`, in order. -/
def columnNames (t : Table) (suffix : String) (field : FieldId) : List String :=
  match t.kind? field with
  | some (.relation _) => t.linkColumns suffix field
  | _ => [field.text]

theorem columnNames_perm (t : Table) (suffix : String) (field : FieldId) :
    (t.columnNames suffix field).Perm
      ((t.ownColumns field).map (·.text) ++ (t.expansions field).map (·.text ++ suffix)) := by
  rw [columnNames, ownColumns, expansions]
  split
  · simp only [linkColumns, AttachedFields.numbers, List.map_cons, List.map_append, List.map_map]
    -- the columns of a link are not listed sort by sort, so names are counted
    rw [List.perm_iff_count]
    intro name
    simp only [List.count_append, List.count_cons, List.count_nil, Function.comp_def]
    omega
  · exact .refl _

theorem Adds.outputNames_eq {options : Options} {fragment : Fragment}
    (h : t.Adds c options fragment) :
    fragment.items.map (·.outputName?) =
      (t.columnNames options.expandSuffix fragment.field).map some := by
  cases h with
  | @files field hkind =>
      have hnames : t.columnNames options.expandSuffix field = [field.text] := by
        simp only [columnNames, hkind]
      rw [outputNames_fileFragment]
      exact (congrArg (List.map some) hnames).symm
  | @link field r foreign layout l hkind hlink =>
      have hfield : (l.resolve r).field = field := by
        rw [Link.field_resolve, hlink.field_eq]
      have hresolves : (Scope.start c options t layout).Resolves field r foreign l := hlink.resolves
      rw [(Scope.linkShape_resolve hresolves).columns, hfield]
      simp only [columnNames, hkind]

end Table

/-- No name of a column comes twice, unless the field `f` is named like the shown values of the
field `g`. -/
theorem nodup_flatMap_columnNames_iff {t : Table} {c : Catalog} {suffix : String} :
    ((t.joined c).flatMap (t.columnNames suffix)).Nodup ↔
      ∀ f ∈ t.schema.fields, t.hasColumn c f = true →
        ∀ g ∈ t.schema.fields, t.hasExpansion c g = true → f.id.text ≠ g.id.text ++ suffix := by
  have hperm : ((t.joined c).flatMap (t.columnNames suffix)).Perm
      (((t.joined c).flatMap t.ownColumns).map (·.text) ++
        ((t.joined c).flatMap t.expansions).map (·.text ++ suffix)) := by
    rw [List.map_flatMap, List.map_flatMap]
    exact (List.Perm.flatMap_left _ fun field _ => t.columnNames_perm suffix field).trans
      (List.flatMap_append_perm ..).symm
  have hown : (((t.joined c).flatMap t.ownColumns).map (·.text)).Nodup := by
    refine List.Nodup.map ?_
      ((t.nodup_flatMap_joined c).sublist (.flatMap_right _ fun id _ => t.ownColumns_sublist id))
    rintro ⟨a⟩ ⟨b⟩ rfl
    rfl
  have hexpansions : (((t.joined c).flatMap t.expansions).map (·.text ++ suffix)).Nodup := by
    refine List.Nodup.map ?_
      ((t.nodup_flatMap_joined c).sublist (.flatMap_right _ fun id _ => t.expansions_sublist id))
    -- names with one suffix are the same just if the ids are
    rintro ⟨a⟩ ⟨b⟩ h
    exact congrArg FieldId.mk (String.append_left_inj suffix |>.1 h)
  -- columns of one sort have distinct names, so it is about one name for columns of both
  rw [hperm.nodup_iff, List.nodup_append]
  simp only [hown, hexpansions, true_and, List.forall_mem_map, Table.mem_flatMap_ownColumns,
    Table.mem_flatMap_expansions]
  constructor
  · intro h f hf hcolumn g hg hexpansion
    exact h f.id ⟨f, hf, hcolumn, rfl⟩ g.id ⟨g, hg, hexpansion, rfl⟩
  · rintro h _ ⟨f, hf, hcolumn, rfl⟩ _ ⟨g, hg, hexpansion, rfl⟩
    exact h f hf hcolumn g hg hexpansion

/-! ## All names -/

section Compile

variable {catalog : Catalog} {options : Options} {t : Table} {base : Query} {out : Compiled}

theorem Compiled.MadeOf.outputNames_addedItems {fragments : List Fragment}
    (h : out.MadeOf catalog options t base fragments) :
    (out.addedItems base).map (·.outputName?) =
      ((t.joined catalog).flatMap (t.columnNames options.expandSuffix)).map some := by
  have hnames : ∀ fragment ∈ fragments, fragment.items.map (·.outputName?) =
      (t.columnNames options.expandSuffix fragment.field).map some :=
    fun fragment hfragment => (h.adds fragment hfragment).outputNames_eq
  rw [Compiled.addedItems, h.query, List.drop_left, Table.joined, ← h.fields, List.map_flatMap,
    List.map_flatMap, List.flatMap_map]
  exact List.flatMap_congr hnames

/-- Every column that is added to `base` has a name, and the `names` are distinct just if no field
`f` with a column has the id of a field `g` whose values are shown, followed by their suffix. -/
theorem compile_recordColumns_distinct_iff (h : compile catalog options t base = .ok out) :
    ∃ names : List String, (out.addedItems base).map (·.outputName?) = names.map some ∧
      (names.Nodup ↔
        ∀ f ∈ t.schema.fields, t.hasColumn catalog f = true →
          ∀ g ∈ t.schema.fields, t.hasExpansion catalog g = true →
            f.id.text ≠ g.id.text ++ options.expandSuffix) := by
  rcases exists_madeOf h with ⟨fragments, hmade⟩
  exact ⟨_, hmade.outputNames_addedItems, nodup_flatMap_columnNames_iff⟩

end Compile

/-- The columns of a post have distinct names with the usual suffix. Without a suffix, the field
`tagged` has the name of its own shown values. -/
theorem compile_recordColumns_distinct_posts :
    (∃ out,
        compile Blog.registry.catalog {} Blog.posts (Options.baseQuery {} Blog.posts) = .ok out ∧
      ∃ names : List String,
        (out.addedItems (Options.baseQuery {} Blog.posts)).map (·.outputName?) = names.map some ∧
          names.Nodup) ∧
    ∃ out, compile Blog.registry.catalog { expandSuffix := "" } Blog.posts
        (Options.baseQuery {} Blog.posts) = .ok out ∧
      ∃ names : List String,
        (out.addedItems (Options.baseQuery {} Blog.posts)).map (·.outputName?) = names.map some ∧
          ¬names.Nodup := by
  have hcompiles : ∀ suffix ∈ ["_expand", ""], ((compile Blog.registry.catalog
      { expandSuffix := suffix } Blog.posts (Options.baseQuery {} Blog.posts)).map
        (·.dialect)) = .ok .sqlite := by decide +kernel
  constructor
  · rcases map_eq_ok.1 (hcompiles "_expand" (by simp)) with ⟨out, h, -⟩
    rcases compile_recordColumns_distinct_iff h with ⟨names, hnames, hiff⟩
    refine ⟨out, h, names, hnames, hiff.2 ?_⟩
    decide +kernel
  · rcases map_eq_ok.1 (hcompiles "" (by simp)) with ⟨out, h, -⟩
    rcases compile_recordColumns_distinct_iff h with ⟨names, hnames, hiff⟩
    refine ⟨out, h, names, hnames, ?_⟩
    rw [hiff]
    decide +kernel

end LinkedRecords
