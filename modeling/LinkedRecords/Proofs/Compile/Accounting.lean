import LinkedRecords.Proofs.Compile.Fragments
import LinkedRecords.Validation
import Mathlib.Data.List.Perm.Basic

/-! # Every field is accounted for

A compilation adds one fragment for each field that is joined and reports each relation that is left
out, in the order in which they are first met. Nothing is added twice, refused or lost: the ids of
the fields in the query and of those reported are together the ids of all fields that are not plain.

* `Table.compileOrder`, `Table.isLive` — which fields are compiled, and which of them are joined.
* `Account` — how a compiled query accounts for the fields of its table.
* `Scope.fields_of_entries`, `Scope.stale_ofEntries` — fragments and reports stand in that order.
* `Table.flatMap_compileOrder_perm` — the fields grouped by what they are compiled with.
* `compile_account` — the main statement, about every compilation that succeeds.
-/

namespace LinkedRecords

open Sql

/-! ## What is compiled, in which order -/

namespace Field

/-- The field that is compiled where `f` is met: `f` itself, or the one it is attached to. -/
def target? (f : Field) : Option FieldId :=
  match f.kind with
  | .scalar _ => none
  | .attachment | .relation _ => some f.id
  | .attached owner _ => some owner

/-- Whether `f` holds a plain value, so that there is nothing to compile. -/
def isPlain (f : Field) : Bool :=
  match f.kind with
  | .scalar _ => true
  | _ => false

end Field

namespace Table

variable (t : Table) (c : Catalog)

/-- The ids of the fields of `t` that are compiled, in the order in which they are first met. -/
def compileOrder : List FieldId := (t.schema.fields.filterMap (·.target?)).eraseDups

/-- The fields of `t` that are attached to `field`. -/
def attachedTo (field : FieldId) : AttachedFields := .of t.schema.fields field

/-- The kind of the field of `t` whose id is `field`. -/
def kind? (field : FieldId) : Option FieldKind := (t.field? field).map (·.kind)

/-- Whether the relation `r` leads to `t` itself, or to a table that is there and not deleted. -/
def reaches (r : Relation) : Bool :=
  r.foreignTable t.id = t.id || (c.table? (r.foreignTable t.id)).any (!·.deleted)

/-- Whether the field is joined to the query: an attachment, or a relation that reaches a table. -/
def isLive (field : FieldId) : Bool :=
  match t.kind? field with
  | some .attachment => true
  | some (.relation r) => t.reaches c r
  | _ => false

/-- What is reported for the relation `field` if it is left out: itself, with what is attached to
it. -/
def staleFields (field : FieldId) : List StaleField :=
  match t.kind? field with
  | some (.relation r) =>
    (field :: (t.attachedTo field).ids).map (⟨·, field, r.foreignTable t.id⟩)
  | _ => []

/-- The columns that the relation `field` adds to the record, in order. -/
def linkColumns (suffix : String) (field : FieldId) : List String :=
  let attached := t.attachedTo field
  [field.text, field.text ++ suffix] ++ attached.lookups.map (·.1.text ++ suffix) ++
    attached.counts.map (·.text) ++ attached.sums.map (·.1.text) ++
    attached.averages.map (·.1.text)

end Table

/-! ## The account -/

/-- The `fragment` of the relation `r`: one join under its alias, and its columns read from
there. -/
structure LinkShape (catalog : Catalog) (options : Options) (t : Table) (r : Relation)
    (fragment : Fragment) : Prop where
  qualifier : fragment.join.target.qualifier? = some ("uta_" ++ fragment.field.text)
  items : ∃ foreign, t.foreign? catalog r = some foreign ∧
    let label := "uta_" ++ fragment.field.text
    let attached := t.attachedTo fragment.field
    fragment.items =
      .named (.of label fragment.field.text) fragment.field.text ::
        expandItem fragment.field (r.displayIds foreign) label
          (fragment.field.text ++ options.expandSuffix) ::
        (attached.lookups.map (fun l =>
            expandItem l.1 l.2 label (l.1.text ++ options.expandSuffix)) ++
          attached.counts.map (AttachedFields.countItem options label) ++
          attached.sums.map (fun x => AttachedFields.valueItem label x.1) ++
          attached.averages.map (fun x => AttachedFields.valueItem label x.1))
  /-- The names of the columns are those that `linkColumns` spells. -/
  columns : fragment.items.map (·.outputName?) =
    (t.linkColumns options.expandSuffix fragment.field).map some

/-- How the compiled query `out` accounts for the fields of `t`, with the fragments that were
added. -/
structure Account (catalog : Catalog) (options : Options) (t : Table) (base : Query)
    (out : Compiled) (fragments : List Fragment) : Prop where
  /-- The query `base` is kept, with the fragments behind it. -/
  query : out.query = { base with
    items := base.items ++ fragments.flatMap (·.items)
    joins := base.joins ++ fragments.map (·.join) }
  /-- There is one fragment for each field that is live, in the order of `compileOrder`. -/
  joined : fragments.map (·.field) = t.compileOrder.filter (t.isLive catalog)
  /-- The fragment of an attachment is `fileFragment`. -/
  files : ∀ fragment ∈ fragments, t.kind? fragment.field = some .attachment →
    fragment = fileFragment options fragment.field
  /-- The fragment of a relation has the shape that `LinkShape` tells. -/
  links : ∀ fragment ∈ fragments, ∀ r, t.kind? fragment.field = some (.relation r) →
    LinkShape catalog options t r fragment
  /-- Each field that is not live is reported with what is attached to it. -/
  stale : out.stale =
    (t.compileOrder.filter fun id => !t.isLive catalog id).flatMap t.staleFields
  /-- Whenever a field that is live is first met, its fragment is accepted. -/
  accepted : ∀ layout, catalog.layout? t.id = some layout → ∀ done f rest p p',
    t.schema.fields = done ++ f :: rest →
    done.foldlM (Scope.start catalog options t layout).visit {} = .ok p →
    (Scope.start catalog options t layout).visit p f = .ok p' →
    ∀ id ∈ p'.visited.ids, id ∉ p.visited.ids → t.isLive catalog id →
      ∃ fragment ∈ fragments, fragment.field = id ∧
        p.assembly.push fragment = (true, p'.assembly)
  /-- No two joins have the same alias. -/
  aliases : (fragments.map (·.join.target.qualifier?)).Nodup
  /-- Every field that is not plain is in the query or reported, and only once. -/
  once : ((fragments.flatMap fun f => f.field :: (t.attachedTo f.field).ids) ++
      out.stale.map (·.field)).Perm
    ((t.schema.fields.filter (!·.isPlain)).map (·.id))

theorem outputNames_fileFragment (options : Options) (field : FieldId) :
    (fileFragment options field).items.map (·.outputName?) = [some field.text] := rfl

/-- The fragment of an attachment field adds one column, which is named after the field, and joins
its files under an alias that is spelled from the field and `options.files.table`. -/
theorem Account.files_shape {catalog : Catalog} {options : Options} {t : Table} {base : Query}
    {out : Compiled} {fragments : List Fragment}
    (h : Account catalog options t base out fragments) {fragment : Fragment}
    (hfragment : fragment ∈ fragments) (hkind : t.kind? fragment.field = some .attachment) :
    fragment.items.map (·.outputName?) = [some fragment.field.text] ∧
      fragment.join.target.qualifier? =
        some ("r_" ++ fragment.field.text ++ "_" ++ options.files.table) := by
  rw [h.files fragment hfragment hkind]
  exact ⟨outputNames_fileFragment options fragment.field, rfl⟩

/-! ## The entries of a compilation -/

namespace Scope

variable {catalog : Catalog} {options : Options} {t : Table} {layout : Layout}

theorem foreign?_start (r : Relation) :
    (start catalog options t layout).foreign? (r.foreignTable t.id) =
      if t.reaches catalog r then t.foreign? catalog r else none := by
  -- a relation to the own table is followed even if the table is marked deleted
  by_cases hself : r.foreignTable t.id = t.id
  · simp [foreign?, start, Table.reaches, Table.foreign?, hself]
  · cases htable : catalog.table? (r.foreignTable t.id) with
    | none =>
        simp [foreign?, start, Table.reaches, hself, Catalog.isDeleted, htable]
    | some foreign =>
        cases hdeleted : foreign.deleted <;>
          simp [foreign?, start, Table.reaches, Table.foreign?, hself, Catalog.isDeleted, htable,
            hdeleted]

theorem isSome_foreign?_start (r : Relation) :
    ((start catalog options t layout).foreign? (r.foreignTable t.id)).isSome =
      t.reaches catalog r := by
  rw [foreign?_start]
  by_cases hself : r.foreignTable t.id = t.id
  · simp [Table.reaches, Table.foreign?, hself]
  · cases htable : catalog.table? (r.foreignTable t.id) with
    | none => simp [Table.reaches, hself, htable]
    | some foreign =>
        cases hdeleted : foreign.deleted <;>
          simp [Table.reaches, Table.foreign?, hself, htable, hdeleted]

theorem foreign?_start_eq_some {r : Relation} {foreign : Table} :
    (start catalog options t layout).foreign? (r.foreignTable t.id) = some foreign ↔
      t.reaches catalog r = true ∧ t.foreign? catalog r = some foreign := by
  rw [foreign?_start]
  cases t.reaches catalog r <;> simp

theorem target_of_check {s : Scope} {f : Field} {e : Option Entry} (h : s.check f = .ok e) :
    e.map (·.1.field) = f.target? := by
  rcases bind_eq_ok.1 h with ⟨task, htask, hrest⟩
  have htarget : task.map (·.field) = f.target? := by
    rcases hkind : f.kind with kind | _ | r | ⟨owner, shows⟩
    · simp_all [task?, Field.target?]
    · simp only [task?, hkind, Except.ok.injEq] at htask
      simp [← htask, Field.target?, hkind, Task.field]
    · simp only [task?, hkind, Except.ok.injEq] at htask
      simp [← htask, Field.target?, hkind, Task.field]
    · -- an attached field leads to its owner, which is found under the id that it names
      cases howner : s.table.field? owner with
      | none => simp [task?, hkind, howner] at htask
      | some o =>
          cases hr : o.relation? with
          | none => simp [task?, hkind, howner, hr] at htask
          | some r =>
              simp only [task?, hkind, howner, hr, Except.ok.injEq] at htask
              subst htask
              simp [Field.target?, hkind, Task.field, (s.table.field?_eq_some_iff.1 howner).2]
  cases task with
  | none =>
      cases hrest
      exact htarget
  | some task =>
      rcases bind_eq_ok.1 hrest with ⟨o, -, hpure⟩
      cases hpure
      exact htarget

/-- The entries `es` of a walk stand in the order in which their fields are first met. -/
theorem fields_of_entries {s : Scope} {es : List (Option Entry)}
    (h : s.table.schema.fields.mapM s.check = .ok es) :
    es.reduceOption.eraseDups.map (·.1.field) = s.table.compileOrder := by
  have htargets : es.map (Option.map (·.1.field)) = s.table.schema.fields.map (·.target?) := by
    generalize s.table.schema.fields = fields at h
    induction mapM_eq_ok.1 h with
    | nil => rfl
    | cons hcheck hrest ih =>
        rw [List.map_cons, List.map_cons, target_of_check hcheck, ih (mapM_eq_ok.2 hrest)]
  have hmap : es.reduceOption.map (·.1.field) = s.table.schema.fields.filterMap (·.target?) := by
    rw [← List.reduceOption_map, htargets, List.reduceOption, List.filterMap_map]
    rfl
  have hyields := yields_of_mapM h
  -- entries are told apart by their fields, so the first of each field is the first of each entry
  rw [Table.compileOrder, ← hmap, eraseDups_map]
  exact fun a ha b hb => (hyields a ha).unique (hyields b hb)

theorem Yields.kind? {s : Scope} {e : Entry} (h : s.Yields e) :
    s.table.kind? e.1.field = some e.1.kind := by
  rcases h with ⟨f, hf, hcheck⟩
  rcases s.exists_field_of_task hf (check_eq_ok.1 hcheck).1 with ⟨g, hg, hid, hkind⟩
  rw [Table.kind?, s.table.field?_eq_some_iff.2 ⟨hg, hid⟩, Option.map_some, hkind]

theorem Yields.perform {s : Scope} {e : Entry} (h : s.Yields e) : s.perform e.1 = .ok e.2 := by
  rcases h with ⟨f, -, hcheck⟩
  exact (check_eq_ok.1 hcheck).2

/-- The field of the entry `e` is joined if it is live, and is reported as stale otherwise. -/
theorem Yields.outcome {e : Entry} (h : (start catalog options t layout).Yields e) :
    (e.2.fragment?).map (·.field) =
        (if t.isLive catalog e.1.field then some e.1.field else none) ∧
      e.2.staleFields =
        if t.isLive catalog e.1.field then [] else t.staleFields e.1.field := by
  have hkind : t.kind? e.1.field = some e.1.kind := h.kind?
  have hperform := h.perform
  rcases e with ⟨task, o⟩
  -- files are always joined; a relation is joined just if it reaches a table
  cases task with
  | files field =>
      have hlive : t.isLive catalog field = true := by
        simp only [Table.isLive, show t.kind? field = some .attachment from hkind]
      cases hperform
      simp [Task.field, hlive, Outcome.fragment?, Outcome.staleFields, fileFragment]
  | relation field r =>
      have hkind' : t.kind? field = some (.relation r) := hkind
      have hlive : t.isLive catalog field = t.reaches catalog r := by
        simp only [Table.isLive, hkind']
      cases o with
      | joined fragment =>
          rcases perform_relation_joined hperform with ⟨foreign, link, hlink, rfl⟩
          have hreaches := (foreign?_start_eq_some.1 hlink.leads).1
          simp [Task.field, hlive, hreaches, Outcome.fragment?, Outcome.staleFields,
            (h.field_label rfl).1]
      | stale fields =>
          rcases perform_relation_stale hperform with ⟨hforeign, rfl⟩
          have hreaches : ((start catalog options t layout).foreign?
              (r.foreignTable t.id)).isSome = t.reaches catalog r := isSome_foreign?_start r
          rw [table_start] at hforeign
          rw [hforeign] at hreaches
          simp [Task.field, hlive, ← hreaches, Outcome.fragment?, Outcome.staleFields,
            Table.staleFields, hkind', Scope.staleFields, Table.attachedTo]

theorem linkShape_resolve {field : FieldId} {r : Relation} {foreign : Table} {link : Link}
    (h : (start catalog options t layout).Resolves field r foreign link) :
    LinkShape catalog options t r (link.resolve r) := by
  have hforeign := (foreign?_start_eq_some.1 h.leads).2
  rcases h.built with ⟨foreignLayout, -, hlink⟩
  rcases Link.ofRelation_eq_ok.1 hlink with ⟨columns, -, rfl⟩
  -- the alias, the items and their names can be read off the link
  refine ⟨?_, ⟨foreign, hforeign, ?_⟩, ?_⟩
  · simp [Link.qualifier?_resolve, Link.field_resolve, Link.linksAlias, Naming.linksAlias]
  · simp [Link.items_resolve, Link.field_resolve, Link.linksAlias, Naming.linksAlias,
      Naming.expandColumn, AttachedFields.projections, Table.attachedTo, Function.comp_def]
  · simp [Link.items_resolve, Link.field_resolve, Link.linksAlias, Table.linkColumns,
      Naming.expandColumn, AttachedFields.projections, AttachedFields.countItem,
      AttachedFields.valueItem, expandItem, SelectItem.named, SelectItem.outputName?,
      Table.attachedTo, Function.comp_def]

/-- A `fragment` among `entries` that the table yields is that of the files of its field, or that of
the link of its field, which then is a relation. -/
theorem cases_of_mem_fragmentsOf {entries : List Entry}
    (h : ∀ e ∈ entries, (start catalog options t layout).Yields e) {fragment : Fragment}
    (hfragment : fragment ∈ fragmentsOf entries) :
    (t.kind? fragment.field = some .attachment ∧ fragment = fileFragment options fragment.field) ∨
      ∃ r foreign link, t.kind? fragment.field = some (.relation r) ∧
        (start catalog options t layout).Resolves fragment.field r foreign link ∧
          fragment = link.resolve r := by
  rcases fragment_of_mem_fragmentsOf hfragment with ⟨⟨task, o⟩, he, rfl⟩
  have hyield := h _ he
  have hfield : fragment.field = task.field := (hyield.field_label rfl).1
  have hkind : t.kind? fragment.field = some task.kind := by
    rw [hfield]
    exact hyield.kind?
  have hperform := hyield.perform
  cases task with
  | files field =>
      cases hperform
      exact .inl ⟨hkind, rfl⟩
  | relation field r =>
      obtain rfl : fragment.field = field := hfield
      rcases perform_relation_joined hperform with ⟨foreign, link, hlink, heq⟩
      exact .inr ⟨r, foreign, link, hkind, hlink, heq⟩

/-- The alias under which a `fragment` joins its query is its label. -/
theorem qualifier?_of_mem_fragmentsOf {entries : List Entry}
    (h : ∀ e ∈ entries, (start catalog options t layout).Yields e) {fragment : Fragment}
    (hfragment : fragment ∈ fragmentsOf entries) :
    fragment.join.target.qualifier? = some fragment.label := by
  rcases cases_of_mem_fragmentsOf h hfragment with ⟨-, hfiles⟩ | ⟨r, foreign, link, -, -, hlink⟩
  · rw [hfiles]
    rfl
  · rw [hlink, Link.qualifier?_resolve, Link.label_resolve]

theorem fields_fragmentsOf {entries : List Entry}
    (h : ∀ e ∈ entries, (start catalog options t layout).Yields e) :
    (fragmentsOf entries).map (·.field) =
      (entries.eraseDups.map (·.1.field)).filter (t.isLive catalog) := by
  have hdistinct : ∀ e ∈ entries.eraseDups, (start catalog options t layout).Yields e :=
    fun e he => h e (List.mem_eraseDups.1 he)
  rw [fragmentsOf]
  -- only that each entry is yielded counts from here on, so the list is arbitrary
  generalize entries.eraseDups = es at hdistinct
  induction es with
  | nil => rfl
  | cons e es ih =>
      have hfield := (hdistinct e List.mem_cons_self).outcome.1
      have htail := ih fun x hx => hdistinct x (List.mem_cons_of_mem e hx)
      rw [List.map_cons, List.filter_cons, List.filterMap_cons]
      by_cases hlive : t.isLive catalog e.1.field = true
      · rw [if_pos hlive] at hfield ⊢
        rcases Option.map_eq_some_iff.1 hfield with ⟨fragment, hfragment, hid⟩
        rw [hfragment, List.map_cons, hid, htail]
      · rw [if_neg hlive] at hfield ⊢
        rw [Option.map_eq_none_iff.1 hfield, htail]

theorem stale_ofEntries {entries : List Entry}
    (h : ∀ e ∈ entries, (start catalog options t layout).Yields e) :
    (Progress.ofEntries entries).stale =
      ((entries.eraseDups.map (·.1.field)).filter fun id => !t.isLive catalog id).flatMap
        t.staleFields := by
  have hdistinct : ∀ e ∈ entries.eraseDups, (start catalog options t layout).Yields e :=
    fun e he => h e (List.mem_eraseDups.1 he)
  rw [Progress.ofEntries, Progress.stale_foldl_record]
  generalize entries.eraseDups = es at hdistinct
  induction es with
  | nil => rfl
  | cons e es ih =>
      have hstale := (hdistinct e List.mem_cons_self).outcome.2
      have htail := ih fun x hx => hdistinct x (List.mem_cons_of_mem e hx)
      rw [List.nil_append] at htail ⊢
      rw [List.map_cons, List.filter_cons, List.flatMap_cons, htail, hstale]
      by_cases hlive : t.isLive catalog e.1.field = true
      · simp [hlive]
      · simp [hlive]

end Scope

/-! ## Each field once -/

namespace Table

variable {t : Table}

theorem nodup_compileOrder (t : Table) : t.compileOrder.Nodup := nodup_eraseDups _

theorem kind?_of_mem {f : Field} (hf : f ∈ t.schema.fields) : t.kind? f.id = some f.kind := by
  rw [kind?, t.field?_eq_some_iff.2 ⟨hf, rfl⟩, Option.map_some]

/-- Every relation `f` of the table is compiled. -/
theorem mem_compileOrder {f : Field} (hf : f ∈ t.schema.fields) {r : Relation}
    (hkind : f.kind = .relation r) : f.id ∈ t.compileOrder := by
  have htarget : f.target? = some f.id := by
    simp only [Field.target?, hkind]
  exact List.mem_eraseDups.2 (List.mem_filterMap.2 ⟨f, hf, htarget⟩)

/-- Whether `f` is compiled itself, and not with the field that it is attached to. -/
def isHead (f : Field) : Bool :=
  match f.kind with
  | .attachment | .relation _ => true
  | _ => false

theorem target?_eq_some_iff {f : Field} {id : FieldId} :
    f.target? = some id ↔ isHead f = true ∧ f.id = id ∨ f.kind.owner? = some id := by
  rcases hkind : f.kind with kind | _ | r | ⟨owner, shows⟩ <;>
    simp [Field.target?, isHead, FieldKind.owner?, hkind]

theorem isSome_target? (f : Field) : f.target?.isSome = !f.isPlain := by
  rcases hkind : f.kind with kind | _ | r | ⟨owner, shows⟩ <;>
    simp [Field.target?, Field.isPlain, hkind]

theorem ids_attachedTo_perm (t : Table) (field : FieldId) :
    (t.attachedTo field).ids.Perm
      ((t.schema.fields.filter fun f => f.kind.owner? = some field).map (·.id)) := by
  have h := AttachedFields.ids_of_perm t.schema.fields field
  simp only [AttachedFields.isSome_shown?] at h
  exact h

/-- A field `g` that is compiled, with those attached to it, are the fields whose target is `g`. -/
theorem family_perm {g : Field} (hg : g ∈ t.schema.fields) (hhead : isHead g = true) :
    (g :: t.schema.fields.filter fun f => f.kind.owner? = some g.id).Perm
      (t.schema.fields.filter fun f => f.target? = some g.id) := by
  have hnodup : t.schema.fields.Nodup := t.schema.distinct.of_map
  have hnew : g ∉ t.schema.fields.filter fun f => f.kind.owner? = some g.id := by
    -- a field that is compiled is attached to none, so not to itself
    intro h
    have howner : g.kind.owner? = some g.id := by simpa using (List.mem_filter.1 h).2
    rcases hkind : g.kind with kind | _ | r | ⟨owner, shows⟩ <;>
      simp [hkind, isHead, FieldKind.owner?] at howner hhead
  -- neither list has a field twice, so it is enough that they have the same members
  rw [List.perm_ext_iff_of_nodup (List.nodup_cons.2 ⟨hnew, hnodup.filter _⟩) (hnodup.filter _)]
  intro f
  simp only [List.mem_cons, List.mem_filter, decide_eq_true_eq, target?_eq_some_iff]
  constructor
  · rintro (rfl | ⟨hf, howner⟩)
    · exact ⟨hg, .inl ⟨hhead, rfl⟩⟩
    · exact ⟨hf, .inr howner⟩
  · rintro ⟨hf, ⟨-, hid⟩ | howner⟩
    · exact .inl (t.schema.eq_of_id_eq hf hg hid)
    · exact .inr ⟨hf, howner⟩

/-- The ids of `g` and of the fields attached to it are those of the fields whose target is `g`. -/
theorem family_ids_perm {g : Field} (hg : g ∈ t.schema.fields) (hhead : isHead g = true) :
    (g.id :: (t.attachedTo g.id).ids).Perm
      ((t.schema.fields.filter fun f => f.target? = some g.id).map (·.id)) :=
  ((ids_attachedTo_perm t g.id).cons g.id).trans ((family_perm hg hhead).map Field.id)

/-- For several fields `ids` that are compiled, the ids of all of them and of what is attached to
them are those of the fields whose target is among `ids`. -/
theorem flatMap_ids_perm {ids : List FieldId}
    (hheads : ∀ id ∈ ids, ∃ g ∈ t.schema.fields, g.id = id ∧ isHead g = true) :
    (ids.flatMap fun id => id :: (t.attachedTo id).ids).Perm
      ((ids.flatMap fun id => t.schema.fields.filter fun f => f.target? = some id).map (·.id)) := by
  rw [List.map_flatMap]
  -- the fields of one target are those of `family_ids_perm`, target by target
  refine List.Perm.flatMap_left _ fun id hid => ?_
  rcases hheads id hid with ⟨g, hg, rfl, hhead⟩
  exact family_ids_perm hg hhead

/-- Grouped by their targets, the fields of `t` are all fields but the plain ones. -/
theorem flatMap_families_perm (t : Table) :
    (t.compileOrder.flatMap fun id => t.schema.fields.filter fun f => f.target? = some id).Perm
      (t.schema.fields.filter (!·.isPlain)) := by
  have hnodup : t.schema.fields.Nodup := t.schema.distinct.of_map
  have hfamilies : (t.compileOrder.flatMap fun id =>
      t.schema.fields.filter fun f => f.target? = some id).Nodup := by
    rw [List.nodup_flatMap]
    refine ⟨fun id _ => hnodup.filter _, (nodup_compileOrder t).imp ?_⟩
    -- a field is compiled with one other at most, so the groups are disjoint
    intro a b hne f ha hb
    have ha' : f.target? = some a := by simpa using (List.mem_filter.1 ha).2
    have hb' : f.target? = some b := by simpa using (List.mem_filter.1 hb).2
    exact hne (Option.some.inj (ha'.symm.trans hb'))
  rw [List.perm_ext_iff_of_nodup hfamilies (hnodup.filter _)]
  intro f
  simp only [List.mem_flatMap, List.mem_filter, decide_eq_true_eq, compileOrder, List.mem_eraseDups,
    List.mem_filterMap, ← isSome_target?, Option.isSome_iff_exists]
  constructor
  · rintro ⟨id, -, hf, hid⟩
    exact ⟨hf, id, hid⟩
  · rintro ⟨hf, id, hid⟩
    exact ⟨id, ⟨f, hf, hid⟩, hf, hid⟩

/-- If every field of `compileOrder` is compiled itself, the compiled fields with those attached to
them are all fields but the plain ones. -/
theorem flatMap_compileOrder_perm
    (hheads : ∀ id ∈ t.compileOrder, ∃ g ∈ t.schema.fields, g.id = id ∧ isHead g = true) :
    (t.compileOrder.flatMap fun id => id :: (t.attachedTo id).ids).Perm
      ((t.schema.fields.filter (!·.isPlain)).map (·.id)) :=
  (flatMap_ids_perm hheads).trans ((flatMap_families_perm t).map (·.id))

end Table

/-! ## The account of a compilation -/

namespace Scope

variable {catalog : Catalog} {options : Options} {t : Table} {layout : Layout}

/-- If the table can be compiled, every field of `compileOrder` is compiled itself. -/
theorem head_of_mem_compileOrder {s : Scope} {es : List (Option Entry)}
    (h : s.table.schema.fields.mapM s.check = .ok es) {id : FieldId}
    (hid : id ∈ s.table.compileOrder) :
    ∃ g ∈ s.table.schema.fields, g.id = id ∧ Table.isHead g = true := by
  rw [← fields_of_entries h] at hid
  rcases List.mem_map.1 hid with ⟨e, he, rfl⟩
  rcases yields_of_mapM h e (List.mem_eraseDups.1 he) with ⟨f, hf, hcheck⟩
  rcases s.exists_field_of_task hf (check_eq_ok.1 hcheck).1 with ⟨g, hg, hgid, hkind⟩
  refine ⟨g, hg, hgid, ?_⟩
  cases htask : e.1 <;> simp [Table.isHead, hkind, htask, Task.kind]

/-- What is in the query and what is stale are together the ids of all fields but the plain ones. -/
theorem once_of_entries {es : List (Option Entry)}
    (h : t.schema.fields.mapM (start catalog options t layout).check = .ok es) :
    (((fragmentsOf es.reduceOption).flatMap fun f => f.field :: (t.attachedTo f.field).ids) ++
        (Progress.ofEntries es.reduceOption).stale.map (·.field)).Perm
      ((t.schema.fields.filter (!·.isPlain)).map (·.id)) := by
  have hyields : ∀ e ∈ es.reduceOption, (start catalog options t layout).Yields e :=
    yields_of_mapM h
  have horder : es.reduceOption.eraseDups.map (·.1.field) = t.compileOrder :=
    fields_of_entries h
  have hheads : ∀ id ∈ t.compileOrder, ∃ g ∈ t.schema.fields, g.id = id ∧ Table.isHead g = true :=
    fun id hid => head_of_mem_compileOrder (s := start catalog options t layout) h hid
  have hjoined : ((fragmentsOf es.reduceOption).flatMap fun f =>
      f.field :: (t.attachedTo f.field).ids) =
        (t.compileOrder.filter (t.isLive catalog)).flatMap
          fun id => id :: (t.attachedTo id).ids := by
    rw [← horder, ← fields_fragmentsOf hyields, List.flatMap_map]
  have hstale : (Progress.ofEntries es.reduceOption).stale.map (·.field) =
      (t.compileOrder.filter fun id => !t.isLive catalog id).flatMap
        fun id => id :: (t.attachedTo id).ids := by
    rw [stale_ofEntries hyields, horder, List.map_flatMap]
    refine List.flatMap_congr fun id hid => ?_
    rcases List.mem_filter.1 hid with ⟨hmem, hlive⟩
    rcases hheads id hmem with ⟨g, hg, rfl, hhead⟩
    have hkind : t.kind? g.id = some g.kind := by
      rw [Table.kind?, t.field?_eq_some_iff.2 ⟨hg, rfl⟩, Option.map_some]
    -- what is compiled but left out is a relation, since files are always live
    rcases hgk : g.kind with kind | _ | r | ⟨owner, shows⟩
    · simp [Table.isHead, hgk] at hhead
    · simp [Table.isLive, hkind, hgk] at hlive
    · simp [Table.staleFields, hkind, hgk, Function.comp_def]
    · simp [Table.isHead, hgk] at hhead
  -- live and stale fields are the two halves of `compileOrder`
  rw [hjoined, hstale, ← List.flatMap_append]
  exact ((List.filter_append_perm _ _).flatMap_right _).trans
    (Table.flatMap_compileOrder_perm hheads)

/-- Where a walk first meets the live field `id`, the fragment of the field is accepted. -/
theorem push_of_visit {done rest : List Field} {f : Field} {p p' : Progress}
    (hfields : t.schema.fields = done ++ f :: rest)
    (hp : done.foldlM (start catalog options t layout).visit {} = .ok p)
    (hp' : (start catalog options t layout).visit p f = .ok p') {id : FieldId}
    (hid : id ∈ p'.visited.ids) (hnew : id ∉ p.visited.ids) (hlive : t.isLive catalog id = true) :
    ∃ fragment task,
      (start catalog options t layout).check f = .ok (some (task, .joined fragment)) ∧
      fragment.field = id ∧ p.assembly.push fragment = (true, p'.assembly) := by
  have hmem : ∀ g ∈ done, g ∈ (start catalog options t layout).table.schema.fields := by
    intro g hg
    rw [table_start, hfields]
    exact List.mem_append_left _ hg
  have hf : f ∈ (start catalog options t layout).table.schema.fields := by
    rw [table_start, hfields]
    exact List.mem_append_right _ List.mem_cons_self
  -- the visits before this one have left entries, and this visit adds one more
  rcases entries_of_visits hmem hp with ⟨entries, hyields, rfl⟩
  rcases entry_of_visit hf hyields hp' hid hnew with ⟨e, hcheck, hseen, hfield, rfl⟩
  have hyields' : ∀ x ∈ entries ++ [e], (start catalog options t layout).Yields x := by
    intro x hx
    rcases List.mem_append.1 hx with hx | hx
    · exact hyields x hx
    · exact ⟨f, hf, by rw [List.mem_singleton.1 hx, hcheck]⟩
  -- the field is live, so its entry is a fragment, and one with a new alias
  have houtcome := (hyields' e (by simp)).outcome.1
  rw [hfield, if_pos hlive] at houtcome
  rcases e with ⟨task, o⟩
  cases o with
  | stale fields => cases houtcome
  | joined fragment =>
      refine ⟨fragment, task, hcheck, Option.some.inj houtcome, ?_⟩
      rw [assembly_ofEntries hyields, assembly_ofEntries hyields', push_fragmentsOf hyields' hseen]

end Scope

/-- Every compiled query `out` accounts for the fields of its table `t`. -/
theorem compile_account {catalog : Catalog} {options : Options} {t : Table} {base : Query}
    {out : Compiled} (h : compile catalog options t base = .ok out) :
    ∃ fragments, Account catalog options t base out fragments := by
  rcases compile_eq_ok.1 h with ⟨layout, es, hlayout, hes, rfl⟩
  have hyields : ∀ e ∈ es.reduceOption, (Scope.start catalog options t layout).Yields e :=
    Scope.yields_of_mapM hes
  have horder : es.reduceOption.eraseDups.map (·.1.field) = t.compileOrder :=
    Scope.fields_of_entries hes
  refine ⟨fragmentsOf es.reduceOption, ?_⟩
  constructor
  case query => exact Assembly.finish_eq _ base
  case joined => rw [Scope.fields_fragmentsOf hyields, horder]
  case files =>
    intro fragment hfragment hkind
    rcases Scope.cases_of_mem_fragmentsOf hyields hfragment with
      ⟨-, hfiles⟩ | ⟨r, foreign, link, hrelation, -, -⟩
    · exact hfiles
    · rw [hkind] at hrelation
      cases hrelation
  case links =>
    intro fragment hfragment r hkind
    rcases Scope.cases_of_mem_fragmentsOf hyields hfragment with
      ⟨hattachment, -⟩ | ⟨r', foreign, link, hrelation, hresolves, hlink⟩
    · rw [hkind] at hattachment
      cases hattachment
    · -- a field is one relation only, so this is the one that was resolved
      rw [hkind] at hrelation
      cases hrelation
      rw [hlink]
      exact Scope.linkShape_resolve hresolves
  case stale =>
    rw [← horder]
    exact Scope.stale_ofEntries hyields
  case accepted =>
    intro layout' hlayout' done f rest p p' hfields hp hp' id hid hnew hlive
    rw [hlayout, Option.some.injEq] at hlayout'
    subst hlayout'
    rcases Scope.push_of_visit hfields hp hp' hid hnew hlive with
      ⟨fragment, task, hcheck, hfield, hpush⟩
    have hf : f ∈ t.schema.fields := by
      rw [hfields]
      exact List.mem_append_right _ List.mem_cons_self
    -- the entry of the field is among those of the walk, so its fragment was added
    rcases ok_of_mapM hes hf with ⟨e, he, hcheck'⟩
    rw [hcheck, Except.ok.injEq] at hcheck'
    subst hcheck'
    refine ⟨fragment, ?_, hfield, hpush⟩
    exact List.mem_filterMap.2
      ⟨_, List.mem_eraseDups.2 (List.reduceOption_mem_iff.2 he), rfl⟩
  case aliases =>
    -- the alias of a join is the label of its fragment, and labels are distinct
    have hqualifier : (fragmentsOf es.reduceOption).map (·.join.target.qualifier?) =
        ((fragmentsOf es.reduceOption).map (·.label)).map some := by
      rw [List.map_map]
      apply List.map_congr_left
      intro fragment hfragment
      exact Scope.qualifier?_of_mem_fragmentsOf hyields hfragment
    rw [hqualifier]
    exact (Scope.nodup_labels hyields).map fun _ _ => Option.some.inj
  case once => exact Scope.once_of_entries hes

/-! ## A blog

Posts with tags and files, in threads. The sum of the weights of a post's tags comes before the tags
themselves, and the drafts that posts once led to are deleted.
-/

namespace Blog

/-- The schema of `fields`, which must have distinct ids. -/
def schema (fields : List Field) : Schema := (Schema.ofFields fields).toOption.getD .empty

def tags : Table where
  id := ⟨"tags"⟩
  name := "Tags"
  schema := schema [⟨⟨"label"⟩, "Label", true, .scalar .string⟩,
    ⟨⟨"weight"⟩, "Weight", false, .scalar .number⟩]
  deleted := false

def drafts : Table := ⟨⟨"drafts"⟩, "Drafts", schema [], true⟩

def posts : Table where
  id := ⟨"posts"⟩
  name := "Posts"
  schema := schema [
    ⟨⟨"weights"⟩, "Weights", false, .attached ⟨"tagged"⟩ (.sum ⟨"weight"⟩)⟩,
    ⟨⟨"tagged"⟩, "Tags", false, .relation (.reference (.owner ⟨"tags"⟩))⟩,
    ⟨⟨"number"⟩, "Number of tags", false, .attached ⟨"tagged"⟩ .count⟩,
    ⟨⟨"old"⟩, "Number of drafts", false, .attached ⟨"draft"⟩ .count⟩,
    ⟨⟨"draft"⟩, "Drafts", false, .relation (.reference (.owner ⟨"drafts"⟩))⟩,
    ⟨⟨"files"⟩, "Files", false, .attachment⟩,
    ⟨⟨"thread"⟩, "Thread", false, .relation (.parent ⟨none, none, []⟩)⟩]
  deleted := false

def registry : Registry := ((Registry.empty.insert tags).insert posts).insert drafts

end Blog

theorem compile_account_posts :
    ∃ out, compile Blog.registry.catalog {} Blog.posts (Options.baseQuery {} Blog.posts) = .ok out ∧
      out.stale.map (·.field) = [⟨"draft"⟩, ⟨"old"⟩] ∧
      ∃ fragments, Account Blog.registry.catalog {} Blog.posts (Options.baseQuery {} Blog.posts) out
        fragments := by
  have hstale : (compile Blog.registry.catalog {} Blog.posts
      (Options.baseQuery {} Blog.posts)).map (·.stale.map (·.field)) =
        .ok [⟨"draft"⟩, ⟨"old"⟩] := by rfl
  rcases map_eq_ok.1 hstale with ⟨out, h, hout⟩
  exact ⟨out, h, hout, compile_account h⟩

end LinkedRecords
