import LinkedRecords.Proofs.Compile.Assembly
import LinkedRecords.Proofs.Compile.AttachedIndex
import LinkedRecords.Proofs.Compile.DisplayColumns
import LinkedRecords.Proofs.Compile.Walk
import Mathlib.Data.List.Induction

/-! # The fragments of a compilation

Every entry of a walk is a fragment or a list of stale fields. Fragments of different fields have
different aliases, so each is added to the query, and a compiled query is the base with the
fragments of its entries behind it.

* `Scope.fragment?_eq_ok`, `Scope.fragment?_eq_error` — when a relation is joined, left out or
  refused.
* `Scope.nodup_labels` — no two fragments of a walk have one alias.
* `Scope.assembly_ofEntries` — every fragment of a walk is added, by induction on the entries.
* `compile_eq`, `compile_eq_ok` — a compilation told by the entries of its fields.
-/

namespace LinkedRecords

open Sql

/-! ## Aliases -/

namespace Naming

theorem linksAlias_inj {a b : FieldId} (h : linksAlias a = linksAlias b) : a = b := by
  cases a
  cases b
  simpa [linksAlias] using h

theorem filesAlias_inj {a b : FieldId} {table : String}
    (h : filesAlias a table = filesAlias b table) : a = b := by
  cases a
  cases b
  simpa [filesAlias] using h

theorem linksAlias_ne_filesAlias (a b : FieldId) (table : String) :
    linksAlias a ≠ filesAlias b table := by
  intro h
  -- the aliases start with different letters
  have htext := congrArg String.toList h
  simp [linksAlias, filesAlias] at htext

end Naming

/-- The alias under which the result of a task is joined: `filesAlias` or `linksAlias` of its
field. -/
def Task.label (options : Options) : Task → String
  | files field => Naming.filesAlias field options.files.table
  | relation field _ => Naming.linksAlias field

theorem Task.field_eq_of_label_eq {options : Options} {a b : Task}
    (h : a.label options = b.label options) : a.field = b.field := by
  -- files and links never share an alias, and within either sort the alias tells the field
  cases a with
  | files a =>
      cases b with
      | files b => exact Naming.filesAlias_inj h
      | relation b r => exact absurd h.symm (Naming.linksAlias_ne_filesAlias b a _)
  | relation a r =>
      cases b with
      | files b => exact absurd h (Naming.linksAlias_ne_filesAlias a b _)
      | relation b r' => exact Naming.linksAlias_inj h

/-! ## The fragment of a link -/

namespace Link

theorem field_resolve (l : Link) (r : Relation) : (l.resolve r).field = l.field := by
  cases r <;> rfl

theorem label_resolve (l : Link) (r : Relation) : (l.resolve r).label = l.linksAlias := by
  cases r <;> rfl

theorem items_resolve (l : Link) (r : Relation) :
    (l.resolve r).items =
      [.named (.of l.linksAlias l.field.text) l.field.text,
        expandItem l.field l.display l.linksAlias
          (Naming.expandColumn l.field l.options.expandSuffix)] ++
        l.attached.projections l.options l.linksAlias := by
  cases r <;> rfl

theorem qualifier?_resolve (l : Link) (r : Relation) :
    (l.resolve r).join.target.qualifier? = some l.linksAlias := by
  cases r <;> rfl

theorem ofRelation_eq_ok {options : Options} {table : TableId} {field : FieldId} {r : Relation}
    {foreign : Table} {layout : Layout} {attached : AttachedFields} {link : Link} :
    ofRelation options table field r foreign layout attached = .ok link ↔
      ∃ columns,
        DisplayColumn.collect foreign layout (r.displayIds foreign ++ attached.sources) =
          .ok columns ∧
        link = ⟨options, table, field, foreign.id, r.displayIds foreign, columns, attached⟩ := by
  rw [ofRelation, bind_eq_ok]
  constructor
  · rintro ⟨columns, hcolumns, hpure⟩
    cases hpure
    exact ⟨columns, hcolumns, rfl⟩
  · rintro ⟨columns, hcolumns, rfl⟩
    exact ⟨columns, hcolumns, rfl⟩

end Link

/-! ## What a task comes to -/

namespace Scope

variable {s : Scope}

/-- The fields attached to the relation `field` of the table. -/
def attachedTo (s : Scope) (field : FieldId) : AttachedFields := (s.attached.get? field).getD {}

/-- Whether `link` is the link of the relation `r`, which leads to the table `foreign`. -/
structure Resolves (s : Scope) (field : FieldId) (r : Relation) (foreign : Table) (link : Link) :
    Prop where
  leads : s.foreign? (r.foreignTable s.table.id) = some foreign
  built : ∃ layout, s.catalog.layout? (r.foreignTable s.table.id) = some layout ∧
    Link.ofRelation s.options s.table.id field r foreign layout (s.attachedTo field) = .ok link

/-- A relation known to the layout of the table is left out, or `found` is the fragment of its
link. -/
theorem fragment?_eq_ok {field : FieldId} {r : Relation} {found : Option Fragment} :
    s.fragment? field r = .ok found ↔
      (∃ columns, s.layout.columns? field = some columns) ∧
        (s.foreign? (r.foreignTable s.table.id) = none ∧ found = none ∨
          ∃ foreign link, s.Resolves field r foreign link ∧ found = some (link.resolve r)) := by
  rw [fragment?, bind_eq_ok]
  simp only [Layout.require_eq_ok, exists_and_right]
  -- the own layout is asked whether or not the relation leads anywhere
  refine and_congr_right fun _ => ?_
  cases hforeign : s.foreign? (r.foreignTable s.table.id) with
  | none =>
      constructor
      · rintro ⟨⟩
        exact .inl ⟨rfl, rfl⟩
      · rintro (⟨-, rfl⟩ | ⟨foreign, link, hlink, -⟩)
        · rfl
        · -- a link leads to a table, and here there is none
          rw [hlink.leads] at hforeign
          cases hforeign
  | some foreign =>
      constructor
      · intro h
        cases hlayout : s.catalog.layout? (r.foreignTable s.table.id) with
        | none => simp [hlayout] at h
        | some layout =>
            simp only [hlayout, bind_eq_ok] at h
            rcases h with ⟨link, hlink, hpure⟩
            cases hpure
            exact .inr ⟨foreign, link, ⟨hforeign, layout, hlayout, hlink⟩, rfl⟩
      · rintro (⟨⟨⟩, -⟩ | ⟨foreign', link, ⟨hleads, layout, hlayout, hlink⟩, rfl⟩)
        rw [hforeign, Option.some.injEq] at hleads
        subst hleads
        simp only [hlayout, bind_eq_ok]
        exact ⟨link, hlink, rfl⟩

/-- A relation fails on its own layout first, then on the layout of `foreign`, then on what it
reads. -/
theorem fragment?_eq_error {field : FieldId} {r : Relation} {e : CompileError} :
    s.fragment? field r = .error e ↔
      (s.layout.columns? field = none ∧ e = .inconsistentLayout s.layout.table field) ∨
        (∃ columns, s.layout.columns? field = some columns) ∧
          ∃ foreign, s.foreign? (r.foreignTable s.table.id) = some foreign ∧
            (s.catalog.layout? (r.foreignTable s.table.id) = none ∧
                e = .missingLayout (r.foreignTable s.table.id) ∨
              ∃ layout, s.catalog.layout? (r.foreignTable s.table.id) = some layout ∧
                DisplayColumn.collect foreign layout
                  (r.displayIds foreign ++ (s.attachedTo field).sources) = .error e) := by
  rw [fragment?, bind_eq_error]
  simp only [Layout.require_eq_ok, Layout.require_eq_error, exists_and_right]
  refine or_congr_right (and_congr_right fun _ => ?_)
  cases hforeign : s.foreign? (r.foreignTable s.table.id) with
  | none => simp [pure, Except.pure]
  | some foreign =>
      simp only [Option.some.injEq, exists_eq_left']
      cases hlayout : s.catalog.layout? (r.foreignTable s.table.id) with
      | none => simp [throw, throwThe, MonadExceptOf.throw, eq_comm]
      | some layout =>
          simp only [Link.ofRelation, attachedTo, bind_eq_error, reduceCtorEq, false_and,
            Option.some.injEq, exists_eq_left', false_or]
          simp [pure, Except.pure]

/-- A relation that leads to no table is stale, with all that is attached to `field`. -/
theorem perform_relation_stale {field : FieldId} {r : Relation} {fields : List StaleField}
    (h : s.perform (.relation field r) = .ok (.stale fields)) :
    s.foreign? (r.foreignTable s.table.id) = none ∧
      fields = staleFields field (r.foreignTable s.table.id) (s.attachedTo field) := by
  rcases bind_eq_ok.1 h with ⟨found, hfound, hpure⟩
  rcases (fragment?_eq_ok.1 hfound).2 with ⟨hnone, rfl⟩ | ⟨foreign, link, -, rfl⟩
  · cases hpure
    exact ⟨hnone, rfl⟩
  · cases hpure

/-- A relation that is joined leads to some table `foreign`, and `fragment` is that of its link. -/
theorem perform_relation_joined {field : FieldId} {r : Relation} {fragment : Fragment}
    (h : s.perform (.relation field r) = .ok (.joined fragment)) :
    ∃ foreign link, s.Resolves field r foreign link ∧ fragment = link.resolve r := by
  rcases bind_eq_ok.1 h with ⟨found, hfound, hpure⟩
  rcases (fragment?_eq_ok.1 hfound).2 with ⟨-, rfl⟩ | ⟨foreign, link, hlink, rfl⟩
  · cases hpure
  · cases hpure
    exact ⟨foreign, link, hlink, rfl⟩

/-- The fragment of an entry is named for the field that its task compiles. -/
theorem Yields.field_label {e : Entry} (h : s.Yields e) {fragment : Fragment}
    (hjoined : e.2 = .joined fragment) :
    fragment.field = e.1.field ∧ fragment.label = e.1.label s.options := by
  rcases e with ⟨task, o⟩
  rcases h with ⟨f, -, hcheck⟩
  have hperform : s.perform task = .ok o := (check_eq_ok.1 hcheck).2
  obtain rfl : o = .joined fragment := hjoined
  cases task with
  | files field =>
      cases hperform
      exact ⟨rfl, rfl⟩
  | relation field r =>
      rcases perform_relation_joined hperform with ⟨foreign, link, ⟨-, layout, -, hlink⟩, rfl⟩
      rcases Link.ofRelation_eq_ok.1 hlink with ⟨columns, -, rfl⟩
      exact ⟨Link.field_resolve _ r, Link.label_resolve _ r⟩

end Scope

/-! ## The fragments of entries -/

/-- The fragments among `entries`, each once. -/
def fragmentsOf (entries : List Entry) : List Fragment :=
  entries.eraseDups.filterMap (·.2.fragment?)

namespace Scope

variable {s : Scope}

theorem fragment_of_mem_fragmentsOf {entries : List Entry} {fragment : Fragment}
    (h : fragment ∈ fragmentsOf entries) : ∃ e ∈ entries, e.2 = .joined fragment := by
  rcases List.mem_filterMap.1 h with ⟨⟨task, o⟩, he, hfragment⟩
  refine ⟨(task, o), List.mem_eraseDups.1 he, ?_⟩
  cases o with
  | joined f => exact congrArg Outcome.joined (Option.some.inj hfragment)
  | stale fields => cases hfragment

/-- No two fragments of `entries` that the table yields have the same alias. -/
theorem nodup_labels {entries : List Entry} (h : ∀ e ∈ entries, s.Yields e) :
    ((fragmentsOf entries).map (·.label)).Nodup := by
  -- entries with the same label compile the same field, so they are the same
  have hpairwise : entries.eraseDups.Pairwise fun a b =>
      ∀ f ∈ a.2.fragment?, ∀ g ∈ b.2.fragment?, f.label ≠ g.label := by
    refine (nodup_eraseDups entries).imp_of_mem ?_
    rintro ⟨ta, oa⟩ ⟨tb, ob⟩ ha hb hne f hf g hg hlabel
    have hya := h _ (List.mem_eraseDups.1 ha)
    have hyb := h _ (List.mem_eraseDups.1 hb)
    cases oa with
    | stale fields => cases hf
    | joined fa =>
        cases ob with
        | stale fields => cases hg
        | joined fb =>
            obtain rfl : fa = f := by simpa [Outcome.fragment?] using hf
            obtain rfl : fb = g := by simpa [Outcome.fragment?] using hg
            have hla := (hya.field_label rfl).2
            have hlb := (hyb.field_label rfl).2
            exact hne (hya.unique hyb (Task.field_eq_of_label_eq
              (hla.symm.trans (hlabel.trans hlb))))
  rw [fragmentsOf, List.Nodup, List.pairwise_map, List.pairwise_filterMap]
  exact hpairwise

/-- The fragment of an entry that is not among `entries` is accepted behind them. -/
theorem push_fragmentsOf {entries : List Entry} {task : Task} {fragment : Fragment}
    (h : ∀ e ∈ entries ++ [(task, .joined fragment)], s.Yields e)
    (hnew : (task, .joined fragment) ∉ entries) :
    (Assembly.ofFragments (fragmentsOf entries)).push fragment =
      (true, .ofFragments (fragmentsOf (entries ++ [(task, .joined fragment)]))) := by
  have hsplit : fragmentsOf (entries ++ [(task, .joined fragment)]) =
      fragmentsOf entries ++ [fragment] := by
    simp [fragmentsOf, eraseDups_append_singleton, hnew, Outcome.fragment?]
  -- all labels are distinct once the new one is among them
  have hlabels := nodup_labels h
  rw [hsplit, List.map_append, List.nodup_append] at hlabels
  have hlabel : fragment.label ∉ (fragmentsOf entries).map (·.label) := fun hin =>
    hlabels.2.2 _ hin _ (by simp) rfl
  rw [Assembly.push_ofFragments hlabel, hsplit]

/-- Every fragment of `entries` that the table yields has been added, and nothing else. -/
theorem assembly_ofEntries {entries : List Entry} (h : ∀ e ∈ entries, s.Yields e) :
    (Progress.ofEntries entries).assembly = .ofFragments (fragmentsOf entries) := by
  induction entries using List.reverseRecOn with
  | nil => rfl
  | append_singleton entries e ih =>
      have hentries : ∀ x ∈ entries, s.Yields x := fun x hx => h x (List.mem_append_left [e] hx)
      rw [Progress.ofEntries_append_singleton]
      by_cases hmem : e ∈ entries
      · -- an entry that comes again is not recorded, and adds no fragment
        rw [if_pos hmem, ih hentries, fragmentsOf, fragmentsOf, eraseDups_append_singleton,
          if_pos hmem]
      · rcases e with ⟨task, o⟩
        cases o with
        | stale fields =>
            simp [Progress.record, ih hentries, fragmentsOf, eraseDups_append_singleton, hmem,
              Outcome.fragment?]
        | joined fragment =>
            rw [if_neg hmem]
            simp [Progress.record, ih hentries, push_fragmentsOf h hmem]

/-- What a compilation of the table `t` looks at. -/
def start (catalog : Catalog) (options : Options) (t : Table) (layout : Layout) : Scope :=
  ⟨catalog, options, t, layout, .ofSchema t.schema⟩

section Start

variable (catalog : Catalog) (options : Options) (t : Table) (layout : Layout)

@[simp] theorem catalog_start : (start catalog options t layout).catalog = catalog := rfl

@[simp] theorem options_start : (start catalog options t layout).options = options := rfl

@[simp] theorem table_start : (start catalog options t layout).table = t := rfl

@[simp] theorem layout_start : (start catalog options t layout).layout = layout := rfl

@[simp] theorem attachedTo_start (field : FieldId) :
    (start catalog options t layout).attachedTo field =
      AttachedFields.of t.schema.fields field :=
  AttachedIndex.get?_ofSchema t.schema field

end Start

end Scope

/-! ## A compiled query -/

/-- The query that `entries` make of the query `base`. -/
def compiledOf (options : Options) (base : Query) (entries : List Entry) : Compiled :=
  ⟨(Assembly.ofFragments (fragmentsOf entries)).finish base, options.dialect,
    (Progress.ofEntries entries).stale⟩

theorem Scope.yields_of_mapM {s : Scope} {es : List (Option Entry)}
    (h : s.table.schema.fields.mapM s.check = .ok es) : ∀ e ∈ es.reduceOption, s.Yields e := by
  intro e he
  rcases exists_of_mem_mapM h (List.reduceOption_mem_iff.1 he) with ⟨f, hf, hcheck⟩
  exact ⟨f, hf, hcheck⟩

/-- A table with a `layout` is compiled field by field, and the query is made of the entries
`es`. -/
theorem compile_eq {catalog : Catalog} {options : Options} {t : Table} {layout : Layout}
    (h : catalog.layout? t.id = some layout) (base : Query) :
    compile catalog options t base =
      (t.schema.fields.mapM (Scope.start catalog options t layout).check).map fun es =>
        compiledOf options base es.reduceOption := by
  have hcompile : compile catalog options t base =
      (Scope.start catalog options t layout).walk.map fun p =>
        ⟨p.assembly.finish base, options.dialect, p.stale⟩ := by
    rw [compile, h]
    rfl
  rw [hcompile, Scope.walk_eq]
  cases hes : t.schema.fields.mapM (Scope.start catalog options t layout).check with
  | error e =>
      simp only [Scope.start] at hes ⊢
      simp only [hes, Except.map]
  | ok es =>
      -- the entries come from fields of the table, so all of their fragments were added
      have hyields := Scope.yields_of_mapM hes
      simp only [Scope.start] at hes ⊢
      simp only [hes, Except.map, compiledOf, Scope.assembly_ofEntries hyields]

/-- The table `t` compiles to `out` just if its layout is known and every field can be checked. -/
theorem compile_eq_ok {catalog : Catalog} {options : Options} {t : Table} {base : Query}
    {out : Compiled} :
    compile catalog options t base = .ok out ↔
      ∃ layout es, catalog.layout? t.id = some layout ∧
        t.schema.fields.mapM (Scope.start catalog options t layout).check = .ok es ∧
        out = compiledOf options base es.reduceOption := by
  cases hlayout : catalog.layout? t.id with
  -- without a layout nothing is checked, so there is no entry to tell about
  | none => simp [compile, hlayout, throw, throwThe, MonadExceptOf.throw]
  | some layout =>
      rw [compile_eq hlayout base]
      cases hes : t.schema.fields.mapM (Scope.start catalog options t layout).check with
      | error e => simp [Except.map, hes]
      | ok es => simp [Except.map, hes, eq_comm]

end LinkedRecords
