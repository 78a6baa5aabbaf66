import LinkedRecords.Proofs.Compile.Parts

/-! # Why a compilation fails

A table compiles just if it is stored in a layout that knows its relations, if every attached field
is attached to a relation of the table, and if every foreign table that is reached has what is read
from it. Otherwise the first field in the schema that fails tells what is wrong. A relation to a
table that is deleted or not there is no failure. It does not matter that a relation is compiled
once only: the fields attached to it fail like the relation itself.

* `Table.Compilable` — what a table must have.
* `Table.Fails` — why a table cannot be compiled, and with it `Table.FieldFails`,
  `Table.RelationFails` and `Table.ReadFails`.
* `Table.mem_readIds` — the foreign fields that are read for a relation.
* `Scope.check_eq_error_iff` — why one field fails.
* `compile_outcome_iff` — when a table compiles, and with which error it does not.
-/

namespace LinkedRecords

open Sql

/-! ## What a table needs -/

namespace Table

variable (t : Table) (c : Catalog)

/-- The fields of the table `foreign` that are read for the relation `r`: those that it shows, those
that its lookups show, and those that are summed and averaged. -/
def readIds (field : FieldId) (r : Relation) (foreign : Table) : List FieldId :=
  r.displayIds foreign ++ (t.attachedTo field).lookups.flatMap (·.2) ++
    (t.attachedTo field).sums.map (·.2) ++ (t.attachedTo field).averages.map (·.2)

/-- What the foreign table of `r` must have: a layout, and each field that is read, in its schema
and in its layout. -/
def Readable (field : FieldId) (r : Relation) : Prop :=
  ∃ foreign layout, t.foreign? c r = some foreign ∧
    c.layout? (r.foreignTable t.id) = some layout ∧
    ∀ id ∈ t.readIds field r foreign,
      foreign.schema.contains id = true ∧ layout.contains id = true

/-- What the table `t` must have to be compiled. -/
structure Compilable : Prop where
  /-- There is a layout for `t`, and it knows every relation of `t`. -/
  stored : ∃ own, c.layout? t.id = some own ∧
    ∀ f ∈ t.schema.fields, ∀ r, f.kind = .relation r → own.contains f.id = true
  /-- Every attached field is attached to a relation of `t`. -/
  attached : ∀ f ∈ t.schema.fields, ∀ owner shows, f.kind = .attached owner shows →
    ∃ o ∈ t.schema.fields, o.id = owner ∧ ∃ r, o.kind = .relation r
  /-- Every relation that reaches a table can read there what it shows. -/
  readable : ∀ f ∈ t.schema.fields, ∀ r, f.kind = .relation r → t.reaches c r = true →
    t.Readable c f.id r

/-! ## What goes wrong -/

/-- Why the field `id` of the table `foreign` cannot be read. -/
inductive ReadFails (foreign : Table) (layout : Layout) (id : FieldId) : CompileError → Prop
  | unknown (h : foreign.schema.contains id = false) :
      ReadFails foreign layout id (.unknownForeignField foreign.id id)
  | unstored (hknown : foreign.schema.contains id = true) (h : layout.contains id = false) :
      ReadFails foreign layout id (.inconsistentLayout layout.table id)

/-- Why the relation `r` cannot be compiled, in the order in which it is examined. -/
inductive RelationFails (own : Layout) (field : FieldId) (r : Relation) : CompileError → Prop
  | own (h : own.contains field = false) :
      RelationFails own field r (.inconsistentLayout own.table field)
  | foreign (hown : own.contains field = true) (hlive : t.reaches c r = true)
      (h : c.layout? (r.foreignTable t.id) = none) :
      RelationFails own field r (.missingLayout (r.foreignTable t.id))
  | read {foreign : Table} {layout : Layout} {e : CompileError} (hown : own.contains field = true)
      (hlive : t.reaches c r = true) (hleads : t.foreign? c r = some foreign)
      (hstored : c.layout? (r.foreignTable t.id) = some layout)
      (h : FirstError (ReadFails foreign layout) (t.readIds field r foreign) e) :
      RelationFails own field r e

/-- Why the field `f` cannot be compiled. A field that is attached to a relation fails like the
relation. -/
inductive FieldFails (own : Layout) (f : Field) : CompileError → Prop
  | relation {r : Relation} {e : CompileError} (hkind : f.kind = .relation r)
      (h : t.RelationFails c own f.id r e) : FieldFails own f e
  | missingOwner {owner : FieldId} {shows : Attached} (hkind : f.kind = .attached owner shows)
      (h : t.schema.contains owner = false) : FieldFails own f (.missingOwner f.id owner)
  | invalidOwner {o : Field} {shows : Attached} (hkind : f.kind = .attached o.id shows)
      (ho : o ∈ t.schema.fields) (h : ∀ r, o.kind ≠ .relation r) :
      FieldFails own f (.invalidOwner f.id o.id)
  | owner {o : Field} {shows : Attached} {r : Relation} {e : CompileError}
      (hkind : f.kind = .attached o.id shows) (ho : o ∈ t.schema.fields)
      (hrelation : o.kind = .relation r) (h : t.RelationFails c own o.id r e) : FieldFails own f e

/-- Why the table `t` cannot be compiled: it is not stored, or else what its first failing field
says. -/
inductive Fails : CompileError → Prop
  | unstored (h : c.layout? t.id = none) : Fails (.missingLayout t.id)
  | field {own : Layout} {e : CompileError} (hown : c.layout? t.id = some own)
      (h : FirstError (t.FieldFails c own) t.schema.fields e) : Fails e

end Table

/-! ## What is read -/

theorem Layout.contains_iff {l : Layout} {field : FieldId} :
    l.contains field = true ↔ ∃ columns, l.columns? field = some columns :=
  Option.isSome_iff_exists

theorem Layout.contains_eq_false {l : Layout} {field : FieldId} :
    l.contains field = false ↔ l.columns? field = none := by
  have hnone : l.contains field = false ↔ (l.columns? field).isNone = true := by
    unfold Layout.contains Keyed.contains Layout.columns?
    cases l.columns.get? field <;> simp
  rw [hnone, Option.isNone_iff_eq_none]

section Fails

variable {c : Catalog} {options : Options} {t : Table} {own : Layout} {field : FieldId}
  {r : Relation} {e : CompileError}

namespace DisplayColumn

variable {foreign : Table} {layout : Layout} {fields : List FieldId}

theorem ofField_eq_error_iff {id : FieldId} :
    ofField foreign layout id = .error e ↔ Table.ReadFails foreign layout id e := by
  rw [ofField_eq_error]
  constructor
  · rintro (⟨hunknown, rfl⟩ | ⟨hknown, hunstored, rfl⟩)
    · exact .unknown hunknown
    · exact .unstored hknown (Layout.contains_eq_false.2 hunstored)
  · intro h
    cases h with
    | unknown hunknown => exact .inl ⟨hunknown, rfl⟩
    | unstored hknown hunstored =>
        exact .inr ⟨hknown, Layout.contains_eq_false.1 hunstored, rfl⟩

/-- The columns of `fields` are collected if each is in the table `foreign` and in its `layout`. -/
theorem exists_collect_iff :
    (∃ columns, collect foreign layout fields = .ok columns) ↔
      ∀ id ∈ fields, foreign.schema.contains id = true ∧ layout.contains id = true := by
  constructor
  · rintro ⟨columns, hcolumns⟩ id hid
    rcases ok_of_mapM hcolumns (List.mem_eraseDups.2 hid) with ⟨column, -, hcolumn⟩
    rcases ofField_eq_ok.1 hcolumn with ⟨hknown, -, hstored⟩
    exact ⟨hknown, Layout.contains_iff.2 ⟨column.columns, hstored⟩⟩
  · intro h
    apply exists_mapM_of_forall
    intro id hid
    rcases h id (List.mem_eraseDups.1 hid) with ⟨hknown, hstored⟩
    rcases Layout.contains_iff.1 hstored with ⟨columns, hcolumns⟩
    exact ⟨⟨id, columns⟩, ofField_eq_ok.2 ⟨hknown, rfl, hcolumns⟩⟩

end DisplayColumn

namespace Table

theorem readIds_eq (foreign : Table) :
    t.readIds field r foreign = r.displayIds foreign ++ (t.attachedTo field).sources := by
  unfold readIds AttachedFields.sources
  simp only [List.append_assoc]

/-- What is read for the relation `r`: the fields that it lists, or else those that `foreign` flags,
and whatever the fields attached to `field` show. -/
theorem mem_readIds {foreign : Table} {id : FieldId} :
    id ∈ t.readIds field r foreign ↔
      id ∈ r.display ∨
        (r.display = [] ∧ ∃ g ∈ foreign.schema.fields, g.display = true ∧ g.id = id) ∨
        ∃ f ∈ t.schema.fields, ∃ shows, f.kind = .attached field shows ∧ id ∈ shows.reads := by
  rw [readIds_eq, List.mem_append, Relation.mem_displayIds, attachedTo,
    AttachedFields.mem_sources_of, or_assoc]

/-- A relation `r` that reaches a table has a link if it is `Readable`. -/
theorem exists_hasLink_iff (hlive : t.reaches c r = true) :
    (∃ foreign layout l, t.HasLink c options field r foreign layout l) ↔ t.Readable c field r := by
  constructor
  · rintro ⟨foreign, layout, l, hlink⟩
    refine ⟨foreign, layout, hlink.leads, hlink.stored, ?_⟩
    rw [readIds_eq]
    exact DisplayColumn.exists_collect_iff.1 ⟨l.columns, hlink.collected⟩
  · rintro ⟨foreign, layout, hleads, hstored, hread⟩
    rw [readIds_eq] at hread
    rcases DisplayColumn.exists_collect_iff.2 hread with ⟨columns, hcolumns⟩
    -- a link is given by the columns it reads, so these are all that has to be found
    refine ⟨foreign, layout, ⟨options, t.id, field, foreign.id, r.displayIds foreign, columns,
      t.attachedTo field⟩, ?_⟩
    exact ⟨hlive, hleads, hstored, hcolumns, rfl⟩

end Table

/-! ## Fields -/

namespace Scope

theorem task?_relation {f : Field} (hkind : f.kind = .relation r) :
    (start c options t own).task? f = .ok (some (.relation f.id r)) := by
  simp only [task?, hkind]

theorem task?_missingOwner {f : Field} {owner : FieldId} {shows : Attached}
    (hkind : f.kind = .attached owner shows) (h : t.schema.contains owner = false) :
    (start c options t own).task? f = .error (.missingOwner f.id owner) := by
  have howner : t.field? owner = none := t.field?_eq_none_iff.2 h
  simp only [task?, hkind, table_start, howner]

theorem task?_invalidOwner {f o : Field} {shows : Attached} (hkind : f.kind = .attached o.id shows)
    (ho : o ∈ t.schema.fields) (h : ∀ r, o.kind ≠ .relation r) :
    (start c options t own).task? f = .error (.invalidOwner f.id o.id) := by
  have howner : t.field? o.id = some o := t.field?_eq_some_iff.2 ⟨ho, rfl⟩
  simp only [task?, hkind, table_start, howner, Field.relation?_eq_none_iff.2 h]

theorem task?_owner {f o : Field} {shows : Attached} (hkind : f.kind = .attached o.id shows)
    (ho : o ∈ t.schema.fields) (hrelation : o.kind = .relation r) :
    (start c options t own).task? f = .ok (some (.relation o.id r)) := by
  have howner : t.field? o.id = some o := t.field?_eq_some_iff.2 ⟨ho, rfl⟩
  simp only [task?, hkind, table_start, howner, Field.relation?_eq_some_iff.2 hrelation]

/-- The relation `r` compiles if the layout `own` knows it and the table that it leads to is
readable. -/
theorem exists_perform_relation_iff :
    (∃ o, (start c options t own).perform (.relation field r) = .ok o) ↔
      own.contains field = true ∧ (t.reaches c r = true → t.Readable c field r) := by
  rw [exists_perform_iff, ← Layout.contains_iff]
  apply and_congr_right
  intro _
  apply forall_congr'
  intro hlive
  exact Table.exists_hasLink_iff hlive

/-- The relation `r` fails as `own`, the foreign layout and the foreign fields say. -/
theorem perform_relation_eq_error :
    (start c options t own).perform (.relation field r) = .error e ↔
      t.RelationFails c own field r e := by
  have hfragment : (start c options t own).perform (.relation field r) = .error e ↔
      (start c options t own).fragment? field r = .error e := by
    unfold perform
    rw [bind_eq_error]
    constructor
    · rintro (h | ⟨found, -, h⟩)
      · exact h
      · cases found with
        | none => cases h
        | some fragment => cases h
    · exact .inl
  rw [hfragment, fragment?_eq_error]
  -- what the scope asks is said of `t` and `c`, which its start leaves as they are
  simp only [table_start, catalog_start, layout_start, attachedTo_start, foreign?_start_eq_some,
    ← Layout.contains_iff, ← Layout.contains_eq_false, DisplayColumn.collect_eq_error,
    DisplayColumn.ofField_eq_error_iff]
  constructor
  · rintro (⟨hown, rfl⟩ | ⟨hown, foreign, ⟨hlive, hleads⟩, hforeign⟩)
    · exact .own hown
    · rcases hforeign with ⟨hnone, rfl⟩ | ⟨layout, hstored, hread⟩
      · exact .foreign hown hlive hnone
      · apply Table.RelationFails.read hown hlive hleads hstored
        rw [Table.readIds_eq]
        exact hread
  · intro h
    cases h with
    | own hown => exact .inl ⟨hown, rfl⟩
    | foreign hown hlive hnone =>
        -- a relation that reaches a table leads to it
        have hsome : ((start c options t own).foreign? (r.foreignTable t.id)).isSome = true := by
          rw [isSome_foreign?_start]
          exact hlive
        rcases Option.isSome_iff_exists.1 hsome with ⟨foreign, hforeign⟩
        exact .inr ⟨hown, foreign, foreign?_start_eq_some.1 hforeign, .inl ⟨hnone, rfl⟩⟩
    | @read foreign layout _ hown hlive hleads hstored hread =>
        rw [Table.readIds_eq] at hread
        exact .inr ⟨hown, foreign, ⟨hlive, hleads⟩, .inr ⟨layout, hstored, hread⟩⟩

/-- The field `f` fails where its task is unknown or cannot be done. -/
theorem check_eq_error {s : Scope} {f : Field} :
    s.check f = .error e ↔
      s.task? f = .error e ∨ ∃ task, s.task? f = .ok (some task) ∧ s.perform task = .error e := by
  unfold check
  rw [bind_eq_error]
  apply or_congr_right
  constructor
  · rintro ⟨_ | task, htask, h⟩
    · cases h
    · rcases bind_eq_error.1 h with hperform | ⟨o, -, hpure⟩
      · exact ⟨task, htask, hperform⟩
      · cases hpure
  · rintro ⟨task, htask, hperform⟩
    exact ⟨some task, htask, bind_eq_error.2 (.inl hperform)⟩

/-- The field `owner` that another is attached to is not in `t`, is no relation, or is one. -/
theorem owner_cases (t : Table) (owner : FieldId) :
    t.schema.contains owner = false ∨
      ∃ o ∈ t.schema.fields, o.id = owner ∧
        ((∀ r, o.kind ≠ .relation r) ∨ ∃ r, o.kind = .relation r) := by
  cases howner : t.field? owner with
  | none => exact .inl (t.field?_eq_none_iff.1 howner)
  | some o =>
      rcases t.field?_eq_some_iff.1 howner with ⟨ho, hid⟩
      refine .inr ⟨o, ho, hid, ?_⟩
      cases hrelation : o.relation? with
      | none => exact .inl (Field.relation?_eq_none_iff.1 hrelation)
      | some r => exact .inr ⟨r, Field.relation?_eq_some_iff.1 hrelation⟩

/-- The field `f` fails with `e` as its owner or its relation says. -/
theorem check_eq_error_iff {f : Field} :
    (start c options t own).check f = .error e ↔ t.FieldFails c own f e := by
  rw [check_eq_error]
  constructor
  · intro h
    rcases hkind : f.kind with kind | _ | r | ⟨owner, shows⟩
    · -- there is nothing to compile for a plain value, and files are always found
      simp [task?, hkind] at h
    · simp [task?, hkind, perform] at h
    · rw [task?_relation hkind] at h
      rcases h with h | ⟨task, htask, hperform⟩
      · cases h
      · cases htask
        exact .relation hkind (perform_relation_eq_error.1 hperform)
    · -- the owner decides: missing, no relation, or the relation that fails itself
      rcases owner_cases t owner with hmissing | ⟨o, ho, rfl, hplain | ⟨r, hrelation⟩⟩
      · rw [task?_missingOwner hkind hmissing] at h
        rcases h with h | ⟨task, htask, -⟩
        · cases h
          exact .missingOwner hkind hmissing
        · cases htask
      · rw [task?_invalidOwner hkind ho hplain] at h
        rcases h with h | ⟨task, htask, -⟩
        · cases h
          exact .invalidOwner hkind ho hplain
        · cases htask
      · rw [task?_owner hkind ho hrelation] at h
        rcases h with h | ⟨task, htask, hperform⟩
        · cases h
        · cases htask
          exact .owner hkind ho hrelation (perform_relation_eq_error.1 hperform)
  · intro h
    cases h with
    | relation hkind h => exact .inr ⟨_, task?_relation hkind, perform_relation_eq_error.2 h⟩
    | missingOwner hkind h => exact .inl (task?_missingOwner hkind h)
    | invalidOwner hkind ho h => exact .inl (task?_invalidOwner hkind ho h)
    | owner hkind ho hrelation h =>
        exact .inr ⟨_, task?_owner hkind ho hrelation, perform_relation_eq_error.2 h⟩

/-- All fields compile if the relations and owners of `t` are as they must be. -/
theorem forall_check_iff :
    (∀ f ∈ t.schema.fields, ∃ e, (start c options t own).check f = .ok e) ↔
      (∀ f ∈ t.schema.fields, ∀ r, f.kind = .relation r →
        own.contains f.id = true ∧ (t.reaches c r = true → t.Readable c f.id r)) ∧
      ∀ f ∈ t.schema.fields, ∀ owner shows, f.kind = .attached owner shows →
        ∃ o ∈ t.schema.fields, o.id = owner ∧ ∃ r, o.kind = .relation r := by
  constructor
  · intro hchecks
    constructor
    · intro f hf r hkind
      rcases exists_check_iff.1 (hchecks f hf) with ⟨task, htask, hperform⟩
      rw [task?_relation hkind] at htask
      cases htask
      exact exists_perform_relation_iff.1 (hperform _ rfl)
    · intro f hf owner shows hkind
      rcases exists_check_iff.1 (hchecks f hf) with ⟨task, htask, -⟩
      rcases owner_cases t owner with hmissing | ⟨o, ho, rfl, hplain | hrelation⟩
      · rw [task?_missingOwner hkind hmissing] at htask
        cases htask
      · rw [task?_invalidOwner hkind ho hplain] at htask
        cases htask
      · exact ⟨o, ho, rfl, hrelation⟩
  · rintro ⟨hrelations, howners⟩ f hf
    rw [exists_check_iff]
    rcases hkind : f.kind with kind | _ | r | ⟨owner, shows⟩
    · refine ⟨none, by simp only [task?, hkind], ?_⟩
      intro task htask
      cases htask
    · refine ⟨some (.files f.id), by simp only [task?, hkind], ?_⟩
      intro task htask
      cases htask
      exact ⟨_, rfl⟩
    · refine ⟨_, task?_relation hkind, ?_⟩
      intro task htask
      cases htask
      exact exists_perform_relation_iff.2 (hrelations f hf r hkind)
    · -- the task of an attached field is that of its relation, which compiles
      rcases howners f hf owner shows hkind with ⟨o, ho, rfl, r, hrelation⟩
      refine ⟨_, task?_owner hkind ho hrelation, ?_⟩
      intro task htask
      cases htask
      exact exists_perform_relation_iff.2 (hrelations o ho r hrelation)

end Scope

/-! ## Tables -/

variable {base : Query}

theorem exists_compile_iff_compilable :
    (∃ out, compile c options t base = .ok out) ↔ t.Compilable c := by
  rw [exists_compile_iff]
  constructor
  · rintro ⟨own, hown, hchecks⟩
    rcases Scope.forall_check_iff.1 hchecks with ⟨hrelations, howners⟩
    constructor
    · refine ⟨own, hown, ?_⟩
      intro f hf r hkind
      exact (hrelations f hf r hkind).1
    · exact howners
    · intro f hf r hkind hlive
      exact (hrelations f hf r hkind).2 hlive
  · intro h
    rcases h.stored with ⟨own, hown, hstored⟩
    refine ⟨own, hown, Scope.forall_check_iff.2 ⟨?_, h.attached⟩⟩
    intro f hf r hkind
    exact ⟨hstored f hf r hkind, h.readable f hf r hkind⟩

theorem compile_eq_error_iff_fails :
    compile c options t base = .error e ↔ t.Fails c e := by
  -- a table without a layout fails before its fields are looked at
  cases hown : c.layout? t.id with
  | none =>
      have hcompile : compile c options t base = .error (.missingLayout t.id) := by
        unfold compile
        rw [hown]
        rfl
      rw [hcompile]
      constructor
      · intro h
        cases h
        exact .unstored hown
      · intro h
        cases h with
        | unstored hnone => rfl
        | field hstored h =>
            rw [hown] at hstored
            cases hstored
  | some own =>
      have hcompile : compile c options t base = .error e ↔
          t.schema.fields.mapM (Scope.start c options t own).check = .error e := by
        rw [compile_eq hown, map_eq_error]
      -- the fields are checked in order, each as if it stood alone
      rw [hcompile, mapM_eq_error]
      simp only [Scope.check_eq_error_iff]
      constructor
      · intro h
        exact .field hown h
      · intro h
        cases h with
        | unstored hnone =>
            rw [hown] at hnone
            cases hnone
        | field hstored h =>
            rw [hown] at hstored
            cases hstored
            exact h

end Fails

/-- The table `t` is compiled just if it is `Compilable`, and otherwise fails for its first field
that fails. -/
theorem compile_outcome_iff (c : Catalog) (options : Options) (t : Table) (base : Query) :
    ((∃ out, compile c options t base = .ok out) ↔ t.Compilable c) ∧
      ∀ e, compile c options t base = .error e ↔ t.Fails c e := by
  constructor
  · exact exists_compile_iff_compilable
  · intro e
    exact compile_eq_error_iff_fails

/-- The posts of a blog fail for the first of their relations if the tags are not stored. -/
example : (compile (Blog.registry.removeLayout ⟨"tags"⟩).2.catalog {} Blog.posts
    (Options.baseQuery {} Blog.posts)).map (·.stale) = .error (.missingLayout ⟨"tags"⟩) := by
  rfl

end LinkedRecords
