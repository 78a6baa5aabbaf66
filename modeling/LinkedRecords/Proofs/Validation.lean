import LinkedRecords.Proofs.Compile.Accounting
import LinkedRecords.Proofs.Registry

/-! # Validation covers compilation

Validating a table lists every problem; compiling it stops at the first. Whatever stops a
compilation is among the problems, so a table without problems compiles. The other way round, a
problem of what fields read stops the compilation, unless it lies behind a deleted table.

* `CompileError.ReportedBy` — which problem reports an error.
* `Table.Raises` — the problems of owners, and of fields that are shown or computed with.
* `Table.cases_of_mem_problems` — all other problems are about the other end of a relation.
* `Registry.Built.raises_of_error`, `Registry.Built.error_of_raises` — an error is such a problem,
  and such a problem is an error.
* `Registry.Built.validation_covers` — what validating a table says about compiling it.
-/

namespace LinkedRecords

open Sql

/-! ## Problems of what fields read -/

/-- Whether a problem reports why the table `t` cannot be compiled. -/
def CompileError.ReportedBy (t : Table) : CompileError → Problem → Prop
  | missingOwner field owner, p => p = .undefinedField field t.id owner
  | invalidOwner field owner, p => p = .invalidOwner field owner
  | unknownForeignField table missing, p => ∃ field, p = .undefinedField field table missing
  | inconsistentLayout .., _ | missingLayout .., _ => False

/-- The field at the other end that a relation names. -/
def Relation.partner? : Relation → Option FieldId
  | reference r => r.symmetric
  | tree h | parent h => h.partner

/-- Whether a problem is one of what the relation `field` names at its other end. -/
def Problem.OfPartner (field : FieldId) (partner : Option FieldId) : Problem → Prop
  | undefinedField f _ missing => f = field ∧ partner = some missing
  | undefinedTable .. | invalidOwner .. => False
  | _ => True

theorem Problem.OfPartner.of_mem_ite {field : FieldId} {partner : Option FieldId}
    {problem p : Problem} {c : Prop} [Decidable c] (h : p ∈ if c then [] else [problem])
    (hproblem : problem.OfPartner field partner) : p.OfPartner field partner := by
  by_cases hc : c
  · rw [if_pos hc] at h
    cases h
  · rw [if_neg hc] at h
    rw [List.mem_singleton.1 h]
    exact hproblem

/-- What may be wrong with the tree field or parent field `field`: its partner is not there, or the
two are paired inconsistently. -/
inductive Problem.OfHierarchy (table : TableId) (field : FieldId) (h : Hierarchy) : Problem → Prop
  | missing {partner : FieldId} (hpartner : h.partner = some partner) :
      OfHierarchy table field h (.undefinedField field table partner)
  | unpaired (issue : HierarchyIssue) : OfHierarchy table field h (.invalidHierarchy field issue)

theorem Problem.OfHierarchy.ofPartner {table : TableId} {field : FieldId} {h : Hierarchy}
    {p : Problem} (hp : OfHierarchy table field h p) : p.OfPartner field h.partner := by
  cases hp with
  | missing hpartner => exact ⟨rfl, hpartner⟩
  | unpaired issue => trivial

namespace Table

variable {t : Table} {c : Catalog}

/-- The problems of the owners in `t`, and of fields that are shown or computed with. -/
inductive Raises (t : Table) (c : Catalog) : Problem → Prop
  | owner {f : Field} {owner : FieldId} {shows : Attached} (hf : f ∈ t.schema.fields)
      (hkind : f.kind = .attached owner shows) (howner : t.field? owner = none) :
      Raises t c (.undefinedField f.id t.id owner)
  | noRelation {f o : Field} {owner : FieldId} {shows : Attached} (hf : f ∈ t.schema.fields)
      (hkind : f.kind = .attached owner shows) (howner : t.field? owner = some o)
      (ho : o.relation? = none) : Raises t c (.invalidOwner f.id owner)
  | display {f : Field} {r : Relation} {foreign : Table} {id : FieldId}
      (hf : f ∈ t.schema.fields) (hkind : f.kind = .relation r)
      (hforeign : t.foreign? c r = some foreign) (hid : id ∈ r.display)
      (hmissing : foreign.schema.contains id = false) :
      Raises t c (.undefinedField f.id foreign.id id)
  | source {f o : Field} {owner : FieldId} {shows : Attached} {r : Relation} {foreign : Table}
      {id : FieldId} (hf : f ∈ t.schema.fields) (hkind : f.kind = .attached owner shows)
      (howner : t.field? owner = some o) (ho : o.relation? = some r)
      (hforeign : t.foreign? c r = some foreign) (hid : id ∈ shows.reads)
      (hmissing : foreign.schema.contains id = false) :
      Raises t c (.undefinedField f.id foreign.id id)

theorem mem_missingFields {field id : FieldId} {foreign : Table} {ids : List FieldId}
    (hid : id ∈ ids) (hmissing : foreign.schema.contains id = false) :
    .undefinedField field foreign.id id ∈ missingFields field foreign ids := by
  refine List.mem_map.2 ⟨id, List.mem_filter.2 ⟨hid, ?_⟩, rfl⟩
  simpa using hmissing

theorem exists_of_mem_missingFields {field : FieldId} {foreign : Table} {ids : List FieldId}
    {p : Problem} (h : p ∈ missingFields field foreign ids) :
    ∃ id ∈ ids, foreign.schema.contains id = false ∧ p = .undefinedField field foreign.id id := by
  rcases List.mem_map.1 h with ⟨id, hid, rfl⟩
  rcases List.mem_filter.1 hid with ⟨hmem, hmissing⟩
  exact ⟨id, hmem, by simpa using hmissing, rfl⟩

theorem fieldProblems_attached {f : Field} {owner : FieldId} {shows : Attached}
    (hkind : f.kind = .attached owner shows) :
    t.fieldProblems c f = t.attachedProblems c f.id owner shows.reads := by
  rw [fieldProblems, hkind]
  cases shows <;> rfl

/-- Every problem `p` that is raised is listed. -/
theorem Raises.mem_problems {p : Problem} (h : t.Raises c p) : p ∈ t.problems c := by
  cases h with
  | owner hf hkind howner =>
      refine List.mem_flatMap.2 ⟨_, hf, ?_⟩
      rw [fieldProblems_attached hkind, attachedProblems, howner]
      exact List.mem_singleton.2 rfl
  | noRelation hf hkind howner ho =>
      refine List.mem_flatMap.2 ⟨_, hf, ?_⟩
      simp [fieldProblems_attached hkind, attachedProblems, howner, ho]
  | display hf hkind hforeign hid hmissing =>
      refine List.mem_flatMap.2 ⟨_, hf, ?_⟩
      rw [fieldProblems, hkind]
      refine List.mem_append_left _ ?_
      rw [relationProblems, hforeign]
      exact mem_missingFields hid hmissing
  | source hf hkind howner ho hforeign hid hmissing =>
      refine List.mem_flatMap.2 ⟨_, hf, ?_⟩
      simp only [fieldProblems_attached hkind, attachedProblems, howner, ho, hforeign]
      exact mem_missingFields hid hmissing

/-- The problems of the attached field `f` are raised by its owner or by what it reads. -/
theorem raises_of_attachedProblems {f : Field} {owner : FieldId} {shows : Attached} {p : Problem}
    (hf : f ∈ t.schema.fields) (hkind : f.kind = .attached owner shows)
    (h : p ∈ t.attachedProblems c f.id owner shows.reads) : t.Raises c p := by
  rw [attachedProblems] at h
  cases howner : t.field? owner with
  | none =>
      rw [howner] at h
      obtain rfl := List.mem_singleton.1 h
      exact .owner hf hkind howner
  | some o =>
      cases ho : o.relation? with
      | none =>
          simp only [howner, ho] at h
          obtain rfl := List.mem_singleton.1 h
          exact .noRelation hf hkind howner ho
      | some r =>
          cases hforeign : t.foreign? c r with
          | none => simp [howner, ho, hforeign] at h
          | some foreign =>
              simp only [howner, ho, hforeign] at h
              rcases exists_of_mem_missingFields h with ⟨id, hid, hmissing, rfl⟩
              exact .source hf hkind howner ho hforeign hid hmissing

theorem ofPartner_ownerProblem (field symmetric a : FieldId) (b : Option FieldId) (both : Bool) :
    (ownerProblem field symmetric both).OfPartner a b := by
  rw [ownerProblem]
  split <;> trivial

theorem ofPartner_of_symmetricProblems {field : FieldId} {r : Reference} {p : Problem}
    (h : p ∈ t.symmetricProblems c field r) : p.OfPartner field r.symmetric := by
  rw [symmetricProblems] at h
  split at h
  case h_2 => simp at h
  case h_1 symmetric foreign hsymmetric hforeign =>
    split at h
    case h_1 =>
      obtain rfl := List.mem_singleton.1 h
      exact ⟨rfl, hsymmetric⟩
    case h_2 partner hpartner =>
      split at h
      case h_2 =>
        obtain rfl := List.mem_singleton.1 h
        trivial
      case h_1 =>
        -- three conditions, each with a problem of its own
        rcases List.mem_append.1 h with h | h
        · rcases List.mem_append.1 h with h | h
          · exact .of_mem_ite h trivial
          · exact .of_mem_ite h trivial
        · rw [← ite_not] at h
          exact .of_mem_ite h (ofPartner_ownerProblem ..)

theorem ofHierarchy_of_treeProblems {field : FieldId} {h : Hierarchy} {p : Problem}
    (hp : p ∈ t.treeProblems field h) : p.OfHierarchy t.id field h := by
  rw [treeProblems] at hp
  split at hp
  case h_1 => cases hp
  case h_2 parent hparent =>
    split at hp
    case h_1 =>
      obtain rfl := List.mem_singleton.1 hp
      exact .missing hparent
    case h_2 =>
      split at hp
      case h_1 =>
        split at hp
        case isTrue => cases hp
        case isFalse =>
          obtain rfl := List.mem_singleton.1 hp
          exact .unpaired _
      case h_2 =>
        obtain rfl := List.mem_singleton.1 hp
        exact .unpaired _

theorem ofHierarchy_of_parentProblems {field : FieldId} {h : Hierarchy} {p : Problem}
    (hp : p ∈ t.parentProblems field h) : p.OfHierarchy t.id field h := by
  rw [parentProblems] at hp
  split at hp
  case h_1 => cases hp
  case h_2 tree htree =>
    split at hp
    case h_1 =>
      obtain rfl := List.mem_singleton.1 hp
      exact .missing htree
    case h_2 =>
      split at hp
      case h_1 =>
        split at hp
        case isTrue => cases hp
        case isFalse =>
          obtain rfl := List.mem_singleton.1 hp
          exact .unpaired _
      case h_2 =>
        obtain rfl := List.mem_singleton.1 hp
        exact .unpaired _

/-- Every problem `p` is one of what a field reads, or of a table that is not there, or of the field
that a relation names at its other end. -/
theorem cases_of_mem_problems {p : Problem} (h : p ∈ t.problems c) :
    t.Raises c p ∨ ∃ f ∈ t.schema.fields, ∃ r, f.kind = .relation r ∧
      (t.foreign? c r = none ∧ p = .undefinedTable f.id (r.foreignTable t.id) ∨
        p.OfPartner f.id r.partner?) := by
  rcases List.mem_flatMap.1 h with ⟨f, hf, hp⟩
  rcases hkind : f.kind with kind | _ | r | ⟨owner, shows⟩
  · simp [fieldProblems, hkind] at hp
  · simp [fieldProblems, hkind] at hp
  · rw [fieldProblems, hkind] at hp
    -- a relation is asked for what it shows, and then for its other end
    rcases List.mem_append.1 hp with hp | hp
    · rw [relationProblems] at hp
      cases hforeign : t.foreign? c r with
      | none =>
          rw [hforeign] at hp
          exact .inr ⟨f, hf, r, hkind, .inl ⟨hforeign, List.mem_singleton.1 hp⟩⟩
      | some foreign =>
          rw [hforeign] at hp
          rcases exists_of_mem_missingFields hp with ⟨id, hid, hmissing, rfl⟩
          exact .inl (.display hf hkind hforeign hid hmissing)
    · refine .inr ⟨f, hf, r, hkind, .inr ?_⟩
      cases r with
      | reference r => exact ofPartner_of_symmetricProblems hp
      | tree h => exact (ofHierarchy_of_treeProblems hp).ofPartner
      | parent h => exact (ofHierarchy_of_parentProblems hp).ofPartner
  · rw [fieldProblems_attached hkind] at hp
    exact .inl (raises_of_attachedProblems hf hkind hp)

/-- A relation `r` that leads to no table at all is a problem. -/
theorem undefinedTable_mem_problems {f : Field} {r : Relation} (hf : f ∈ t.schema.fields)
    (hkind : f.kind = .relation r) (h : t.foreign? c r = none) :
    .undefinedTable f.id (r.foreignTable t.id) ∈ t.problems c := by
  refine List.mem_flatMap.2 ⟨f, hf, ?_⟩
  rw [fieldProblems, hkind]
  refine List.mem_append_left _ ?_
  rw [relationProblems, h]
  exact List.mem_singleton.2 rfl

end Table

/-! ## What stops a compilation -/

/-- The table `foreign` of a registry that a relation leads to is stored in its own layout. -/
theorem Registry.Built.layout?_foreign {r : Registry} (hr : r.Built) {t foreign : Table}
    (ht : r.catalog.table? t.id = some t) {rel : Relation}
    (h : t.foreign? r.catalog rel = some foreign) :
    r.catalog.layout? (rel.foreignTable t.id) = some (.ofTable foreign) := by
  -- the layouts of a registry are those of its tables
  rw [hr.layout?]
  rw [Table.foreign?] at h
  by_cases hself : rel.foreignTable t.id = t.id
  · rw [if_pos hself, Option.some.injEq] at h
    rw [hself, ht, h, Option.map_some]
  · rw [if_neg hself] at h
    rw [h, Option.map_some]

namespace Scope

variable {options : Options} {t : Table}

theorem raises_of_task {s : Scope} {f : Field} (hf : f ∈ s.table.schema.fields)
    {e : CompileError} (h : s.task? f = .error e) :
    ∃ p, s.table.Raises s.catalog p ∧ e.ReportedBy s.table p := by
  rcases hkind : f.kind with kind | _ | r | ⟨owner, shows⟩
  · simp [task?, hkind] at h
  · simp [task?, hkind] at h
  · simp [task?, hkind] at h
  · cases howner : s.table.field? owner with
    | none =>
        simp only [task?, hkind, howner, Except.error.injEq] at h
        subst h
        exact ⟨_, .owner hf hkind howner, rfl⟩
    | some o =>
        cases ho : o.relation? with
        | none =>
            simp only [task?, hkind, howner, ho, Except.error.injEq] at h
            subst h
            exact ⟨_, .noRelation hf hkind howner ho, rfl⟩
        | some r => simp [task?, hkind, howner, ho] at h

/-- A field `id` that the relation `rel` or a field attached to it reads is there, or else is a
problem. -/
theorem raises_of_reads {c : Catalog} {g : Field} {rel : Relation} {foreign : Table} {id : FieldId}
    (hg : g ∈ t.schema.fields) (hkind : g.kind = .relation rel)
    (hforeign : t.foreign? c rel = some foreign)
    (hid : id ∈ rel.displayIds foreign ++ (AttachedFields.of t.schema.fields g.id).sources)
    (hmissing : foreign.schema.contains id = false) :
    ∃ field, t.Raises c (.undefinedField field foreign.id id) := by
  rcases List.mem_append.1 hid with hid | hid
  · rcases Relation.mem_displayIds.1 hid with hid | ⟨-, shown, hshown, -, hid⟩
    · exact ⟨g.id, .display hg hkind hforeign hid hmissing⟩
    · -- what the foreign table itself flags is one of its fields
      rw [foreign.schema.contains_iff.2 ⟨shown, hshown, hid⟩] at hmissing
      cases hmissing
  · rcases AttachedFields.mem_sources_of.1 hid with ⟨f, hf, shows, hshows, hread⟩
    have howner : t.field? g.id = some g := t.field?_eq_some_iff.2 ⟨hg, rfl⟩
    have ho : g.relation? = some rel := by simp [Field.relation?, FieldKind.relation?, hkind]
    exact ⟨f.id, .source hf hshows howner ho hforeign hread hmissing⟩

theorem raises_of_perform {r : Registry} (hr : r.Built) (ht : r.catalog.table? t.id = some t)
    {g : Field} (hg : g ∈ t.schema.fields) {rel : Relation} (hkind : g.kind = .relation rel)
    {e : CompileError}
    (h : (start r.catalog options t (.ofTable t)).perform (.relation g.id rel) = .error e) :
    ∃ p, t.Raises r.catalog p ∧ e.ReportedBy t p := by
  have hfragment : (start r.catalog options t (.ofTable t)).fragment? g.id rel = .error e := by
    rcases bind_eq_error.1 h with h | ⟨found, -, hpure⟩
    · exact h
    · cases found <;> cases hpure
  rcases fragment?_eq_error.1 hfragment with ⟨hown, -⟩ | ⟨-, foreign, hleads, hread⟩
  · -- the layout of a table knows all of its fields
    have hcontains : t.schema.contains g.id = true := t.schema.contains_iff.2 ⟨g, hg, rfl⟩
    rw [layout_start] at hown
    rw [← Layout.isSome_columns?_ofTable, hown] at hcontains
    cases hcontains
  · have hforeign := (foreign?_start_eq_some.1 hleads).2
    have hlayout := hr.layout?_foreign ht hforeign
    rcases hread with ⟨hnone, -⟩ | ⟨layout, hsome, hcollect⟩
    · rw [table_start, catalog_start, hlayout] at hnone
      cases hnone
    · rw [table_start, catalog_start, hlayout, Option.some.injEq] at hsome
      subst hsome
      rw [attachedTo_start] at hcollect
      -- one of the fields that are read is missing, in the table or in its layout
      rcases DisplayColumn.error_of_collect hcollect with ⟨id, hid, hfield⟩
      rcases DisplayColumn.ofField_eq_error.1 hfield with
        ⟨hmissing, rfl⟩ | ⟨hcontains, hnone, -⟩
      · rcases raises_of_reads hg hkind hforeign hid hmissing with ⟨field, hraises⟩
        exact ⟨_, hraises, field, rfl⟩
      · rw [← Layout.isSome_columns?_ofTable, hnone] at hcontains
        cases hcontains

/-- Whatever stops the field `f` from being compiled is a problem of what fields read. -/
theorem raises_of_check {r : Registry} (hr : r.Built) (ht : r.catalog.table? t.id = some t)
    {f : Field} (hf : f ∈ t.schema.fields) {e : CompileError}
    (h : (start r.catalog options t (.ofTable t)).check f = .error e) :
    ∃ p, t.Raises r.catalog p ∧ e.ReportedBy t p := by
  rcases bind_eq_error.1 h with htask | ⟨task, htask, hrest⟩
  · exact raises_of_task (s := start r.catalog options t (.ofTable t)) hf htask
  · cases task with
    | none => cases hrest
    | some task =>
        rcases bind_eq_error.1 hrest with hperform | ⟨o, -, hpure⟩
        · -- the task of `f` may be that of its owner, which is a field of `t` as well
          rcases (start r.catalog options t (.ofTable t)).exists_field_of_task hf htask with
            ⟨g, hg, hid, hkind⟩
          cases task with
          | files field => cases hperform
          | relation field rel =>
              obtain rfl : g.id = field := hid
              exact raises_of_perform hr ht hg hkind hperform
        · cases hpure

/-! ## Problems that stop a compilation -/

/-- A relation `rel` that is joined finds all that it and the fields attached to it read. -/
theorem contains_of_perform {c : Catalog} {layout : Layout} {g : Field} {rel : Relation}
    {foreign : Table} {o : Outcome} (hlive : t.reaches c rel = true)
    (hforeign : t.foreign? c rel = some foreign)
    (h : (start c options t layout).perform (.relation g.id rel) = .ok o) {id : FieldId}
    (hid : id ∈ rel.displayIds foreign ++ (AttachedFields.of t.schema.fields g.id).sources) :
    foreign.schema.contains id = true := by
  cases o with
  | stale fields =>
      have hnone := (perform_relation_stale h).1
      rw [table_start, foreign?_start, if_pos hlive, hforeign] at hnone
      cases hnone
  | joined fragment =>
      rcases perform_relation_joined h with ⟨foreign', link, hlink, -⟩
      have hsame := (foreign?_start_eq_some.1 hlink.leads).2
      rw [hforeign, Option.some.injEq] at hsame
      subst hsame
      rcases hlink.built with ⟨foreignLayout, -, hbuilt⟩
      rcases Link.ofRelation_eq_ok.1 hbuilt with ⟨columns, hcolumns, -⟩
      rw [attachedTo_start] at hcolumns
      exact DisplayColumn.known_of_collect hcolumns hid

end Scope

namespace Table

variable {t : Table} {c : Catalog}

theorem reaches_of_foreign?
    (hlive : ∀ id foreign, c.table? id = some foreign → foreign.deleted = false)
    {rel : Relation} {foreign : Table} (h : t.foreign? c rel = some foreign) :
    t.reaches c rel = true := by
  by_cases hself : rel.foreignTable t.id = t.id
  · simp [reaches, hself]
  · rw [foreign?, if_neg hself] at h
    simp [reaches, h, hlive _ _ h]

/-- Without deleted tables, the problem `p` is met by the field that has it. -/
theorem Raises.check_ne_ok {p : Problem} (h : t.Raises c p)
    (hlive : ∀ id foreign, c.table? id = some foreign → foreign.deleted = false)
    (options : Options) (layout : Layout) :
    ∃ f ∈ t.schema.fields, ∀ o, (Scope.start c options t layout).check f ≠ .ok o := by
  cases h with
  -- without an owner that is a relation, a field has no task
  | @owner f owner shows hf hkind howner =>
      refine ⟨f, hf, fun o ho => ?_⟩
      rcases bind_eq_ok.1 ho with ⟨task, htask, -⟩
      simp [Scope.task?, hkind, howner] at htask
  | @noRelation f o owner shows hf hkind howner hrel =>
      refine ⟨f, hf, fun o ho => ?_⟩
      rcases bind_eq_ok.1 ho with ⟨task, htask, -⟩
      simp [Scope.task?, hkind, howner, hrel] at htask
  -- a relation that is joined has found what it shows, so it cannot lack `id`
  | @display f rel foreign id hf hkind hforeign hid hmissing =>
      refine ⟨f, hf, fun o ho => ?_⟩
      rcases bind_eq_ok.1 ho with ⟨task, htask, hrest⟩
      simp only [Scope.task?, hkind, Except.ok.injEq] at htask
      subst htask
      rcases bind_eq_ok.1 hrest with ⟨outcome, hperform, -⟩
      have hshown : id ∈ rel.displayIds foreign := Relation.mem_displayIds.2 (.inl hid)
      have hcontains := Scope.contains_of_perform (reaches_of_foreign? hlive hforeign) hforeign
        hperform (List.mem_append_left _ hshown)
      rw [hmissing] at hcontains
      cases hcontains
  | @source f g owner shows rel foreign id hf hkind howner hrel hforeign hid hmissing =>
      refine ⟨f, hf, fun o ho => ?_⟩
      rcases bind_eq_ok.1 ho with ⟨task, htask, hrest⟩
      simp only [Scope.task?, hkind, Scope.table_start, howner, hrel, Except.ok.injEq] at htask
      subst htask
      rcases bind_eq_ok.1 hrest with ⟨outcome, hperform, -⟩
      obtain rfl : g.id = owner := (t.field?_eq_some_iff.1 howner).2
      have hread : id ∈ (AttachedFields.of t.schema.fields g.id).sources :=
        AttachedFields.mem_sources_of.2 ⟨f, hf, shows, hkind, hid⟩
      have hcontains := Scope.contains_of_perform (reaches_of_foreign? hlive hforeign) hforeign
        hperform (List.mem_append_right _ hread)
      rw [hmissing] at hcontains
      cases hcontains

/-! ## Validation and compilation -/

/-- What validating the table `t` says about compiling it. -/
structure Covers (t : Table) (c : Catalog) (options : Options) (base : Query) : Prop where
  /-- Whatever stops the compilation is a problem `p` that is listed. -/
  reported : ∀ e, compile c options t base = .error e → ∃ p ∈ t.problems c, e.ReportedBy t p
  /-- A table without problems compiles to some `out`, and what this leaves out leads to deleted
  tables. -/
  compiles : t.problems c = [] → ∃ out, compile c options t base = .ok out ∧
    ∀ x ∈ out.stale, ∃ foreign, c.table? x.foreign = some foreign ∧ foreign.deleted = true
  /-- Unless there are deleted tables, a problem `p` of what fields read is listed and stops the
  compilation. -/
  stops : (∀ id foreign, c.table? id = some foreign → foreign.deleted = false) →
    ∀ p, t.Raises c p → p ∈ t.problems c ∧ ∃ e, compile c options t base = .error e
  /-- An owner that is listed as no relation is one that a field is attached to. -/
  owners : ∀ field owner, .invalidOwner field owner ∈ t.problems c →
    t.Raises c (.invalidOwner field owner)
  /-- A field that is listed as `missing` is one that is read, or one that a relation names at its
  other end. -/
  fields : ∀ field table missing, .undefinedField field table missing ∈ t.problems c →
    t.Raises c (.undefinedField field table missing) ∨
      ∃ f ∈ t.schema.fields, ∃ rel, f.id = field ∧ f.kind = .relation rel ∧
        rel.partner? = some missing

end Table

/-- A stale field `x` leads to a table that is deleted or not there. -/
theorem Table.mem_staleFields {t : Table} {c : Catalog} {id : FieldId} {x : StaleField}
    (hlive : t.isLive c id = false) (h : x ∈ t.staleFields id) :
    ∃ f ∈ t.schema.fields, ∃ rel, f.kind = .relation rel ∧
      x.foreign = rel.foreignTable t.id ∧ t.reaches c rel = false := by
  rw [Table.staleFields] at h
  split at h
  case h_2 => simp at h
  case h_1 rel hkind =>
    rcases Option.map_eq_some_iff.1 hkind with ⟨f, hf, hrel⟩
    rcases List.mem_map.1 h with ⟨field, -, rfl⟩
    refine ⟨f, (t.field?_eq_some_iff.1 hf).1, rel, hrel, rfl, ?_⟩
    simpa [Table.isLive, hkind] using hlive

theorem Table.deleted_of_reaches {t : Table} {c : Catalog} {rel : Relation} {foreign : Table}
    (hforeign : t.foreign? c rel = some foreign) (h : t.reaches c rel = false) :
    c.table? (rel.foreignTable t.id) = some foreign ∧ foreign.deleted = true := by
  rw [Table.foreign?] at hforeign
  by_cases hself : rel.foreignTable t.id = t.id
  · simp [Table.reaches, hself] at h
  · rw [if_neg hself] at hforeign
    refine ⟨hforeign, ?_⟩
    simpa [Table.reaches, hself, hforeign] using h

namespace Registry.Built

variable {r : Registry} {t : Table} {options : Options} {base : Query}

/-- Whatever stops the compilation of `t` is a problem of what fields read. -/
theorem raises_of_error (hr : r.Built) (ht : r.catalog.table? t.id = some t) {e : CompileError}
    (h : compile r.catalog options t base = .error e) :
    ∃ p, t.Raises r.catalog p ∧ e.ReportedBy t p := by
  have hlayout : r.catalog.layout? t.id = some (.ofTable t) := by
    rw [hr.layout?, ht, Option.map_some]
  rw [compile_eq hlayout] at h
  cases hes : t.schema.fields.mapM (Scope.start r.catalog options t (.ofTable t)).check with
  | ok es => simp [hes, Except.map] at h
  | error e' =>
      simp only [hes, Except.map, Except.error.injEq] at h
      subst h
      rcases exists_error_of_mapM hes with ⟨f, hf, hcheck⟩
      exact Scope.raises_of_check hr ht hf hcheck

/-- Unless there are deleted tables, a problem `p` of what fields read stops the compilation of
`t`. -/
theorem error_of_raises (hr : r.Built) (ht : r.catalog.table? t.id = some t)
    (hlive : ∀ id foreign, r.catalog.table? id = some foreign → foreign.deleted = false)
    {p : Problem} (hp : t.Raises r.catalog p) :
    ∃ e, compile r.catalog options t base = .error e := by
  have hlayout : r.catalog.layout? t.id = some (.ofTable t) := by
    rw [hr.layout?, ht, Option.map_some]
  rcases hp.check_ne_ok hlive options (.ofTable t) with ⟨f, hf, hfails⟩
  cases hcompile : compile r.catalog options t base with
  | error e => exact ⟨e, rfl⟩
  | ok out =>
      rcases compile_eq_ok.1 hcompile with ⟨layout, es, hlayout', hes, -⟩
      rw [hlayout, Option.some.injEq] at hlayout'
      subst hlayout'
      -- if the table compiles, each of its fields does
      rcases ok_of_mapM hes hf with ⟨o, -, ho⟩
      exact absurd ho (hfails o)

end Registry.Built

/-- What `out` leaves out leads to deleted tables, if every relation of `t` leads to a table. -/
theorem deleted_of_stale {c : Catalog} {options : Options} {t : Table} {base : Query}
    {out : Compiled} (h : compile c options t base = .ok out)
    (hforeign : ∀ f ∈ t.schema.fields, ∀ rel, f.kind = .relation rel →
      ∃ foreign, t.foreign? c rel = some foreign) {x : StaleField} (hx : x ∈ out.stale) :
    ∃ foreign, c.table? x.foreign = some foreign ∧ foreign.deleted = true := by
  rcases compile_eq_ok.1 h with ⟨layout, es, -, hes, rfl⟩
  have hyields : ∀ e ∈ es.reduceOption, (Scope.start c options t layout).Yields e :=
    Scope.yields_of_mapM hes
  have hstale : x ∈ (Progress.ofEntries es.reduceOption).stale := hx
  rw [Scope.stale_ofEntries hyields] at hstale
  rcases List.mem_flatMap.1 hstale with ⟨id, hid, hx⟩
  have hlive : t.isLive c id = false := by simpa using (List.mem_filter.1 hid).2
  -- the relation is left out although it leads to a table, so this is deleted
  rcases Table.mem_staleFields hlive hx with ⟨f, hf, rel, hkind, hto, hreaches⟩
  rcases hforeign f hf rel hkind with ⟨foreign, hsome⟩
  rw [hto]
  exact ⟨foreign, Table.deleted_of_reaches hsome hreaches⟩

/-- Validation covers compilation, for every table `t` of a registry. -/
theorem Registry.Built.validation_covers {r : Registry} (hr : r.Built) {t : Table}
    (ht : r.catalog.table? t.id = some t) (options : Options) (base : Query) :
    t.Covers r.catalog options base := by
  constructor
  case reported =>
    intro e he
    rcases hr.raises_of_error ht he with ⟨p, hp, hreported⟩
    exact ⟨p, hp.mem_problems, hreported⟩
  case compiles =>
    intro hnone
    -- had it failed, what stopped it would be a problem
    have hclean : ∀ p, p ∉ t.problems r.catalog := fun p hp => by
      rw [hnone] at hp
      cases hp
    cases hcompile : compile r.catalog options t base with
    | error e =>
        rcases hr.raises_of_error ht hcompile with ⟨p, hp, -⟩
        exact absurd hp.mem_problems (hclean p)
    | ok out =>
        refine ⟨out, rfl, fun x hx => deleted_of_stale hcompile ?_ hx⟩
        intro f hf rel hkind
        cases hforeign : t.foreign? r.catalog rel with
        | none => exact absurd (Table.undefinedTable_mem_problems hf hkind hforeign) (hclean _)
        | some foreign => exact ⟨foreign, rfl⟩
  case stops =>
    intro hlive p hp
    exact ⟨hp.mem_problems, hr.error_of_raises ht hlive hp⟩
  case owners =>
    intro field owner hmem
    rcases Table.cases_of_mem_problems hmem with hraised | ⟨f, -, rel, -, ⟨-, h⟩ | h⟩
    · exact hraised
    · cases h
    · cases h
  case fields =>
    intro field table missing hmem
    rcases Table.cases_of_mem_problems hmem with hraised | ⟨f, hf, rel, hkind, ⟨-, h⟩ | h⟩
    · exact .inl hraised
    · cases h
    · exact .inr ⟨f, hf, rel, h.1.symm, hkind, h.2⟩

/-- The table `Blog.posts` has no problems, compiles, and leaves the deleted drafts out. -/
theorem validation_covers_posts : ∃ r : Registry, r.Built ∧
    r.catalog.table? Blog.posts.id = some Blog.posts ∧ Blog.posts.problems r.catalog = [] ∧
      Blog.posts.Covers r.catalog {} (Options.baseQuery {} Blog.posts) := by
  have hbuilt : Blog.registry.Built := ((Registry.Built.empty.insert _).insert _).insert _
  have hposts : Blog.registry.catalog.table? Blog.posts.id = some Blog.posts := by rfl
  exact ⟨Blog.registry, hbuilt, hposts, by decide +kernel, hbuilt.validation_covers hposts {} _⟩

end LinkedRecords
