import LinkedRecords.Proofs.Compile.Failures
import LinkedRecords.Proofs.Registry

/-! # Registries and their history

Tables are put into a registry and marked deleted, and layouts are forgotten, in any order. A table
is then the last one that was put in under its id, deleted as well if it was marked later; its
layout is there unless it was forgotten after every time that the table was put in, and is the one
of that table. So a table of the registry can lack a layout when it is compiled, but no layout ever
lacks a field.

* `Registry.Step`, `Registry.ofHistory` — what is done to a registry, and where it leads.
* `Registry.table?_after`, `Registry.table?_ofHistory` — the tables after one step, and after all.
* `Registry.KeepsLayouts.after`, `Registry.exists_layout?_ofHistory` — the same for layouts.
* `Registry.KeepsLayouts.blames` — what a table of a registry can fail for.
* `Registry.Recalls`, `Registry.recalls_ofHistory` — all that a registry tells of its history.
-/

namespace LinkedRecords

namespace Registry

/-! ## Histories -/

/-- What is done to a registry in one step. -/
inductive Step where
  | insert (t : Table)
  | markDeleted (id : TableId)
  | removeLayout (id : TableId)

/-- The registry `r` after one more step. -/
def after (r : Registry) : Step → Registry
  | .insert t => r.insert t
  | .markDeleted id => (r.markDeleted id).2
  | .removeLayout id => (r.removeLayout id).2

/-- The registry that the history `steps` leads to, which starts without tables. -/
def ofHistory (steps : List Step) : Registry := steps.foldl after .empty

theorem ofHistory_concat (steps : List Step) (step : Step) :
    ofHistory (steps ++ [step]) = (ofHistory steps).after step := by
  rw [ofHistory, List.foldl_append]
  rfl

/-- Whether a step marks the table `id` deleted. -/
def Step.marks (id : TableId) : Step → Bool
  | .markDeleted id' => id' = id
  | .insert _ | .removeLayout _ => false

theorem Step.any_marks_iff {id : TableId} {steps : List Step} :
    steps.any (·.marks id) = true ↔ .markDeleted id ∈ steps := by
  rw [List.any_eq_true]
  constructor
  · rintro ⟨step, hstep, hmarks⟩
    cases step with
    | insert t => cases hmarks
    | markDeleted id' =>
        obtain rfl : id' = id := by simpa [marks] using hmarks
        exact hstep
    | removeLayout id' => cases hmarks
  · intro h
    exact ⟨_, h, by simp [marks]⟩

/-- Whether `t` was put in at some time in `steps`, and `later` was done after that. -/
def Inserted (steps : List Step) (t : Table) (later : List Step) : Prop :=
  ∃ earlier, steps = earlier ++ .insert t :: later

theorem inserted_concat {steps later : List Step} {step : Step} {t : Table} :
    Inserted (steps ++ [step]) t later ↔
      step = .insert t ∧ later = [] ∨
        ∃ later', later = later' ++ [step] ∧ Inserted steps t later' := by
  constructor
  · rintro ⟨earlier, heq⟩
    -- either the table was put in by the last step, or `later` ends with it
    rcases List.eq_nil_or_concat later with rfl | ⟨later', last, rfl⟩
    · left
      have hlast := (List.append_inj' heq rfl).2
      exact ⟨List.singleton_inj.1 hlast, rfl⟩
    · right
      have hsplit : steps ++ [step] = (earlier ++ .insert t :: later') ++ [last] := by
        simpa using heq
      rcases List.append_inj' hsplit rfl with ⟨hsteps, hlast⟩
      obtain rfl := List.singleton_inj.1 hlast
      exact ⟨later', by simp, earlier, hsteps⟩
  · rintro (⟨rfl, rfl⟩ | ⟨later', rfl, earlier, rfl⟩)
    · exact ⟨steps, rfl⟩
    · exact ⟨earlier, by simp⟩

/-- Whether `t` is the table that was put in last under `id`, and `later` was done after that. -/
structure LastInserted (steps : List Step) (id : TableId) (t : Table) (later : List Step) :
    Prop where
  /-- The table `t` was put in, and `later` was done after that. -/
  inserted : Inserted steps t later
  /-- The id of `t` is `id`. -/
  named : t.id = id
  /-- Nothing was put in under `id` after `t`. -/
  last : ∀ u, .insert u ∈ later → u.id ≠ id

namespace LastInserted

variable {steps later : List Step} {id : TableId} {t : Table}

/-- If the last step puts in `u` under `id`, that is the table that was put in last. -/
theorem concat_insert {u : Table} (hid : u.id = id) :
    LastInserted (steps ++ [.insert u]) id t later ↔ t = u ∧ later = [] := by
  constructor
  · intro h
    rcases inserted_concat.1 h.inserted with ⟨hstep, hlater⟩ | ⟨later', rfl, -⟩
    · exact ⟨(Step.insert.inj hstep).symm, hlater⟩
    · exact absurd hid (h.last u (by simp))
  · rintro ⟨rfl, rfl⟩
    constructor
    case inserted => exact ⟨steps, rfl⟩
    case named => exact hid
    case last =>
      intro u hu
      cases hu

/-- A `step` that puts in nothing under `id` does not change which table was put in last. -/
theorem concat_iff {step : Step} (hstep : ∀ u, step = .insert u → u.id ≠ id) :
    LastInserted (steps ++ [step]) id t later ↔
      ∃ later', later = later' ++ [step] ∧ LastInserted steps id t later' := by
  constructor
  · intro h
    rcases inserted_concat.1 h.inserted with ⟨rfl, -⟩ | ⟨later', rfl, hinserted⟩
    · exact absurd h.named (hstep t rfl)
    · refine ⟨later', rfl, hinserted, h.named, ?_⟩
      intro u hu
      exact h.last u (List.mem_append_left [step] hu)
  · rintro ⟨later', rfl, h⟩
    refine ⟨inserted_concat.2 (.inr ⟨later', rfl, h.inserted⟩), h.named, ?_⟩
    intro u hu
    rcases List.mem_append.1 hu with hu | hu
    · exact h.last u hu
    · exact hstep u (List.mem_singleton.1 hu).symm

end LastInserted

/-! ## Tables -/

/-- The table `t`, deleted as well if a step of `later` marks it. -/
def markedBy (t : Table) (later : List Step) : Table :=
  { t with deleted := t.deleted || later.any (·.marks t.id) }

theorem markedBy_nil (t : Table) : markedBy t [] = t := by
  simp [markedBy]

theorem markedBy_concat (t : Table) (later : List Step) (step : Step) :
    markedBy t (later ++ [step]) =
      if step.marks t.id then { markedBy t later with deleted := true } else markedBy t later := by
  cases hmarks : step.marks t.id <;> simp [markedBy, hmarks]

/-- A `step` that puts in no table under `id` at most marks the one that is there. -/
theorem table?_after (r : Registry) {step : Step} {id : TableId}
    (hstep : ∀ u, step = .insert u → u.id ≠ id) :
    (r.after step).catalog.table? id = (r.catalog.table? id).map fun t =>
      if step.marks id then { t with deleted := true } else t := by
  cases step with
  | insert u => simp [after, table?_insert, hstep u rfl, Step.marks]
  | markDeleted id' => simp [after, table?_markDeleted, Step.marks]
  | removeLayout id' =>
      have hsame : (r.after (.removeLayout id')).catalog.table? id = r.catalog.table? id := rfl
      simp [hsame, Step.marks]

/-- The table `t` of a registry is the one that was put in last under `id`, marked if it was marked
later. -/
theorem table?_ofHistory (steps : List Step) (id : TableId) (t : Table) :
    (ofHistory steps).catalog.table? id = some t ↔
      ∃ inserted later, LastInserted steps id inserted later ∧ t = markedBy inserted later := by
  induction steps using List.reverseRecOn generalizing t with
  | nil =>
      constructor
      · intro h
        cases h
      · rintro ⟨inserted, later, h, -⟩
        rcases h.inserted with ⟨earlier, hnil⟩
        simp at hnil
  | append_singleton steps step ih =>
      rw [ofHistory_concat]
      -- the last step puts in a table under `id`, or leaves it to the steps before
      by_cases hput : ∃ u, step = .insert u ∧ u.id = id
      · rcases hput with ⟨u, rfl, hid⟩
        have hholds : ((ofHistory steps).after (.insert u)).catalog.table? id = some u := by
          rw [after, table?_insert, if_pos hid]
        rw [hholds, Option.some.injEq]
        constructor
        · rintro rfl
          exact ⟨u, [], (LastInserted.concat_insert hid).2 ⟨rfl, rfl⟩, (markedBy_nil u).symm⟩
        · rintro ⟨inserted, later, h, rfl⟩
          rcases (LastInserted.concat_insert hid).1 h with ⟨rfl, rfl⟩
          exact (markedBy_nil inserted).symm
      · have hstep : ∀ u, step = .insert u → u.id ≠ id := by
          intro u hu hid
          exact hput ⟨u, hu, hid⟩
        rw [table?_after _ hstep, Option.map_eq_some_iff]
        constructor
        · rintro ⟨t', ht', rfl⟩
          rcases (ih t').1 ht' with ⟨inserted, later, h, rfl⟩
          refine ⟨inserted, later ++ [step], (LastInserted.concat_iff hstep).2 ⟨later, rfl, h⟩, ?_⟩
          rw [markedBy_concat, h.named]
        · rintro ⟨inserted, later, h, rfl⟩
          rcases (LastInserted.concat_iff hstep).1 h with ⟨later', rfl, h'⟩
          refine ⟨markedBy inserted later', (ih _).2 ⟨inserted, later', h', rfl⟩, ?_⟩
          rw [markedBy_concat, h'.named]

/-! ## Layouts -/

/-- Whether every layout of `r` is the one of the table under its id. -/
def KeepsLayouts (r : Registry) : Prop :=
  ∀ id layout, r.catalog.layout? id = some layout →
    ∃ t, r.catalog.table? id = some t ∧ layout = .ofTable t

theorem KeepsLayouts.after {r : Registry} (h : r.KeepsLayouts) (step : Step) :
    (r.after step).KeepsLayouts := by
  intro id layout hlayout
  cases step with
  | insert u =>
      rw [Registry.after, layout?_insert] at hlayout
      rw [Registry.after, table?_insert]
      split at hlayout
      -- a table that is put in brings a layout of its own
      case isTrue hid => exact ⟨u, if_pos hid, (Option.some.inj hlayout).symm⟩
      case isFalse hid =>
        rw [if_neg hid]
        exact h id layout hlayout
  | markDeleted id' =>
      rw [Registry.after, layout?_markDeleted] at hlayout
      rcases h id layout hlayout with ⟨t, ht, rfl⟩
      rw [Registry.after, table?_markDeleted, ht]
      -- a layout does not tell whether its table is deleted
      refine ⟨_, rfl, ?_⟩
      split <;> rfl
  | removeLayout id' =>
      rw [Registry.after, layout?_removeLayout] at hlayout
      split at hlayout
      case isTrue => cases hlayout
      case isFalse => exact h id layout hlayout

theorem keepsLayouts_ofHistory (steps : List Step) : (ofHistory steps).KeepsLayouts := by
  induction steps using List.reverseRecOn with
  | nil =>
      intro id layout h
      cases h
  | append_singleton steps step ih =>
      rw [ofHistory_concat]
      exact ih.after step

/-- Whether a table was put in under `id` and its layout was not forgotten after that. -/
def Stored (steps : List Step) (id : TableId) : Prop :=
  ∃ t later, Inserted steps t later ∧ t.id = id ∧ .removeLayout id ∉ later

theorem not_stored_nil (id : TableId) : ¬Stored [] id := by
  rintro ⟨t, later, ⟨earlier, hnil⟩, -⟩
  simp at hnil

theorem stored_concat {steps : List Step} {step : Step} {id : TableId} :
    Stored (steps ++ [step]) id ↔
      (∃ u, step = .insert u ∧ u.id = id) ∨ Stored steps id ∧ step ≠ .removeLayout id := by
  constructor
  · rintro ⟨t, later, hinserted, hid, hkept⟩
    -- the table was put in by the last step or before it
    rcases inserted_concat.1 hinserted with ⟨rfl, -⟩ | ⟨later', rfl, hinserted'⟩
    · exact .inl ⟨t, rfl, hid⟩
    · right
      rw [List.mem_append, List.mem_singleton, not_or] at hkept
      exact ⟨⟨t, later', hinserted', hid, hkept.1⟩, Ne.symm hkept.2⟩
  · rintro (⟨u, rfl, hid⟩ | ⟨⟨t, later, hinserted, hid, hkept⟩, hstep⟩)
    · exact ⟨u, [], ⟨steps, rfl⟩, hid, List.not_mem_nil⟩
    · refine ⟨t, later ++ [step], inserted_concat.2 (.inr ⟨later, rfl, hinserted⟩), hid, ?_⟩
      rw [List.mem_append, List.mem_singleton, not_or]
      exact ⟨hkept, hstep.symm⟩

/-- A `step` brings the layout of the table that it puts in, and only forgetting takes one away. -/
theorem exists_layout?_after {r : Registry} {step : Step} {id : TableId} :
    (∃ layout, (r.after step).catalog.layout? id = some layout) ↔
      (∃ u, step = .insert u ∧ u.id = id) ∨
        (∃ layout, r.catalog.layout? id = some layout) ∧ step ≠ .removeLayout id := by
  cases step with
  | insert u =>
      rw [after, layout?_insert]
      by_cases hid : u.id = id
      · simp [hid]
      · simp [hid]
  | markDeleted id' => simp [after, layout?_markDeleted]
  | removeLayout id' =>
      rw [after, layout?_removeLayout]
      by_cases hid : id' = id
      · simp [hid]
      · simp [hid]

/-- There is a layout for `id` if its table was put in and the layout was not forgotten after
that. -/
theorem exists_layout?_ofHistory (steps : List Step) (id : TableId) :
    (∃ layout, (ofHistory steps).catalog.layout? id = some layout) ↔ Stored steps id := by
  induction steps using List.reverseRecOn with
  | nil =>
      constructor
      · rintro ⟨layout, h⟩
        cases h
      · intro h
        exact absurd h (not_stored_nil id)
  | append_singleton steps step ih =>
      rw [ofHistory_concat, exists_layout?_after, stored_concat, ih]

/-! ## Compiling the tables of a registry -/

theorem KeepsLayouts.contains {r : Registry} (h : r.KeepsLayouts) {id : TableId} {t : Table}
    {layout : Layout} (ht : r.catalog.table? id = some t)
    (hlayout : r.catalog.layout? id = some layout) (field : FieldId) :
    layout.contains field = t.schema.contains field := by
  rcases h id layout hlayout with ⟨t', ht', rfl⟩
  rw [ht, Option.some.injEq] at ht'
  subst ht'
  exact Layout.isSome_columns?_ofTable t field

/-- What the relation `rel` leads to, unless it is deleted, is a table of the registry `r`. -/
theorem exists_table?_of_reaches {r : Registry} {t : Table} (ht : r.catalog.table? t.id = some t)
    {rel : Relation} (h : t.reaches r.catalog rel = true) :
    ∃ foreign, r.catalog.table? (rel.foreignTable t.id) = some foreign ∧
      t.foreign? r.catalog rel = some foreign := by
  by_cases hself : rel.foreignTable t.id = t.id
  · rw [hself]
    exact ⟨t, ht, by rw [Table.foreign?, if_pos hself]⟩
  · rw [Table.foreign?, if_neg hself]
    cases hforeign : r.catalog.table? (rel.foreignTable t.id) with
    | some foreign => exact ⟨foreign, rfl, rfl⟩
    | none => simp [Table.reaches, hself, hforeign] at h

section Compile

variable {r : Registry} {t : Table} {e : CompileError}

/-- What a table of the registry `r` can fail for: a table that has lost its layout, or what the
fields name; never a layout that lacks a field. -/
inductive Blames (r : Registry) : CompileError → Prop
  | layout {id : TableId} {lost : Table} (hlost : r.catalog.table? id = some lost)
      (h : r.catalog.layout? id = none) : Blames r (.missingLayout id)
  | missingOwner {field owner : FieldId} : Blames r (.missingOwner field owner)
  | invalidOwner {field owner : FieldId} : Blames r (.invalidOwner field owner)
  | unknownForeignField {table : TableId} {field : FieldId} :
      Blames r (.unknownForeignField table field)

theorem KeepsLayouts.blames_of_relation (h : r.KeepsLayouts)
    (ht : r.catalog.table? t.id = some t) {own : Layout}
    (hown : r.catalog.layout? t.id = some own) {f : Field} (hf : f ∈ t.schema.fields)
    {rel : Relation} (hfails : t.RelationFails r.catalog own f.id rel e) : r.Blames e := by
  cases hfails with
  | own hmissing =>
      -- the layout of the table knows all of its fields
      have hcontains : t.schema.contains f.id = true := t.schema.contains_iff.2 ⟨f, hf, rfl⟩
      rw [h.contains ht hown, hcontains] at hmissing
      cases hmissing
  | foreign _ hlive hmissing =>
      rcases exists_table?_of_reaches ht hlive with ⟨foreign, hforeign, -⟩
      exact .layout hforeign hmissing
  | @read foreign layout _ _ hlive hleads hstored hread =>
      rcases exists_table?_of_reaches ht hlive with ⟨foreign', hforeign, hleads'⟩
      rw [hleads, Option.some.injEq] at hleads'
      subst hleads'
      rcases hread.exists_fails with ⟨id, -, hid⟩
      cases hid with
      | unknown => exact .unknownForeignField
      -- a layout that lacks a field of its table would not be that of the table
      | unstored hknown hunstored =>
          rw [h.contains hforeign hstored, hknown] at hunstored
          cases hunstored

/-- A table `t` of a registry that keeps layouts fails for nothing but what `Blames` lists. -/
theorem KeepsLayouts.blames (h : r.KeepsLayouts) (ht : r.catalog.table? t.id = some t)
    {options : Options} {base : Sql.Query}
    (hcompile : compile r.catalog options t base = .error e) : r.Blames e := by
  cases compile_eq_error_iff_fails.1 hcompile with
  | unstored hmissing => exact .layout ht hmissing
  | field hown hfirst =>
      rcases hfirst.exists_fails with ⟨f, hf, hfails⟩
      cases hfails with
      | relation _ hrelation => exact h.blames_of_relation ht hown hf hrelation
      | owner _ ho _ hrelation => exact h.blames_of_relation ht hown ho hrelation
      | missingOwner => exact .missingOwner
      | invalidOwner => exact .invalidOwner

end Compile

/-! ## What a registry tells of its history -/

/-- What the registry `r` tells of the history `steps` that led to it. -/
structure Recalls (r : Registry) (steps : List Step) : Prop where
  /-- A table `t` is the last one that was put in under `id`, deleted as well if it was marked
  later. -/
  tables : ∀ id t, r.catalog.table? id = some t ↔
    ∃ inserted later, LastInserted steps id inserted later ∧
      t = { inserted with deleted := t.deleted } ∧
      (t.deleted = true ↔ inserted.deleted = true ∨ .markDeleted id ∈ later)
  /-- There is a layout for `id` if, after its table was put in some time, it was not forgotten. -/
  layouts : ∀ id, (∃ layout, r.catalog.layout? id = some layout) ↔
    ∃ inserted later, Inserted steps inserted later ∧ inserted.id = id ∧
      .removeLayout id ∉ later
  /-- A layout is that of the table `t` which is there now, and knows just the fields of `t`. -/
  agrees : ∀ id layout, r.catalog.layout? id = some layout →
    ∃ t, r.catalog.table? id = some t ∧ layout = .ofTable t ∧ layout.table = id ∧
      ∀ field, layout.contains field = t.schema.contains field
  /-- Marking tells whether there is a table under `id`, and does nothing if there is none. -/
  marks : ∀ id, ((r.markDeleted id).1 = true ↔ ∃ t, r.catalog.table? id = some t) ∧
    ((r.markDeleted id).1 = false → (r.markDeleted id).2 = r)
  /-- No layout of a table `t` that is compiled, or of one that it leads to, lacks a field. -/
  consistent : ∀ id t, r.catalog.table? id = some t → ∀ options base table field,
    compile r.catalog options t base ≠ .error (.inconsistentLayout table field)
  /-- If the layout of `lost` is missing, it was forgotten after the table was put in last. -/
  missing : ∀ id t, r.catalog.table? id = some t → ∀ options base lost,
    compile r.catalog options t base = .error (.missingLayout lost) →
      ∃ inserted later, LastInserted steps lost inserted later ∧ .removeLayout lost ∈ later

/-- A table `t` is `inserted` as marked by `later` if it differs in nothing but its mark. -/
theorem eq_markedBy_iff {t inserted : Table} {later : List Step} :
    t = markedBy inserted later ↔ t = { inserted with deleted := t.deleted } ∧
      (t.deleted = true ↔ inserted.deleted = true ∨ .markDeleted inserted.id ∈ later) := by
  rw [← Step.any_marks_iff, ← Bool.or_eq_true, ← Bool.eq_iff_iff]
  constructor
  · rintro rfl
    exact ⟨rfl, rfl⟩
  · rintro ⟨hsame, hdeleted⟩
    rw [hsame, hdeleted]
    rfl

/-- Marking tells whether there is a table under `id`, and leaves `r` as it is if there is none. -/
theorem markDeleted_cases (r : Registry) (id : TableId) :
    ((r.markDeleted id).1 = true ∧ ∃ t, r.catalog.table? id = some t) ∨
      ((r.markDeleted id).1 = false ∧ (r.markDeleted id).2 = r ∧ r.catalog.table? id = none) := by
  unfold markDeleted
  split
  case h_1 t ht => exact .inl ⟨rfl, t, ht⟩
  case h_2 hnone => exact .inr ⟨rfl, rfl, hnone⟩

/-- A table `t` whose layout is missing was put in, and its layout was forgotten after the last
time. -/
theorem removed_of_layout?_eq_none {steps : List Step} {id : TableId} {t : Table}
    (ht : (ofHistory steps).catalog.table? id = some t)
    (h : (ofHistory steps).catalog.layout? id = none) :
    ∃ inserted later, LastInserted steps id inserted later ∧ .removeLayout id ∈ later := by
  rcases (table?_ofHistory steps id t).1 ht with ⟨inserted, later, hlast, -⟩
  refine ⟨inserted, later, hlast, ?_⟩
  by_contra hkept
  -- had the layout not been forgotten, it would still be there
  have hstored : Stored steps id := ⟨inserted, later, hlast.inserted, hlast.named, hkept⟩
  rcases (exists_layout?_ofHistory steps id).2 hstored with ⟨layout, hlayout⟩
  rw [h] at hlayout
  cases hlayout

/-- The registry that `steps` lead to tells all of this of them. -/
theorem recalls_ofHistory (steps : List Step) : (ofHistory steps).Recalls steps := by
  have hkeeps := keepsLayouts_ofHistory steps
  have hblames : ∀ id t, (ofHistory steps).catalog.table? id = some t → ∀ options base e,
      compile (ofHistory steps).catalog options t base = .error e → (ofHistory steps).Blames e := by
    intro id t ht options base e hcompile
    have hid : t.id = id := (ofHistory steps).named id t ht
    subst hid
    exact hkeeps.blames ht hcompile
  constructor
  case tables =>
    intro id t
    rw [table?_ofHistory]
    constructor
    · rintro ⟨inserted, later, hlast, ht⟩
      refine ⟨inserted, later, hlast, ?_⟩
      rw [← hlast.named]
      exact eq_markedBy_iff.1 ht
    · rintro ⟨inserted, later, hlast, ht⟩
      rw [← hlast.named] at ht
      exact ⟨inserted, later, hlast, eq_markedBy_iff.2 ht⟩
  case layouts => exact exists_layout?_ofHistory steps
  case agrees =>
    intro id layout hlayout
    rcases hkeeps id layout hlayout with ⟨t, ht, heq⟩
    refine ⟨t, ht, heq, ?_, hkeeps.contains ht hlayout⟩
    rw [heq, Layout.table_ofTable]
    exact (ofHistory steps).named id t ht
  case marks =>
    intro id
    rcases markDeleted_cases (ofHistory steps) id with ⟨hmarks, t, ht⟩ | ⟨hmarks, hsame, hnone⟩
    · simp [hmarks, ht]
    · simp [hmarks, hsame, hnone]
  case consistent =>
    intro id t ht options base table field hcompile
    -- no error in `Blames` is about a layout that lacks a field
    cases hblames id t ht options base _ hcompile
  case missing =>
    intro id t ht options base lost hcompile
    cases hblames id t ht options base _ hcompile with
    | layout hlost hmissing => exact removed_of_layout?_eq_none hlost hmissing

end Registry

end LinkedRecords
