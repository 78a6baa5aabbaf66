import LinkedRecords.Compile.DisplayColumns
import LinkedRecords.Proofs.Distinct
import LinkedRecords.Proofs.Fallible

/-! # Collecting shown columns

A relation shows the fields it lists, or those that the foreign table flags if it lists none. Their
columns are found if all of the fields are in the foreign table and known to its layout; otherwise
the first field that is not tells what is wrong.

* `Relation.mem_displayIds` — the fields that a relation shows.
* `DisplayColumn.field_of_collect`, `DisplayColumn.columns_of_collect` — each field is collected
  once, with the columns that the layout has for it.
* `DisplayColumn.collect_eq_error` — the error is that of the first field that cannot be read.
-/

namespace LinkedRecords

namespace Layout

theorem require_eq_ok {l : Layout} {field : FieldId} {columns : List Column} :
    l.require field = .ok columns ↔ l.columns? field = some columns := by
  rw [Layout.require]
  cases l.columns? field <;> simp

theorem require_eq_error {l : Layout} {field : FieldId} {e : CompileError} :
    l.require field = .error e ↔
      l.columns? field = none ∧ e = .inconsistentLayout l.table field := by
  rw [Layout.require]
  cases l.columns? field <;> simp [eq_comm]

end Layout

/-! ## Which fields a relation shows -/

namespace Relation

variable {r : Relation} {foreign : Table}

/-- A relation that lists fields in `r.display` shows just those, in the order of the list. -/
theorem displayIds_of_ne_nil (h : r.display ≠ []) : r.displayIds foreign = r.display := by
  rw [displayIds, if_neg (by simpa using h)]

/-- A relation that lists no fields shows those that `foreign` flags, in the order of its schema. -/
theorem displayIds_of_eq_nil (h : r.display = []) :
    r.displayIds foreign = (foreign.schema.fields.filter (·.display)).map (·.id) := by
  rw [displayIds, if_pos (by simpa using h), Schema.displayIds]

theorem mem_displayIds {id : FieldId} :
    id ∈ r.displayIds foreign ↔
      id ∈ r.display ∨
        r.display = [] ∧ ∃ g ∈ foreign.schema.fields, g.display = true ∧ g.id = id := by
  by_cases h : r.display = []
  · rw [displayIds_of_eq_nil h, h]
    simp [and_assoc]
  · rw [displayIds_of_ne_nil h]
    simp [h]

end Relation

/-! ## Collecting their columns -/

/-- A member of `as` that comes again does not change the first error `e`. -/
theorem FirstError.eraseDups_iff {α ε : Type} [BEq α] [LawfulBEq α] {fails : α → ε → Prop}
    {as : List α} {e : ε} : FirstError fails as.eraseDups e ↔ FirstError fails as e := by
  induction as with
  | nil => rfl
  | cons a as ih =>
      rw [eraseDups_cons_eq_filter, cons_iff, cons_iff]
      apply or_congr_right
      apply and_congr_right
      -- the later members that are dropped equal `a`, which did not fail
      intro hok
      rw [← ih]
      apply filter_iff
      intro b _ hb
      obtain rfl : b = a := by simpa using hb
      exact hok

namespace DisplayColumn

variable {foreign : Table} {layout : Layout}

theorem ofField_eq_ok {field : FieldId} {c : DisplayColumn} :
    ofField foreign layout field = .ok c ↔
      foreign.schema.contains field = true ∧ c.field = field ∧
        layout.columns? field = some c.columns := by
  rw [ofField]
  by_cases hcontains : foreign.schema.contains field = true
  · rw [if_pos hcontains, bind_eq_ok]
    simp only [Layout.require_eq_ok, hcontains, true_and]
    constructor
    · rintro ⟨columns, hcolumns, hpure⟩
      cases hpure
      exact ⟨rfl, hcolumns⟩
    · rintro ⟨rfl, hcolumns⟩
      exact ⟨c.columns, hcolumns, rfl⟩
  · simp [hcontains, throw, throwThe, MonadExceptOf.throw]

/-- If `foreign` lacks the field, that is the error `e`, whether or not the `layout` knows the
field. -/
theorem ofField_eq_error {field : FieldId} {e : CompileError} :
    ofField foreign layout field = .error e ↔
      foreign.schema.contains field = false ∧ e = .unknownForeignField foreign.id field ∨
        foreign.schema.contains field = true ∧ layout.columns? field = none ∧
          e = .inconsistentLayout layout.table field := by
  rw [ofField]
  by_cases hcontains : foreign.schema.contains field = true
  · -- `foreign` has the field, so only the layout can refuse it
    rw [if_pos hcontains, bind_eq_error]
    simp only [Layout.require_eq_error, hcontains, true_and]
    simp [pure, Except.pure]
  · simp [hcontains, throw, throwThe, MonadExceptOf.throw, eq_comm]

variable {fields : List FieldId}

/-- The `columns` are those of the `fields`, each where it comes first. -/
theorem field_of_collect {columns : List DisplayColumn}
    (h : collect foreign layout fields = .ok columns) :
    columns.map (·.field) = fields.eraseDups := by
  rw [collect] at h
  -- what the ids come from does not matter for the rest
  generalize fields.eraseDups = ids at h
  induction mapM_eq_ok.1 h with
  | nil => rfl
  | cons hfield hrest ih =>
      rw [List.map_cons, (ofField_eq_ok.1 hfield).2.1, ih (mapM_eq_ok.2 hrest)]

theorem known_of_collect {columns : List DisplayColumn}
    (h : collect foreign layout fields = .ok columns) {field : FieldId} (hfield : field ∈ fields) :
    foreign.schema.contains field = true := by
  rcases ok_of_mapM h (List.mem_eraseDups.2 hfield) with ⟨c, -, hc⟩
  exact (ofField_eq_ok.1 hc).1

theorem columns_of_collect {columns : List DisplayColumn}
    (h : collect foreign layout fields = .ok columns) {c : DisplayColumn} (hc : c ∈ columns) :
    layout.columns? c.field = some c.columns := by
  rcases exists_of_mem_mapM h hc with ⟨field, -, hfield⟩
  rcases ofField_eq_ok.1 hfield with ⟨-, rfl, hcolumns⟩
  exact hcolumns

theorem error_of_collect {e : CompileError} (h : collect foreign layout fields = .error e) :
    ∃ field ∈ fields, ofField foreign layout field = .error e := by
  rcases exists_error_of_mapM h with ⟨field, hfield, he⟩
  exact ⟨field, List.mem_eraseDups.1 hfield, he⟩

/-- The error `e` of a collection is that of the first of the `fields` that cannot be read. -/
theorem collect_eq_error {e : CompileError} :
    collect foreign layout fields = .error e ↔
      FirstError (fun field e => ofField foreign layout field = .error e) fields e := by
  rw [collect, mapM_eq_error, FirstError.eraseDups_iff]

end DisplayColumn

end LinkedRecords
