import LinkedRecords.Compile.Walk
import LinkedRecords.Proofs.Distinct
import LinkedRecords.Proofs.Fallible
import LinkedRecords.Proofs.Schema
import Mathlib.Data.List.ReduceOption

/-! # What a walk does

A walk visits fields one by one and remembers what it has compiled. Here it is shown to be the same
as compiling every field apart from the others and keeping the first result of each: the memory
never changes what a field yields, and never hides an error.

* `Scope.visit_eq` — a visit does the task of a field, unless it has been done.
* `Scope.visit_ofEntries` — the step: behind any entries, a field is checked as if it came first.
* `Scope.foldlM_visit` — the run, by induction from the step.
* `Scope.walk_eq` — the main statement about the walk of a table.
-/

namespace LinkedRecords

/-! ## Tasks -/

/-- What the visit of a field compiles: its files, or the relation `r` of a field. -/
inductive Task where
  | files (field : FieldId)
  | relation (field : FieldId) (r : Relation)
deriving DecidableEq, Repr

namespace Task

/-- The field that is compiled. -/
def field : Task → FieldId
  | files field => field
  | relation field _ => field

/-- The kind of that field. -/
def kind : Task → FieldKind
  | files _ => .attachment
  | relation _ r => .relation r

end Task

/-- What becomes of a task: a `fragment` that is joined, or fields that are left out. -/
inductive Outcome where
  | joined (fragment : Fragment)
  | stale (fields : List StaleField)
deriving DecidableEq

namespace Outcome

/-- The fragment, if the field is joined. -/
def fragment? : Outcome → Option Fragment
  | joined fragment => some fragment
  | stale _ => none

/-- The fields left out. -/
def staleFields : Outcome → List StaleField
  | joined _ => []
  | stale fields => fields

end Outcome

/-- Tasks with what became of them. -/
abbrev Entry := Task × Outcome

namespace Progress

/-- The progress `p` with the task of `e` done, and what became of it. -/
def record (p : Progress) (e : Entry) : Progress where
  visited := ⟨p.visited.ids ++ [e.1.field]⟩
  assembly :=
    match e.2 with
    | .joined fragment => (p.assembly.push fragment).2
    | .stale _ => p.assembly
  stale := p.stale ++ e.2.staleFields

/-- The progress with the tasks of `entries` done, each once. -/
def ofEntries (entries : List Entry) : Progress := entries.eraseDups.foldl record {}

theorem visited_foldl_record (p : Progress) (entries : List Entry) :
    (entries.foldl record p).visited.ids = p.visited.ids ++ entries.map (·.1.field) := by
  induction entries generalizing p with
  | nil => simp
  | cons e entries ih => simp [ih, record]

theorem stale_foldl_record (p : Progress) (entries : List Entry) :
    (entries.foldl record p).stale = p.stale ++ entries.flatMap (·.2.staleFields) := by
  induction entries generalizing p with
  | nil => simp
  | cons e entries ih => simp [ih, record]

theorem visited_ofEntries (entries : List Entry) :
    (ofEntries entries).visited.ids = entries.eraseDups.map (·.1.field) := by
  simp [ofEntries, visited_foldl_record]

theorem ofEntries_append_singleton (entries : List Entry) (e : Entry) :
    ofEntries (entries ++ [e]) =
      if e ∈ entries then ofEntries entries else (ofEntries entries).record e := by
  rw [ofEntries, eraseDups_append_singleton]
  by_cases h : e ∈ entries
  · rw [if_pos h, if_pos h, ofEntries]
  · rw [if_neg h, if_neg h, List.foldl_append, ofEntries]
    rfl

end Progress

namespace Scope

variable (s : Scope)

/-- The task of the field `f`: its own, or that of the relation it is attached to. -/
def task? (f : Field) : Except CompileError (Option Task) :=
  match f.kind with
  | .scalar _ => .ok none
  | .attachment => .ok (some (.files f.id))
  | .relation r => .ok (some (.relation f.id r))
  | .attached owner _ =>
    match s.table.field? owner with
    | none => .error (.missingOwner f.id owner)
    | some o =>
      match o.relation? with
      | none => .error (.invalidOwner f.id owner)
      | some r => .ok (some (.relation o.id r))

/-- Does a task, whatever has been done before. -/
def perform : Task → Except CompileError Outcome
  | .files field => .ok (.joined (fileFragment s.options field))
  | .relation field r => do
    match ← s.fragment? field r with
    | some fragment => return .joined fragment
    | none =>
      return .stale (staleFields field (r.foreignTable s.table.id)
        ((s.attached.get? field).getD {}))

/-- Compiles the field `f` apart from all others. -/
def check (f : Field) : Except CompileError (Option Entry) := do
  match ← s.task? f with
  | none => return none
  | some task => return some (task, ← s.perform task)

/-- A visit does the task of `f`, unless its field is among those of `p` that were visited. -/
theorem visit_eq (p : Progress) (f : Field) :
    s.visit p f = (do
      match ← s.task? f with
      | none => return p
      | some task =>
        if task.field ∈ p.visited.ids then return p
        else return p.record (task, ← s.perform task)) := by
  -- a relation is visited from its own field and from every field attached to it
  have hrelation : ∀ (field : FieldId) (r : Relation), s.visitRelation field r p =
      (if field ∈ p.visited.ids then .ok p
        else do return p.record (.relation field r, ← s.perform (.relation field r))) := by
    intro field r
    by_cases hseen : field ∈ p.visited.ids
    · simp [visitRelation, Visited.insert, hseen, pure, Except.pure]
    · rcases hfragment : s.fragment? field r with e | fragment
      · simp [visitRelation, Visited.insert, hseen, perform, hfragment, bind, Except.bind]
      · cases fragment <;>
          simp [visitRelation, Visited.insert, hseen, perform, hfragment, bind, Except.bind, pure,
            Except.pure, Progress.record, Task.field, Outcome.staleFields]
  -- files are compiled in place; a relation by `hrelation`, under its own id or that of the owner
  rcases hkind : f.kind with kind | _ | r | ⟨owner, shows⟩
  · simp [visit, task?, hkind, bind, Except.bind, pure, Except.pure]
  · by_cases hseen : f.id ∈ p.visited.ids
    · simp [visit, task?, hkind, visitFiles, Visited.insert, hseen, bind, Except.bind, pure,
        Except.pure, Task.field]
    · simp [visit, task?, hkind, visitFiles, Visited.insert, hseen, bind, Except.bind, pure,
        Except.pure, Task.field, perform, Progress.record, Outcome.staleFields]
  · simp only [visit, task?, hkind, hrelation]
    rfl
  · cases howner : s.table.field? owner with
    | none => simp [visit, task?, hkind, howner, bind, Except.bind]
    | some o =>
        cases hr : o.relation? with
        | none => simp [visit, task?, hkind, howner, hr, bind, Except.bind]
        | some r =>
            simp only [visit, task?, hkind, howner, hr, hrelation]
            rfl

/-! ## Tasks belong to fields -/

/-- The task of `f` is that of a field `g` of the table, whose id and kind it has. -/
theorem exists_field_of_task {f : Field} (hf : f ∈ s.table.schema.fields) {task : Task}
    (h : s.task? f = .ok (some task)) :
    ∃ g ∈ s.table.schema.fields, g.id = task.field ∧ g.kind = task.kind := by
  rcases hkind : f.kind with kind | _ | r | ⟨owner, shows⟩
  · simp [task?, hkind] at h
  · obtain rfl : Task.files f.id = task := by simpa [task?, hkind] using h
    exact ⟨f, hf, rfl, hkind⟩
  · obtain rfl : Task.relation f.id r = task := by simpa [task?, hkind] using h
    exact ⟨f, hf, rfl, hkind⟩
  · -- the task is that of the owner, which is a relation of the table
    cases howner : s.table.field? owner with
    | none => simp [task?, hkind, howner] at h
    | some o =>
        cases hr : o.relation? with
        | none => simp [task?, hkind, howner, hr] at h
        | some r =>
            obtain rfl : Task.relation o.id r = task := by
              simpa [task?, hkind, howner, hr] using h
            refine ⟨o, (s.table.field?_eq_some_iff.1 howner).1, rfl, ?_⟩
            cases hok : o.kind <;> simp_all [Field.relation?, FieldKind.relation?, Task.kind]

theorem task_unique {f g : Field} (hf : f ∈ s.table.schema.fields)
    (hg : g ∈ s.table.schema.fields) {a b : Task} (ha : s.task? f = .ok (some a))
    (hb : s.task? g = .ok (some b)) (h : a.field = b.field) : a = b := by
  rcases s.exists_field_of_task hf ha with ⟨f', hf', hfid, hfkind⟩
  rcases s.exists_field_of_task hg hb with ⟨g', hg', hgid, hgkind⟩
  have heq : f' = g' := s.table.schema.eq_of_id_eq hf' hg' (by rw [hfid, hgid, h])
  -- a task is its field and the kind of that field
  have hkind : a.kind = b.kind := by rw [← hfkind, ← hgkind, heq]
  cases a <;> cases b <;> simp_all [Task.field, Task.kind]

/-! ## The walk as a list of entries -/

/-- Whether `e` is what some field of the table yields. -/
def Yields (e : Entry) : Prop := ∃ f ∈ s.table.schema.fields, s.check f = .ok (some e)

variable {s}

theorem check_eq_ok {f : Field} {e : Entry} :
    s.check f = .ok (some e) ↔ s.task? f = .ok (some e.1) ∧ s.perform e.1 = .ok e.2 := by
  constructor
  · intro h
    -- the two binds are the task and what becomes of it
    rcases bind_eq_ok.1 h with ⟨task, htask, hrest⟩
    cases task with
    | none => cases hrest
    | some task =>
        rcases bind_eq_ok.1 hrest with ⟨o, ho, hpure⟩
        cases hpure
        exact ⟨htask, ho⟩
  · rintro ⟨htask, ho⟩
    simp [check, htask, ho, bind, Except.bind, pure, Except.pure]

/-- Two entries of the table for the same compiled field are the same entry. -/
theorem Yields.unique {a b : Entry} (ha : s.Yields a) (hb : s.Yields b)
    (h : a.1.field = b.1.field) : a = b := by
  rcases ha with ⟨f, hf, hfa⟩
  rcases hb with ⟨g, hg, hgb⟩
  rcases check_eq_ok.1 hfa with ⟨hta, hoa⟩
  rcases check_eq_ok.1 hgb with ⟨htb, hob⟩
  have htask : a.1 = b.1 := s.task_unique hf hg hta htb h
  rw [htask, hob] at hoa
  exact Prod.ext htask (Except.ok.inj hoa).symm

/-- One visit, after any number of `entries`: the field `f` is checked as if it came first, and what
it yields is an entry more. -/
theorem visit_ofEntries {f : Field} (hf : f ∈ s.table.schema.fields) {entries : List Entry}
    (hentries : ∀ e ∈ entries, s.Yields e) :
    s.visit (.ofEntries entries) f =
      (s.check f).map fun e => .ofEntries (entries ++ e.toList) := by
  rw [visit_eq, check]
  rcases htask : s.task? f with e | task
  · rfl
  · cases task with
    | none => simp [bind, Except.bind, pure, Except.pure, Except.map]
    | some task =>
        by_cases hseen : task.field ∈ (Progress.ofEntries entries).visited.ids
        · -- the field has been compiled, so its entry is there and its check succeeds again
          rw [Progress.visited_ofEntries] at hseen
          rcases List.mem_map.1 hseen with ⟨e, he, hfield⟩
          have hmem : e ∈ entries := List.mem_eraseDups.1 he
          rcases hentries e hmem with ⟨g, hg, hge⟩
          have hsame : e.1 = task := s.task_unique hg hf (check_eq_ok.1 hge).1 htask hfield
          have hperform : s.perform task = .ok e.2 := hsame ▸ (check_eq_ok.1 hge).2
          have hentry : (task, e.2) ∈ entries := by rw [← hsame]; exact hmem
          have hseen' : task.field ∈ (Progress.ofEntries entries).visited.ids := by
            rw [Progress.visited_ofEntries]
            exact hseen
          simp [bind, Except.bind, pure, Except.pure, Except.map, hperform, hseen',
            Progress.ofEntries_append_singleton, hentry]
        · -- nothing in the memory is looked at, so the field fails or yields as if alone
          rcases hperform : s.perform task with e | o
          · simp [bind, Except.bind, Except.map, hperform, hseen]
          · have hnew : (task, o) ∉ entries := by
              intro hmem
              rw [Progress.visited_ofEntries] at hseen
              exact hseen (List.mem_map_of_mem (f := fun e : Entry => e.1.field)
                (List.mem_eraseDups.2 hmem))
            simp [bind, Except.bind, pure, Except.pure, Except.map, hperform, hseen,
              Progress.ofEntries_append_singleton, hnew]

/-- A visit that meets the field `id` for the first time adds the entry that `f` yields. -/
theorem entry_of_visit {f : Field} (hf : f ∈ s.table.schema.fields) {entries : List Entry}
    (hentries : ∀ e ∈ entries, s.Yields e) {p : Progress}
    (h : s.visit (.ofEntries entries) f = .ok p) {id : FieldId} (hid : id ∈ p.visited.ids)
    (hnew : id ∉ (Progress.ofEntries entries).visited.ids) :
    ∃ e, s.check f = .ok (some e) ∧ e ∉ entries ∧ e.1.field = id ∧
      p = .ofEntries (entries ++ [e]) := by
  rw [visit_ofEntries hf hentries] at h
  cases hcheck : s.check f with
  | error e => simp [hcheck, Except.map] at h
  | ok e =>
      simp only [hcheck, Except.map, Except.ok.injEq] at h
      subst h
      cases e with
      | none =>
          rw [Option.toList_none, List.append_nil] at hid
          exact absurd hid hnew
      | some e =>
          rw [Option.toList_some, Progress.ofEntries_append_singleton] at hid
          -- had the entry been there, its field would have been visited before
          have hseen : e ∉ entries := by
            intro he
            rw [if_pos he] at hid
            exact hnew hid
          rw [if_neg hseen, Progress.record] at hid
          refine ⟨e, rfl, hseen, ?_, rfl⟩
          rcases List.mem_append.1 hid with hid | hid
          · exact absurd hid hnew
          · exact (List.mem_singleton.1 hid).symm

theorem foldlM_visit {fields : List Field} (hfields : ∀ f ∈ fields, f ∈ s.table.schema.fields)
    {entries : List Entry} (hentries : ∀ e ∈ entries, s.Yields e) :
    fields.foldlM s.visit (.ofEntries entries) =
      (fields.mapM s.check).map fun es => .ofEntries (entries ++ es.reduceOption) := by
  -- the entries grow from visit to visit, so they stay arbitrary
  induction fields generalizing entries with
  | nil => simp [pure, Except.pure, Except.map]
  | cons f fields ih =>
      have hf : f ∈ s.table.schema.fields := hfields f List.mem_cons_self
      rw [List.foldlM_cons, List.mapM_cons, visit_ofEntries hf hentries]
      rcases hcheck : s.check f with e | e
      · rfl
      · -- the entries so far stay entries of the table, which is all that the next visit asks for
        have hentries' : ∀ x ∈ entries ++ e.toList, s.Yields x := by
          intro x hx
          rcases List.mem_append.1 hx with hx | hx
          · exact hentries x hx
          · rw [Option.mem_toList] at hx
            exact ⟨f, hf, by rw [hcheck, hx]⟩
        have hrest := ih (fun g hg => hfields g (List.mem_cons_of_mem f hg)) hentries'
        simp only [bind, Except.bind, Except.map, hrest]
        rcases fields.mapM s.check with e' | es
        · rfl
        · cases e <;> simp [pure, Except.pure, List.reduceOption_cons_of_some,
            List.reduceOption_cons_of_none]

theorem foldlM_visit_empty {fields : List Field}
    (hfields : ∀ f ∈ fields, f ∈ s.table.schema.fields) :
    fields.foldlM s.visit {} =
      (fields.mapM s.check).map fun es => .ofEntries es.reduceOption := by
  have hnone : ∀ e ∈ ([] : List Entry), s.Yields e := fun e he => by simp at he
  exact foldlM_visit hfields hnone

/-- Visits of fields of the table leave `entries` behind that the table yields, and nothing else. -/
theorem entries_of_visits {fields : List Field}
    (hfields : ∀ f ∈ fields, f ∈ s.table.schema.fields) {p : Progress}
    (h : fields.foldlM s.visit {} = .ok p) :
    ∃ entries : List Entry, (∀ e ∈ entries, s.Yields e) ∧ p = .ofEntries entries := by
  rw [foldlM_visit_empty hfields] at h
  cases hes : fields.mapM s.check with
  | error e => simp [hes, Except.map] at h
  | ok es =>
      simp only [hes, Except.map, Except.ok.injEq] at h
      -- fields with nothing to compile yield no entry, so they are dropped
      refine ⟨es.reduceOption, fun e he => ?_, h.symm⟩
      rcases exists_of_mem_mapM hes (List.reduceOption_mem_iff.1 he) with ⟨f, hf, hcheck⟩
      exact ⟨f, hfields f hf, hcheck⟩

/-- The walk compiles every field apart from the others with `check`, and keeps the first entry of
each. -/
theorem walk_eq (s : Scope) :
    s.walk = (s.table.schema.fields.mapM s.check).map fun es => .ofEntries es.reduceOption :=
  foldlM_visit_empty fun _ hf => hf

end Scope

end LinkedRecords
