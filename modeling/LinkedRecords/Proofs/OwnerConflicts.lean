import LinkedRecords.Proofs.Validation

/-! # Conflicts of ownership

Of the two references of a symmetric pair one owns the edges. Validation reports a pair in which
both or none do so, and names the field that sorts first in front. It looks at the pair from every
reference of the table on its own, so a pair of which both references are fields of the table is
reported twice, and every other one at most once.

* `Table.Contests`, `Table.Disputes` — who contests the edges of a pair.
* `Table.reports` — a field reports one conflict at most, behind everything else.
* `Table.Reports.countP_fieldProblems`, `Table.countP_problems` — conflicts counted for one field,
  and for a table.
* `Table.ownerConflicts` — how often a conflict is reported, and which field it names first.
* `ownerConflicts_twice_teams` — a table that reports one conflict twice.
-/

namespace LinkedRecords

/-! ## Conflicts -/

/-- The reference that the field `f` is, if it is one. -/
def Field.reference? (f : Field) : Option Reference :=
  match f.kind with
  | .relation (.reference r) => some r
  | _ => none

theorem Field.reference?_eq_some_iff {f : Field} {r : Reference} :
    f.reference? = some r ↔ f.kind = .relation (.reference r) := by
  rcases hkind : f.kind with kind | _ | (r' | h | h) | ⟨owner, shows⟩
  all_goals simp [reference?, hkind]

/-- Of `fields` with distinct ids, one at most has a given `id`. -/
theorem Field.countP_id {fields : List Field} (h : (fields.map Field.id).Nodup) (id : FieldId)
    (P : Field → Prop) [DecidablePred P] :
    fields.countP (fun f => f.id = id ∧ P f) = if ∃ f ∈ fields, f.id = id ∧ P f then 1 else 0 := by
  induction fields with
  | nil => simp
  | cons f fields ih =>
      rw [List.map_cons, List.nodup_cons] at h
      rw [List.countP_cons, ih h.2]
      by_cases hf : f.id = id ∧ P f
      · -- no other field has the id
        have hothers : ¬∃ g ∈ fields, g.id = id ∧ P g := by
          rintro ⟨g, hg, hid, -⟩
          exact h.1 (List.mem_map.2 ⟨g, hg, hid.trans hf.1.symm⟩)
        simp [hf, hothers]
      · simp [hf]

/-- Fields that meet `P` or `Q` are counted one by one, if none meets both. -/
theorem Field.countP_or {fields : List Field} (P Q : Field → Prop) [DecidablePred P]
    [DecidablePred Q] (h : ∀ f, P f → ¬Q f) :
    fields.countP (fun f => P f ∨ Q f) =
      fields.countP (fun f => P f) + fields.countP (fun f => Q f) := by
  induction fields with
  | nil => rfl
  | cons f fields ih =>
      simp only [List.countP_cons, ih]
      by_cases hP : P f
      · simp [hP, h f hP]
        omega
      · simp [hP]
        omega

namespace Problem

/-- Whether a problem is a conflict of ownership between the fields `a` and `b`, whichever it names
first. -/
def IsConflictOf (a b : FieldId) : Problem → Prop
  | ownerConflict field symmetric _ => field = a ∧ symmetric = b ∨ field = b ∧ symmetric = a
  | _ => False

instance (a b : FieldId) : DecidablePred (IsConflictOf a b)
  | ownerConflict field symmetric _ =>
    inferInstanceAs (Decidable (field = a ∧ symmetric = b ∨ field = b ∧ symmetric = a))
  | undefinedTable .. | undefinedField .. | invalidOwner .. | symmetricMismatch ..
  | invalidHierarchy .. => inferInstanceAs (Decidable False)

/-- Whether a problem names the field that sorts first in front, if it is a conflict of
ownership. -/
def NamesFirst : Problem → Prop
  | ownerConflict field symmetric _ => field ≤ symmetric
  | _ => True

/-- Whether a problem is no conflict of ownership. -/
def Peaceful : Problem → Prop
  | ownerConflict .. => False
  | _ => True

variable {p : Problem} {a b : FieldId}

theorem Peaceful.not_isConflictOf (h : p.Peaceful) : ¬p.IsConflictOf a b := by
  cases p with
  | ownerConflict field symmetric both => cases h
  | _ => exact not_false

theorem Peaceful.of_mem_singleton {problem : Problem} (h : p ∈ [problem])
    (hproblem : problem.Peaceful) : p.Peaceful := by
  rw [List.mem_singleton.1 h]
  exact hproblem

theorem Peaceful.of_mem_ite {problem : Problem} {cond : Prop} [Decidable cond]
    (h : p ∈ if cond then [] else [problem]) (hproblem : problem.Peaceful) : p.Peaceful := by
  by_cases hcond : cond
  · rw [if_pos hcond] at h
    cases h
  · rw [if_neg hcond] at h
    exact .of_mem_singleton h hproblem

theorem OfHierarchy.peaceful {table : TableId} {field : FieldId} {h : Hierarchy}
    (hp : p.OfHierarchy table field h) : p.Peaceful := by
  cases hp with
  | missing hpartner => trivial
  | unpaired issue => trivial

theorem Peaceful.namesFirst (h : p.Peaceful) : p.NamesFirst := by
  cases p with
  | ownerConflict field symmetric both => cases h
  | _ => trivial

end Problem

namespace Table

variable (t : Table) (c : Catalog)

/-- The reference at the other end of the pair of `r`, if there is one. -/
def opposite? (r : Reference) : Option Reference := do
  let symmetric ← r.symmetric
  let foreign ← t.foreign? c (.reference r)
  let partner ← foreign.field? symmetric
  partner.reference?

/-- Whether `f` is a reference that names `symmetric` as the other end of its pair, and this is a
reference as well which owns the edges just as much. -/
def Contests (f : Field) (symmetric : FieldId) : Prop :=
  ∃ r ∈ f.reference?, r.symmetric = some symmetric ∧
    ∃ p ∈ t.opposite? c r, p.isOwner = r.isOwner

instance (f : Field) (symmetric : FieldId) : Decidable (t.Contests c f symmetric) :=
  inferInstanceAs (Decidable (∃ r ∈ f.reference?, _))

/-- Whether `field` is a reference of the table `t` that contests the edges with `symmetric`. -/
def Disputes (field symmetric : FieldId) : Prop :=
  ∃ f ∈ t.field? field, t.Contests c f symmetric

instance (field symmetric : FieldId) : Decidable (t.Disputes c field symmetric) :=
  inferInstanceAs (Decidable (∃ f ∈ t.field? field, _))

variable {t c}

/-! ## What a field reports -/

theorem isConflictOf_ownerProblem {field symmetric a b : FieldId} {both : Bool} :
    (ownerProblem field symmetric both).IsConflictOf a b ↔
      field = a ∧ symmetric = b ∨ field = b ∧ symmetric = a := by
  rw [ownerProblem]
  split
  case isTrue => rfl
  case isFalse =>
    -- the fields change places, and so do the sides
    rw [Problem.IsConflictOf, or_comm, and_comm, and_comm (a := symmetric = a)]

theorem namesFirst_ownerProblem (field symmetric : FieldId) (both : Bool) :
    (ownerProblem field symmetric both).NamesFirst := by
  rw [ownerProblem]
  split
  case isTrue hle => exact hle
  -- of two ids one sorts first, so it is the other one that was given first
  case isFalse hle => exact (String.le_total _ _).resolve_left hle

theorem peaceful_missingFields {field : FieldId} {foreign : Table} {ids : List FieldId}
    {p : Problem} (h : p ∈ missingFields field foreign ids) : p.Peaceful := by
  rcases exists_of_mem_missingFields h with ⟨id, -, -, rfl⟩
  trivial

theorem peaceful_relationProblems {field : FieldId} {r : Relation} {p : Problem}
    (h : p ∈ t.relationProblems c field r) : p.Peaceful := by
  rw [relationProblems] at h
  split at h
  case h_1 => exact peaceful_missingFields h
  case h_2 =>
    rw [List.mem_singleton.1 h]
    trivial

theorem peaceful_attachedProblems {field owner : FieldId} {sources : List FieldId} {p : Problem}
    (h : p ∈ t.attachedProblems c field owner sources) : p.Peaceful := by
  rw [attachedProblems] at h
  split at h
  case h_1 => exact .of_mem_singleton h trivial
  case h_2 =>
    split at h
    case h_1 => exact .of_mem_singleton h trivial
    case h_2 =>
      split at h
      case h_1 => exact peaceful_missingFields h
      case h_2 => cases h

/-- What the field `f` reports: no conflict, or one behind everything else. -/
inductive Reports (t : Table) (c : Catalog) (f : Field) : Prop
  | peace (hpeace : ∀ p ∈ t.fieldProblems c f, p.Peaceful)
      (hnone : ∀ symmetric, ¬t.Contests c f symmetric) : Reports t c f
  | conflict {others : List Problem} {symmetric : FieldId} {both : Bool}
      (heq : t.fieldProblems c f = others ++ [ownerProblem f.id symmetric both])
      (hpeace : ∀ p ∈ others, p.Peaceful)
      (hone : ∀ x, t.Contests c f x ↔ symmetric = x) : Reports t c f

theorem contests_iff {f : Field} {r : Reference} (hkind : f.kind = .relation (.reference r))
    {symmetric : FieldId} :
    t.Contests c f symmetric ↔
      r.symmetric = some symmetric ∧ ∃ p, t.opposite? c r = some p ∧ p.isOwner = r.isOwner := by
  rw [Contests, Field.reference?_eq_some_iff.2 hkind]
  simp only [Option.mem_def, Option.some.injEq, exists_eq_left']

/-- A field `f` that is no reference contests nothing. -/
theorem not_contests {f : Field} (hkind : ∀ r, f.kind ≠ .relation (.reference r))
    (symmetric : FieldId) : ¬t.Contests c f symmetric := by
  rintro ⟨r, hr, -⟩
  exact hkind r (Field.reference?_eq_some_iff.1 hr)

theorem opposite?_eq_some_iff {r p : Reference} :
    t.opposite? c r = some p ↔
      ∃ symmetric, r.symmetric = some symmetric ∧
        ∃ foreign, t.foreign? c (.reference r) = some foreign ∧
          ∃ g, foreign.field? symmetric = some g ∧ g.kind = .relation (.reference p) := by
  simp only [opposite?, Option.bind_eq_bind, Option.bind_eq_some_iff,
    Field.reference?_eq_some_iff]

/-- A reference `r` without another one at the other end reports no conflict. -/
theorem peaceful_symmetricProblems {field : FieldId} {r : Reference}
    (h : t.opposite? c r = none) {p : Problem} (hp : p ∈ t.symmetricProblems c field r) :
    p.Peaceful := by
  rw [symmetricProblems] at hp
  split at hp
  case h_2 => cases hp
  case h_1 symmetric foreign hsymmetric hforeign =>
    split at hp
    case h_1 => exact .of_mem_singleton hp trivial
    case h_2 g hg =>
      split at hp
      case h_2 => exact .of_mem_singleton hp trivial
      case h_1 q hkind =>
        have hopposite : t.opposite? c r = some q :=
          opposite?_eq_some_iff.2 ⟨symmetric, hsymmetric, foreign, hforeign, g, hg, hkind⟩
        rw [h] at hopposite
        cases hopposite

/-- A reference `r` reports who owns the edges behind the other `mismatches` of its pair. -/
theorem symmetricProblems_eq (field : FieldId) {symmetric : FieldId} {r p : Reference}
    (hsymmetric : r.symmetric = some symmetric) (h : t.opposite? c r = some p) :
    ∃ mismatches : List Problem, (∀ x ∈ mismatches, x.Peaceful) ∧
      t.symmetricProblems c field r = mismatches ++
        if p.isOwner = r.isOwner then [ownerProblem field symmetric r.isOwner] else [] := by
  rcases opposite?_eq_some_iff.1 h with ⟨symmetric', hsymmetric', foreign, hforeign, g, hg, hkind⟩
  obtain rfl : symmetric = symmetric' := by
    rw [← Option.some.injEq, ← hsymmetric, hsymmetric']
  simp only [symmetricProblems, hsymmetric, hforeign, hg, hkind]
  -- the last of the three conditions is about the owner; the others are mismatches
  refine ⟨_, ?_, rfl⟩
  intro x hx
  rcases List.mem_append.1 hx with hx | hx
  · exact .of_mem_ite hx trivial
  · exact .of_mem_ite hx trivial

theorem reports_reference {f : Field} {r : Reference} (hkind : f.kind = .relation (.reference r)) :
    t.Reports c f := by
  have hproblems : t.fieldProblems c f =
      t.relationProblems c f.id (.reference r) ++ t.symmetricProblems c f.id r := by
    rw [fieldProblems, hkind]
  have hrelation : ∀ p ∈ t.relationProblems c f.id (.reference r), p.Peaceful := by
    intro p hp
    exact peaceful_relationProblems hp
  cases hopposite : t.opposite? c r with
  | none =>
      apply Reports.peace
      · rw [hproblems, List.forall_mem_append]
        exact ⟨hrelation, fun p hp => peaceful_symmetricProblems hopposite hp⟩
      · simp [contests_iff hkind, hopposite]
  | some p =>
      rcases opposite?_eq_some_iff.1 hopposite with ⟨symmetric, hsymmetric, -⟩
      rcases symmetricProblems_eq f.id hsymmetric hopposite with
        ⟨mismatches, hmismatches, hsymmetricProblems⟩
      have hcontests : ∀ x, t.Contests c f x ↔ symmetric = x ∧ p.isOwner = r.isOwner := by
        simp [contests_iff hkind, hsymmetric, hopposite]
      -- both or none own the edges, or there is nothing to report
      by_cases howner : p.isOwner = r.isOwner
      · rw [if_pos howner] at hsymmetricProblems
        have heq : t.fieldProblems c f =
            (t.relationProblems c f.id (.reference r) ++ mismatches) ++
              [ownerProblem f.id symmetric r.isOwner] := by
          rw [hproblems, hsymmetricProblems, List.append_assoc]
        apply Reports.conflict heq
        · rw [List.forall_mem_append]
          exact ⟨hrelation, hmismatches⟩
        · intro x
          rw [hcontests, and_iff_left howner]
      · rw [if_neg howner, List.append_nil] at hsymmetricProblems
        apply Reports.peace
        · rw [hproblems, hsymmetricProblems, List.forall_mem_append]
          exact ⟨hrelation, hmismatches⟩
        · intro x hx
          exact howner ((hcontests x).1 hx).2

/-- Every field `f` reports one conflict at most, and it does so just if it contests something. -/
theorem reports (f : Field) : t.Reports c f := by
  rcases hkind : f.kind with kind | _ | (r | h | h) | ⟨owner, shows⟩
  case relation.reference => exact reports_reference hkind
  -- no other field contests anything, and no problem of theirs is a conflict
  all_goals
    refine .peace ?_ (not_contests (by simp [hkind]))
    intro p hp
    rw [fieldProblems, hkind] at hp
  case scalar | attachment => cases hp
  case relation.tree =>
    rcases List.mem_append.1 hp with hp | hp
    · exact peaceful_relationProblems hp
    · exact (ofHierarchy_of_treeProblems hp).peaceful
  case relation.parent =>
    rcases List.mem_append.1 hp with hp | hp
    · exact peaceful_relationProblems hp
    · exact (ofHierarchy_of_parentProblems hp).peaceful
  case attached => exact peaceful_attachedProblems hp

/-! ## What a table reports -/

theorem Reports.namesFirst {f : Field} (h : t.Reports c f) :
    ∀ p ∈ t.fieldProblems c f, p.NamesFirst := by
  intro p hp
  cases h with
  | peace hpeace hnone => exact (hpeace p hp).namesFirst
  | conflict heq hpeace hone =>
      rw [heq, List.mem_append, List.mem_singleton] at hp
      rcases hp with hp | rfl
      · exact (hpeace p hp).namesFirst
      · exact namesFirst_ownerProblem ..

/-- The field `f` reports the conflict of `a` and `b` once, if it is one of them and contests the
other. -/
theorem Reports.countP_fieldProblems {f : Field} (h : t.Reports c f) (a b : FieldId) :
    (t.fieldProblems c f).countP (·.IsConflictOf a b) =
      if f.id = a ∧ t.Contests c f b ∨ f.id = b ∧ t.Contests c f a then 1 else 0 := by
  have hzero : ∀ ps : List Problem, (∀ p ∈ ps, p.Peaceful) →
      ps.countP (·.IsConflictOf a b) = 0 := by
    intro ps hps
    rw [List.countP_eq_zero]
    intro p hp
    simpa using (hps p hp).not_isConflictOf
  cases h with
  | peace hpeace hnone => simp [hzero _ hpeace, hnone]
  | @conflict others symmetric both heq hpeace hone =>
      -- only the last problem is counted, if it is about these two fields
      rw [heq, List.countP_append, hzero _ hpeace, List.countP_singleton, Nat.zero_add]
      simp only [decide_eq_true_eq, isConflictOf_ownerProblem, hone]

/-- The conflicts of `a` and `b` are as many as the fields that report one. -/
theorem countP_problems (a b : FieldId) :
    (t.problems c).countP (·.IsConflictOf a b) =
      t.schema.fields.countP
        fun f => f.id = a ∧ t.Contests c f b ∨ f.id = b ∧ t.Contests c f a := by
  rw [problems]
  -- the problems of a table are those of its fields, one after the other
  induction t.schema.fields with
  | nil => rfl
  | cons f fields ih =>
      rw [List.flatMap_cons, List.countP_append, ih, (t.reports f).countP_fieldProblems,
        List.countP_cons, Nat.add_comm]
      simp only [decide_eq_true_eq]

theorem disputes_iff {a b : FieldId} :
    t.Disputes c a b ↔ ∃ f ∈ t.schema.fields, f.id = a ∧ t.Contests c f b := by
  simp only [Disputes, Option.mem_def, t.field?_eq_some_iff, and_assoc]

/-- A conflict of ownership names the field that sorts first in front. The one of `a` and `b` is
reported once for each of the two that is a reference of `t` and contests the other, so it is
reported twice just if both are, and at most once otherwise. -/
theorem ownerConflicts (t : Table) (c : Catalog) :
    (∀ p ∈ t.problems c, p.NamesFirst) ∧
    ∀ a b,
      (t.problems c).countP (·.IsConflictOf a b) =
        (if t.Disputes c a b then 1 else 0) + (if a ≠ b ∧ t.Disputes c b a then 1 else 0) ∧
      ((t.problems c).countP (·.IsConflictOf a b) ≤ 1 ↔
        ¬(a ≠ b ∧ t.Disputes c a b ∧ t.Disputes c b a)) := by
  constructor
  · intro p hp
    rcases List.mem_flatMap.1 hp with ⟨f, -, hf⟩
    exact (t.reports f).namesFirst p hf
  · intro a b
    have hcount : (t.problems c).countP (·.IsConflictOf a b) =
        (if t.Disputes c a b then 1 else 0) + (if a ≠ b ∧ t.Disputes c b a then 1 else 0) := by
      simp only [countP_problems, disputes_iff]
      by_cases hab : a = b
      · -- a field that is paired with itself
        subst hab
        simp only [or_self, ne_eq, not_true_eq_false, false_and, if_false, Nat.add_zero]
        exact Field.countP_id t.schema.distinct a (t.Contests c · a)
      · -- no field is both of them, so the two ways to report are counted apart
        have hapart : ∀ f : Field, f.id = a ∧ t.Contests c f b →
            ¬(f.id = b ∧ t.Contests c f a) := by
          rintro f ⟨rfl, -⟩ ⟨hid, -⟩
          exact hab hid
        rw [Field.countP_or _ _ hapart, Field.countP_id t.schema.distinct,
          Field.countP_id t.schema.distinct]
        simp only [ne_eq, hab, not_false_eq_true, true_and]
    refine ⟨hcount, ?_⟩
    rw [hcount]
    split
    case isTrue hfirst =>
      split
      case isTrue hsecond => simp [hfirst, hsecond]
      case isFalse hsecond => simpa [hfirst] using hsecond
    case isFalse hfirst =>
      split
      case isTrue hsecond => simp [hfirst]
      case isFalse hsecond => simp [hfirst]

end Table

/-! ## Pairs with two owners -/

namespace Blog

/-- Songs, of which `played_by` owns the edges to `Blog.bands`, as the other end does. -/
def songs : Table where
  id := ⟨"songs"⟩
  name := "Songs"
  schema := schema [⟨⟨"played_by"⟩, "Played by", false,
    .relation (.reference ((Reference.owner ⟨"bands"⟩).withSymmetric ⟨"plays"⟩))⟩]
  deleted := false

/-- Bands, of which `plays` owns the edges to `Blog.songs`. -/
def bands : Table where
  id := ⟨"bands"⟩
  name := "Bands"
  schema := schema [⟨⟨"plays"⟩, "Plays", false,
    .relation (.reference ((Reference.owner ⟨"songs"⟩).withSymmetric ⟨"played_by"⟩))⟩]
  deleted := false

def charts : Registry := (Registry.empty.insert songs).insert bands

/-- Teams that beat each other, where `beats` and `beaten_by` both own the edges. -/
def teams : Table where
  id := ⟨"teams"⟩
  name := "Teams"
  schema := schema [
    ⟨⟨"beats"⟩, "Beats", false,
      .relation (.reference ((Reference.owner ⟨"teams"⟩).withSymmetric ⟨"beaten_by"⟩))⟩,
    ⟨⟨"beaten_by"⟩, "Beaten by", false,
      .relation (.reference ((Reference.owner ⟨"teams"⟩).withSymmetric ⟨"beats"⟩))⟩]
  deleted := false

def league : Registry := Registry.empty.insert teams

end Blog

/-- The fields `played_by` and `plays` contest each other's edges, which either table reports
once. -/
theorem ownerConflicts_songs :
    Blog.songs.problems Blog.charts.catalog = [.ownerConflict ⟨"played_by"⟩ ⟨"plays"⟩ true] ∧
      (∀ p ∈ Blog.songs.problems Blog.charts.catalog, p.NamesFirst) ∧
      Blog.songs.Disputes Blog.charts.catalog ⟨"played_by"⟩ ⟨"plays"⟩ ∧
      ¬Blog.songs.Disputes Blog.charts.catalog ⟨"plays"⟩ ⟨"played_by"⟩ ∧
      (Blog.songs.problems Blog.charts.catalog).countP
        (·.IsConflictOf ⟨"plays"⟩ ⟨"played_by"⟩) ≤ 1 := by
  have hother : ¬Blog.songs.Disputes Blog.charts.catalog ⟨"plays"⟩ ⟨"played_by"⟩ := by
    decide +kernel
  rcases Table.ownerConflicts Blog.songs Blog.charts.catalog with ⟨hfirst, hcount⟩
  refine ⟨by decide +kernel, hfirst, by decide +kernel, hother, ?_⟩
  apply (hcount _ _).2.2
  rintro ⟨-, hplays, -⟩
  exact hother hplays

/-- The table `Blog.teams` lists one conflict twice. -/
theorem ownerConflicts_twice_teams :
    Blog.teams.problems Blog.league.catalog =
        [.ownerConflict ⟨"beaten_by"⟩ ⟨"beats"⟩ true,
          .ownerConflict ⟨"beaten_by"⟩ ⟨"beats"⟩ true] ∧
      (Blog.teams.problems Blog.league.catalog).countP
        (·.IsConflictOf ⟨"beaten_by"⟩ ⟨"beats"⟩) = 2 := by
  constructor
  · decide +kernel
  · decide +kernel

end LinkedRecords
