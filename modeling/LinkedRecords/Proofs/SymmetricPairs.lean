import LinkedRecords.Proofs.Validation

/-! # Symmetric pairs

Two references may show the same edges from both ends. Validating the table of one end settles the
whole pair: just one end owns the edges, both ends read the table of that one, in opposite
directions, and nothing is wrong with the pair from the other end either.

* `Reference.Opposite` — two references that show the same edges from both ends.
* `Reference.opposite_of_symmetric` — this is so if they name each other and one is the owner.
* `Table.symmetricProblems_eq_nil_iff` — what validation asks of a pair, from one end.
* `Table.opposite_of_valid` — every reference of a valid table that names a partner has one.
-/

namespace LinkedRecords

/-! ## Where the two ends read -/

namespace Naming

/-- The same edges as `o`, seen from the other end. -/
def Orientation.swap (o : Orientation) : Orientation := ⟨o.foreign, o.current⟩

variable {r : Reference} {symmetric : FieldId}

theorem Orientation.of_symmetric (h : r.symmetric = some symmetric) :
    Orientation.of r = if r.isOwner then .along else .against := by
  cases howner : r.isOwner <;> simp [Orientation.of, h, howner]

theorem edgeTable_symmetric (h : r.symmetric = some symmetric) (table : TableId)
    (field : FieldId) :
    edgeTable table field r =
      if r.isOwner then edgeTableOf table field else edgeTableOf r.foreignTable symmetric := by
  cases howner : r.isOwner <;> simp [edgeTable, h, howner]

end Naming

/-- Two references `r` and `p` that show the same edges from both ends. -/
structure Reference.Opposite (table : TableId) (field : FieldId) (r : Reference)
    (foreignTable : TableId) (foreignField : FieldId) (p : Reference) : Prop where
  /-- Just one of `r` and `p` owns the edges. -/
  owner : p.isOwner = !r.isOwner
  /-- Both ends read one table of edges. -/
  tables : Naming.edgeTable table field r = Naming.edgeTable foreignTable foreignField p
  /-- The table of edges is named after the field of the owner. -/
  ownerTable : Naming.edgeTable table field r =
    if r.isOwner then Naming.edgeTableOf table field
    else Naming.edgeTableOf foreignTable foreignField
  /-- The ends read the edges in opposite directions. -/
  swapped : Naming.Orientation.of p = (Naming.Orientation.of r).swap
  /-- The owner reads the edges from their first end to their second. -/
  ownerAlong : Naming.Orientation.of (if r.isOwner then r else p) = ⟨"from_id", "to_id"⟩

/-- The table that both ends read, spelled out: its name starts with the ids of the owner, which is
`r` or `p`. -/
theorem Reference.Opposite.edgeTable_eq {table foreignTable : TableId}
    {field foreignField : FieldId} {r p : Reference}
    (h : Reference.Opposite table field r foreignTable foreignField p) :
    Naming.edgeTable table field r =
      if r.isOwner then table.text ++ "_" ++ field.text ++ "_adjacency_list"
      else foreignTable.text ++ "_" ++ foreignField.text ++ "_adjacency_list" :=
  h.ownerTable

/-- References `r` and `p` that name each other, one of them as the owner, show the same edges. -/
theorem Reference.opposite_of_symmetric {table foreignTable : TableId}
    {field foreignField : FieldId} {r p : Reference} (hr : r.symmetric = some foreignField)
    (hp : p.symmetric = some field) (hrTable : r.foreignTable = foreignTable)
    (hpTable : p.foreignTable = table) (howner : p.isOwner = !r.isOwner) :
    Reference.Opposite table field r foreignTable foreignField p := by
  -- what the partner reads, told by whether this end is the owner
  have htable : Naming.edgeTable foreignTable foreignField p =
      if r.isOwner then Naming.edgeTableOf table field
      else Naming.edgeTableOf foreignTable foreignField := by
    rw [Naming.edgeTable_symmetric hp, howner, hpTable]
    cases r.isOwner <;> rfl
  have hends : Naming.Orientation.of p = if r.isOwner then .against else .along := by
    rw [Naming.Orientation.of_symmetric hp, howner]
    cases r.isOwner <;> rfl
  constructor
  case owner => exact howner
  case tables => rw [htable, Naming.edgeTable_symmetric hr, hrTable]
  case ownerTable => rw [Naming.edgeTable_symmetric hr, hrTable]
  case swapped =>
    rw [hends, Naming.Orientation.of_symmetric hr]
    cases r.isOwner <;> rfl
  case ownerAlong =>
    cases hr' : r.isOwner with
    | true => rw [if_pos rfl, Naming.Orientation.of_symmetric hr, hr']; rfl
    | false => rw [if_neg Bool.false_ne_true, hends, hr']; rfl

/-! ## What validation asks of a pair -/

namespace Table

variable {t : Table} {c : Catalog}

/-- A reference `r` to the table `foreign` has no problem with its partner if the partner is a
reference of `foreign` which leads back, names it back, and owns the edges instead of it. -/
theorem symmetricProblems_eq_nil_iff {field symmetric : FieldId} {r : Reference} {foreign : Table}
    (hsymmetric : r.symmetric = some symmetric)
    (hforeign : t.foreign? c (.reference r) = some foreign) :
    t.symmetricProblems c field r = [] ↔
      ∃ g p, foreign.field? symmetric = some g ∧ g.kind = .relation (.reference p) ∧
        p.symmetric = some field ∧ p.foreignTable = t.id ∧ p.isOwner = !r.isOwner := by
  simp only [symmetricProblems, hsymmetric, hforeign]
  cases hpartner : foreign.field? symmetric with
  | none => simp
  | some g =>
      rcases hkind : g.kind with kind | _ | (p | h | h) | ⟨owner, shows⟩
      case relation.reference =>
        have howner : (p.isOwner = !r.isOwner) ↔ p.isOwner ≠ r.isOwner := by
          cases p.isOwner <;> cases r.isOwner <;> decide
        simp [hkind, howner]
      -- a partner that is no reference is a problem
      all_goals simp [hkind]

/-- A table `t` without problems leads somewhere with each of its relations. -/
theorem exists_foreign_of_valid (hvalid : t.problems c = []) {f : Field}
    (hf : f ∈ t.schema.fields) {rel : Relation} (hkind : f.kind = .relation rel) :
    ∃ foreign, t.foreign? c rel = some foreign := by
  cases hforeign : t.foreign? c rel with
  | some foreign => exact ⟨foreign, rfl⟩
  | none =>
      have hmem := undefinedTable_mem_problems hf hkind hforeign
      rw [hvalid] at hmem
      cases hmem

theorem fieldProblems_of_valid (hvalid : t.problems c = []) {f : Field}
    (hf : f ∈ t.schema.fields) : t.fieldProblems c f = [] := by
  have hall : ∀ g ∈ t.schema.fields, t.fieldProblems c g = [] := by
    simpa [problems] using hvalid
  exact hall f hf

end Table

/-- Whether the catalog `c` keeps tables under their own ids. -/
def Catalog.KeepsIds (c : Catalog) : Prop := ∀ id t, c.table? id = some t → t.id = id

/-- The catalog of a registry `r` keeps tables under their own ids. -/
theorem Registry.keepsIds (r : Registry) : r.catalog.KeepsIds := r.named

namespace Table

variable {t : Table} {c : Catalog}

/-- The table `foreign` that a relation leads to has the id that the relation names. -/
theorem id_of_foreign? (hc : c.KeepsIds) {rel : Relation} {foreign : Table}
    (h : t.foreign? c rel = some foreign) : foreign.id = rel.foreignTable t.id := by
  rw [foreign?] at h
  split at h
  case isTrue hself => rw [hself, ← Option.some.inj h]
  case isFalse => exact hc _ _ h

/-- From the table `foreign`, a relation `back` leads to the table `t` that one comes from. -/
theorem foreign?_back (hc : c.KeepsIds) (ht : c.table? t.id = some t) {rel back : Relation}
    {foreign : Table} (h : t.foreign? c rel = some foreign)
    (hback : back.foreignTable foreign.id = t.id) : foreign.foreign? c back = some t := by
  have hid := id_of_foreign? hc h
  rw [foreign?] at h ⊢
  rw [hback]
  -- a relation to the own table is answered from the table at hand
  by_cases hself : rel.foreignTable t.id = t.id
  · rw [if_pos hself] at h
    rw [if_pos (hself ▸ hid.symm), h]
  · rw [if_neg (fun heq => hself (hid.symm.trans heq.symm)), ht]

end Table

/-- A reference `r` of a valid table that names `symmetric` has its partner `p` in the foreign
table; the two show the same edges from both ends, and validating the partner finds nothing wrong
with the pair. -/
theorem Table.opposite_of_valid {c : Catalog} (hc : c.KeepsIds) {t : Table}
    (ht : c.table? t.id = some t) (hvalid : t.problems c = []) {f : Field}
    (hf : f ∈ t.schema.fields) {r : Reference} (hkind : f.kind = .relation (.reference r))
    {symmetric : FieldId} (hsymmetric : r.symmetric = some symmetric) :
    ∃ foreign g p, t.foreign? c (.reference r) = some foreign ∧ foreign.id = r.foreignTable ∧
      foreign.field? symmetric = some g ∧ g.kind = .relation (.reference p) ∧
      Reference.Opposite t.id f.id r foreign.id g.id p ∧
      ∀ problem ∈ foreign.fieldProblems c g, ¬ problem.OfPartner g.id (some f.id) := by
  rcases exists_foreign_of_valid hvalid hf hkind with ⟨foreign, hforeign⟩
  have hid : foreign.id = r.foreignTable := id_of_foreign? hc hforeign
  have hnone : t.symmetricProblems c f.id r = [] := by
    have hproblems := fieldProblems_of_valid hvalid hf
    rw [fieldProblems, hkind, List.append_eq_nil_iff] at hproblems
    exact hproblems.2
  rcases (symmetricProblems_eq_nil_iff hsymmetric hforeign).1 hnone with
    ⟨g, p, hg, hgkind, hback, hbackTable, howner⟩
  have hgid : g.id = symmetric := (foreign.field?_eq_some_iff.1 hg).2
  refine ⟨foreign, g, p, hforeign, hid, hg, hgkind, ?_, ?_⟩
  · exact Reference.opposite_of_symmetric (hgid ▸ hsymmetric) hback hid.symm hbackTable howner
  · -- from the other end the partner is this field, which meets all that is asked of it
    have hforeign' : foreign.foreign? c (.reference p) = some t :=
      foreign?_back hc ht hforeign hbackTable
    have hf' : t.field? f.id = some f := t.field?_eq_some_iff.2 ⟨hf, rfl⟩
    have hnone' : foreign.symmetricProblems c g.id p = [] := by
      refine (symmetricProblems_eq_nil_iff hback hforeign').2
        ⟨f, r, hf', hkind, hgid ▸ hsymmetric, hid.symm, ?_⟩
      rw [howner, Bool.not_not]
    intro problem hproblem hpartner
    simp only [fieldProblems, hgkind, hnone', List.append_nil, relationProblems, hforeign']
      at hproblem
    rcases exists_of_mem_missingFields hproblem with ⟨id, -, hmissing, rfl⟩
    -- what is still listed is a field that is shown and missing, and `f` is not missing
    have hsame : f.id = id := Option.some.inj hpartner.2
    have hcontains : t.schema.contains f.id = true := t.schema.contains_iff.2 ⟨f, hf, rfl⟩
    rw [hsame, hmissing] at hcontains
    cases hcontains

namespace Blog

/-- People who follow each other, where `followers` and `follows` are the two ends of a pair. -/
def people : Table where
  id := ⟨"people"⟩
  name := "People"
  schema := schema [
    ⟨⟨"name"⟩, "Name", true, .scalar .string⟩,
    ⟨⟨"followers"⟩, "Followers", false,
      .relation (.reference (.counterpart ⟨"people"⟩ ⟨"follows"⟩))⟩,
    ⟨⟨"follows"⟩, "Follows", false,
      .relation (.reference ((Reference.owner ⟨"people"⟩).withSymmetric ⟨"followers"⟩))⟩]
  deleted := false

def community : Registry := Registry.empty.insert people

end Blog

/-- The field `followers` is no owner, and reads the edges of `follows` in the other direction. -/
theorem opposite_of_valid_followers :
    Blog.community.catalog.KeepsIds ∧
      Blog.community.catalog.table? Blog.people.id = some Blog.people ∧
      Blog.people.problems Blog.community.catalog = [] ∧
      ∃ g p, Blog.people.field? ⟨"follows"⟩ = some g ∧ g.kind = .relation (.reference p) ∧
        Reference.Opposite ⟨"people"⟩ ⟨"followers"⟩ (.counterpart ⟨"people"⟩ ⟨"follows"⟩)
          ⟨"people"⟩ g.id p ∧
        ∀ problem ∈ Blog.people.fieldProblems Blog.community.catalog g,
          ¬ problem.OfPartner g.id (some ⟨"followers"⟩) := by
  have hkeeps := Blog.community.keepsIds
  have htable : Blog.community.catalog.table? Blog.people.id = some Blog.people := by rfl
  have hvalid : Blog.people.problems Blog.community.catalog = [] := by decide +kernel
  have hfield : (⟨⟨"followers"⟩, "Followers", false,
      .relation (.reference (.counterpart ⟨"people"⟩ ⟨"follows"⟩))⟩ : Field) ∈
        Blog.people.schema.fields := by decide +kernel
  rcases Table.opposite_of_valid hkeeps htable hvalid hfield rfl rfl with
    ⟨foreign, g, p, hforeign, -, hg, hkind, hopposite, hproblems⟩
  obtain rfl : Blog.people = foreign := Option.some.inj hforeign
  exact ⟨hkeeps, htable, hvalid, g, p, hg, hkind, hopposite, hproblems⟩

end LinkedRecords
