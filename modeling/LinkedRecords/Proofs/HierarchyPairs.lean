import LinkedRecords.Proofs.SymmetricPairs

/-! # Hierarchy pairs

A tree field and a parent field of one table may show one hierarchy from both ends. Validation asks
a tree field that its parent field names it back, and a parent field that its tree field spans the
same table. A tree field that names a parent field is therefore half of a whole pair. A parent field
reads the hierarchy of the tree field that it names, but the tree field need not name it back, and
this is all that a valid table may miss.

* `Hierarchy.Follows`, `Hierarchy.Paired` — one end that reads the other, and two that are a pair.
* `Table.treeProblems_eq_nil_iff`, `Table.parentProblems_eq_nil_iff` — what validation asks of
  either end.
* `Table.hierarchies_of_valid` — the pairs of a valid table, and when all its fields are in pairs.
* `hierarchies_unpaired_comments` — a valid table in which they are not.
-/

namespace LinkedRecords

/-! ## Both ends of a hierarchy -/

namespace Hierarchy

/-- The parent field `parent` reads the hierarchy of the tree field `tree` of its table. -/
structure Follows (table : TableId) (parent : FieldId) (p : Hierarchy) (tree : FieldId)
    (h : Hierarchy) : Prop where
  /-- The parent field names `tree` as the other end. -/
  named : p.partner = some tree
  /-- Both fields lead to the same table. -/
  spans : (Relation.parent p).foreignTable table = (Relation.tree h).foreignTable table
  /-- Both fields read one table of links. -/
  tables : Naming.parentTable table parent p = Naming.treeTable table tree

/-- The parent field `parent` and the tree field `tree` show one hierarchy from both ends. -/
structure Paired (table : TableId) (parent : FieldId) (p : Hierarchy) (tree : FieldId)
    (h : Hierarchy) : Prop extends Follows table parent p tree h where
  /-- The tree field names `parent` as the other end. -/
  back : h.partner = some parent

variable {table : TableId} {parent tree : FieldId} {p h : Hierarchy}

/-- A parent field reads the hierarchy of the field `tree` that it names, if both span one table. -/
theorem follows_of_named (hnamed : p.partner = some tree)
    (hspans : p.foreignTable.getD table = h.foreignTable.getD table) :
    Follows table parent p tree h where
  named := hnamed
  spans := hspans
  tables := by rw [Naming.parentTable, hnamed, Option.getD_some]

end Hierarchy

namespace Table

variable {t : Table} {c : Catalog}

/-- Whether every tree field of `t` that names a parent field is half of a pair. -/
def TreesPaired (t : Table) : Prop :=
  ∀ f ∈ t.schema.fields, ∀ h, f.kind = .relation (.tree h) → ∀ parent, h.partner = some parent →
    ∃ g p, t.field? parent = some g ∧ g.kind = .relation (.parent p) ∧
      Hierarchy.Paired t.id g.id p f.id h

/-- Whether every parent field of `t` that names a tree field reads its hierarchy. -/
def ParentsFollow (t : Table) : Prop :=
  ∀ f ∈ t.schema.fields, ∀ p, f.kind = .relation (.parent p) → ∀ tree, p.partner = some tree →
    ∃ g h, t.field? tree = some g ∧ g.kind = .relation (.tree h) ∧
      Hierarchy.Follows t.id f.id p g.id h

/-- Whether a tree field of `t` that a parent field names always names it back. -/
def TreesNameBack (t : Table) : Prop :=
  ∀ f ∈ t.schema.fields, ∀ p, f.kind = .relation (.parent p) →
    ∀ g ∈ t.schema.fields, ∀ h, g.kind = .relation (.tree h) →
      p.partner = some g.id → h.partner = some f.id

/-- Whether all fields of `t` that name a field at the other end are halves of pairs, so that no
tree field is named by two parent fields. -/
structure HierarchiesPaired (t : Table) : Prop where
  /-- Every tree field that names a parent field is half of a pair. -/
  trees : t.TreesPaired
  /-- Every parent field that names a tree field is half of a pair. -/
  parents : ∀ f ∈ t.schema.fields, ∀ p, f.kind = .relation (.parent p) →
    ∀ tree, p.partner = some tree →
      ∃ g h, t.field? tree = some g ∧ g.kind = .relation (.tree h) ∧
        Hierarchy.Paired t.id f.id p g.id h
  /-- No tree field is named by two parent fields. -/
  single : ∀ f ∈ t.schema.fields, ∀ g ∈ t.schema.fields, ∀ p q tree,
    f.kind = .relation (.parent p) → g.kind = .relation (.parent q) →
      p.partner = some tree → q.partner = some tree → f = g

/-! ## What validation asks of each end -/

/-- The tree field `field` has no problem with `parent` if that is a parent field of the table which
names it back. -/
theorem treeProblems_eq_nil_iff {field parent : FieldId} {h : Hierarchy}
    (hpartner : h.partner = some parent) :
    t.treeProblems field h = [] ↔
      ∃ g p, t.field? parent = some g ∧ g.kind = .relation (.parent p) ∧
        p.partner = some field := by
  simp only [treeProblems, hpartner]
  cases hparent : t.field? parent with
  | none => simp
  | some g =>
      rcases hkind : g.kind with kind | _ | (r | p | p) | ⟨owner, shows⟩
      case relation.parent => simp [hkind]
      -- a field of another kind is a problem at the other end
      all_goals simp [hkind]

/-- The parent field `field` has no problem with `tree` if that is a tree field of the table which
spans the same table. -/
theorem parentProblems_eq_nil_iff {field tree : FieldId} {p : Hierarchy}
    (hpartner : p.partner = some tree) :
    t.parentProblems field p = [] ↔
      ∃ g h, t.field? tree = some g ∧ g.kind = .relation (.tree h) ∧
        h.foreignTable.getD t.id = p.foreignTable.getD t.id := by
  simp only [parentProblems, hpartner]
  cases htree : t.field? tree with
  | none => simp
  | some g =>
      rcases hkind : g.kind with kind | _ | (r | h | h) | ⟨owner, shows⟩
      case relation.tree => simp [hkind]
      all_goals simp [hkind]

/-- Two tree fields `f` and `g` that are found under one id are the same. -/
theorem tree_unique {id : FieldId} {f g : Field} {h k : Hierarchy} (hf : t.field? id = some f)
    (hg : t.field? id = some g) (hfkind : f.kind = .relation (.tree h))
    (hgkind : g.kind = .relation (.tree k)) : f = g ∧ h = k := by
  rw [hf, Option.some.injEq] at hg
  subst hg
  rw [hfkind, FieldKind.relation.injEq, Relation.tree.injEq] at hgkind
  exact ⟨rfl, hgkind⟩

theorem parentsFollow_of_valid (hvalid : t.problems c = []) : t.ParentsFollow := by
  intro f hf p hkind tree hpartner
  have hproblems := fieldProblems_of_valid hvalid hf
  rw [fieldProblems, hkind, List.append_eq_nil_iff] at hproblems
  rcases (parentProblems_eq_nil_iff hpartner).1 hproblems.2 with ⟨g, h, hg, hgkind, hspans⟩
  have hgid : g.id = tree := (t.field?_eq_some_iff.1 hg).2
  exact ⟨g, h, hg, hgkind, Hierarchy.follows_of_named (hgid ▸ hpartner) hspans.symm⟩

theorem treesPaired_of_valid (hvalid : t.problems c = []) : t.TreesPaired := by
  intro f hf h hkind parent hpartner
  have hproblems := fieldProblems_of_valid hvalid hf
  rw [fieldProblems, hkind, List.append_eq_nil_iff] at hproblems
  rcases (treeProblems_eq_nil_iff hpartner).1 hproblems.2 with ⟨g, p, hg, hgkind, hback⟩
  rcases t.field?_eq_some_iff.1 hg with ⟨hgmem, hgid⟩
  -- the parent field is checked too: it follows the tree field that it names, which is this one
  rcases parentsFollow_of_valid hvalid g hgmem p hgkind _ hback with ⟨f', h', hf', hkind', hfollows⟩
  have hf'' : t.field? f.id = some f := t.field?_eq_some_iff.2 ⟨hf, rfl⟩
  rcases tree_unique hf'' hf' hkind hkind' with ⟨rfl, rfl⟩
  exact ⟨g, p, hg, hgkind, hfollows, hgid ▸ hpartner⟩

/-- In a valid table `t` tree fields are in pairs and parent fields read the hierarchies that they
name. All of them are in pairs just if the tree fields that are named by parent fields name them
back. -/
theorem hierarchies_of_valid (hvalid : t.problems c = []) :
    t.TreesPaired ∧ t.ParentsFollow ∧ (t.HierarchiesPaired ↔ t.TreesNameBack) := by
  have htrees : t.TreesPaired := treesPaired_of_valid hvalid
  have hparents : t.ParentsFollow := parentsFollow_of_valid hvalid
  refine ⟨htrees, hparents, ?_, ?_⟩
  · intro hpaired f hf p hkind g hg h hgkind hnamed
    rcases hpaired.parents f hf p hkind _ hnamed with ⟨g', h', hg', hgkind', hpair⟩
    have hg'' : t.field? g.id = some g := t.field?_eq_some_iff.2 ⟨hg, rfl⟩
    rcases tree_unique hg'' hg' hgkind hgkind' with ⟨rfl, rfl⟩
    exact hpair.back
  · intro hback
    -- the tree field that a parent field names is there, so it names the parent field back
    have hpairs : ∀ f ∈ t.schema.fields, ∀ p, f.kind = .relation (.parent p) →
        ∀ tree, p.partner = some tree → ∃ g h, t.field? tree = some g ∧
          g.kind = .relation (.tree h) ∧ Hierarchy.Paired t.id f.id p g.id h := by
      intro f hf p hkind tree hnamed
      rcases hparents f hf p hkind tree hnamed with ⟨g, h, hg, hgkind, hfollows⟩
      have hgmem : g ∈ t.schema.fields := (t.field?_eq_some_iff.1 hg).1
      exact ⟨g, h, hg, hgkind, hfollows, hback f hf p hkind g hgmem h hgkind hfollows.named⟩
    constructor
    case trees => exact htrees
    case parents => exact hpairs
    case single =>
      intro f hf f' hf' p p' tree hkind hkind' hnamed hnamed'
      rcases hpairs f hf p hkind tree hnamed with ⟨g, h, hg, hgkind, hpair⟩
      rcases hpairs f' hf' p' hkind' tree hnamed' with ⟨g', h', hg', hgkind', hpair'⟩
      -- both name the tree field that is there under `tree`, and it names one of them
      rcases tree_unique hg hg' hgkind hgkind' with ⟨rfl, rfl⟩
      apply t.schema.eq_of_id_eq hf hf'
      rw [← Option.some.injEq, ← hpair.back, hpair'.back]

end Table

/-! ## Comments -/

namespace Blog

/-- Comments answer comments. The comment that `quotes` leads to is looked up among the `replies`,
which name `answers` as their other end. -/
def comments : Table where
  id := ⟨"comments"⟩
  name := "Comments"
  schema := schema [
    ⟨⟨"replies"⟩, "Replies", false, .relation (.tree ⟨none, some ⟨"answers"⟩, []⟩)⟩,
    ⟨⟨"answers"⟩, "Answers", false,
      .relation (.parent ⟨some ⟨"comments"⟩, some ⟨"replies"⟩, []⟩)⟩,
    ⟨⟨"quotes"⟩, "Quotes", false, .relation (.parent ⟨none, some ⟨"replies"⟩, []⟩)⟩]
  deleted := false

def forum : Registry := Registry.empty.insert comments

end Blog

/-- The fields `replies` and `answers` are a pair; `quotes` reads the hierarchy of `replies` too. -/
theorem hierarchies_of_valid_comments :
    Blog.comments.problems Blog.forum.catalog = [] ∧
      (∃ g p, Blog.comments.field? ⟨"answers"⟩ = some g ∧ g.kind = .relation (.parent p) ∧
        Hierarchy.Paired ⟨"comments"⟩ g.id p ⟨"replies"⟩ ⟨none, some ⟨"answers"⟩, []⟩) ∧
      ∃ g h, Blog.comments.field? ⟨"replies"⟩ = some g ∧ g.kind = .relation (.tree h) ∧
        Hierarchy.Follows ⟨"comments"⟩ ⟨"quotes"⟩ ⟨none, some ⟨"replies"⟩, []⟩ g.id h := by
  have hvalid : Blog.comments.problems Blog.forum.catalog = [] := by decide +kernel
  have hreplies : (⟨⟨"replies"⟩, "Replies", false,
      .relation (.tree ⟨none, some ⟨"answers"⟩, []⟩)⟩ : Field) ∈ Blog.comments.schema.fields := by
    decide +kernel
  have hquotes : (⟨⟨"quotes"⟩, "Quotes", false,
      .relation (.parent ⟨none, some ⟨"replies"⟩, []⟩)⟩ : Field) ∈ Blog.comments.schema.fields := by
    decide +kernel
  rcases Table.hierarchies_of_valid hvalid with ⟨htrees, hparents, -⟩
  exact ⟨hvalid, htrees _ hreplies _ rfl _ rfl, hparents _ hquotes _ rfl _ rfl⟩

/-- The table `Blog.comments` is valid, and has two parent fields that name one tree field, which
names one of them back. -/
theorem hierarchies_unpaired_comments :
    Blog.comments.problems Blog.forum.catalog = [] ∧
      (∃ f ∈ Blog.comments.schema.fields, ∃ g ∈ Blog.comments.schema.fields, f ≠ g ∧
        f.kind = .relation (.parent ⟨some ⟨"comments"⟩, some ⟨"replies"⟩, []⟩) ∧
        g.kind = .relation (.parent ⟨none, some ⟨"replies"⟩, []⟩)) ∧
      ¬Blog.comments.HierarchiesPaired := by
  have htwo : ∃ f ∈ Blog.comments.schema.fields, ∃ g ∈ Blog.comments.schema.fields, f ≠ g ∧
      f.kind = .relation (.parent ⟨some ⟨"comments"⟩, some ⟨"replies"⟩, []⟩) ∧
      g.kind = .relation (.parent ⟨none, some ⟨"replies"⟩, []⟩) := by
    decide +kernel
  refine ⟨by decide +kernel, htwo, ?_⟩
  intro hpaired
  rcases htwo with ⟨f, hf, g, hg, hne, hfkind, hgkind⟩
  exact hne (hpaired.single f hf g hg _ _ _ hfkind hgkind rfl rfl)

end LinkedRecords
