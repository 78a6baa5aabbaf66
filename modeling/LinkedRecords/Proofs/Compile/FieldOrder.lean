import LinkedRecords.Proofs.Compile.Parts

/-! # The order of fields

Two tables with the same fields are compiled alike, whatever the order of the fields: the one
compiles if the other does, and then both add the same joins and columns and leave out the same
fields. What can differ is the order in which these come, in the query and in those that it joins.
An attached field may stand before or after its relation, and a relation of a table to itself also
meets the other order in the table that it leads to.

* `Sql.Query.Reordered`, `Compiled.Reordered` — what it means that queries are the same up to order.
* `Table.HasLink.reordered` — a relation has the same link in the other order.
* `Table.Adds.reordered` — the same field adds the same fragment.
* `exists_compile_reordered` — a table compiles if it does in another order.
* `compile_reordered` — the two compilations side by side.
-/

namespace LinkedRecords

open Sql

/-! ## The same up to order -/

namespace Sql

mutual

/-- Queries `q` and `q'` that differ at most in the order of their items and groups, and so do those
that they join, at any depth. -/
inductive Query.Reordered : Query → Query → Prop
  | intro {q q' : Query} (items : q.items.Perm q'.items) (source : q.source = q'.source)
      (joins : List.Forall₂ Join.Reordered q.joins q'.joins)
      (condition : q.condition = q'.condition) (groups : q.groups.Perm q'.groups) :
      Query.Reordered q q'

/-- Joins under one condition and alias, of the same source or of queries `q` and `q'` that are the
same up to order. -/
inductive Join.Reordered : Join Query → Join Query → Prop
  | refl (join : Join Query) : Join.Reordered join join
  | derived {q q' : Query} (h : Query.Reordered q q') (label : String) (matching : Expr) :
      Join.Reordered ⟨.derivedAs q label, matching⟩ ⟨.derivedAs q' label, matching⟩

end

theorem Join.Reordered.qualifier?_eq {join join' : Join Query} (h : join.Reordered join') :
    join.target.qualifier? = join'.target.qualifier? := by
  cases h with
  | refl => rfl
  | derived h label matching => rfl

end Sql

/-- Tables `t` and `t'` with one id and the same fields, in any order. -/
structure Table.Reordered (t t' : Table) : Prop where
  id : t'.id = t.id
  fields : t'.schema.fields.Perm t.schema.fields

/-- The same attached fields in `a` and `a'`, in any order. -/
structure AttachedFields.Reordered (a a' : AttachedFields) : Prop where
  lookups : a'.lookups.Perm a.lookups
  counts : a'.counts.Perm a.counts
  sums : a'.sums.Perm a.sums
  averages : a'.averages.Perm a.averages

/-- Links `l` and `l'` that differ at most in the order of what they show and compute. -/
structure Link.Reordered (l l' : Link) : Prop where
  options : l'.options = l.options
  table : l'.table = l.table
  field : l'.field = l.field
  foreign : l'.foreign = l.foreign
  columns : l'.columns.Perm l.columns
  attached : l.attached.Reordered l'.attached

/-- Compiled queries `out` and `out'` on one `base` that differ at most in the order of what is
added to it. -/
structure Compiled.Reordered (out out' : Compiled) (base : Query) : Prop where
  /-- The columns of both queries have the same names. -/
  names : out'.query.outputNames.Perm out.query.outputNames
  /-- The joins of both queries have the same aliases. -/
  aliases : (out'.query.joins.map (·.target.qualifier?)).Perm
    (out.query.joins.map (·.target.qualifier?))
  /-- Both leave out the same fields, for the same relations. -/
  stale : out'.stale.Perm out.stale
  /-- Behind the joins of `base`, those under one alias are the same up to order. -/
  joins : ∃ added added', out.query.joins = base.joins ++ added ∧
    out'.query.joins = base.joins ++ added' ∧
    ∀ join ∈ added, ∀ join' ∈ added', join.target.qualifier? = join'.target.qualifier? →
      join.Reordered join'

/-- Lists `as` and `bs` with the same keys are mapped to the same members, up to order, if those
with one `key` are. -/
theorem flatMap_perm_of_keys {α κ β : Type} {key : α → κ} {g : α → List β} {as bs : List α}
    (hkeys : (as.map key).Perm (bs.map key))
    (hg : ∀ a ∈ as, ∀ b ∈ bs, key a = key b → (g a).Perm (g b)) :
    (as.flatMap g).Perm (bs.flatMap g) := by
  induction as generalizing bs with
  | nil =>
      rw [List.map_nil, List.nil_perm, List.map_eq_nil_iff] at hkeys
      rw [hkeys]
  | cons a as ih =>
      -- a member of the other list with the key of the head is taken to its front
      have hmem : key a ∈ bs.map key := hkeys.subset List.mem_cons_self
      rcases List.mem_map.1 hmem with ⟨b, hb, hkey⟩
      rcases List.append_of_mem hb with ⟨before, after, rfl⟩
      have hfront : (before ++ b :: after).Perm (b :: (before ++ after)) := List.perm_middle
      have hrest : (as.map key).Perm ((before ++ after).map key) := by
        have hcons := hkeys.trans (hfront.map key)
        rw [List.map_cons, List.map_cons, hkey] at hcons
        exact hcons.cons_inv
      have hhead : (g a).Perm (g b) := hg a List.mem_cons_self b hb hkey.symm
      have htail : (as.flatMap g).Perm ((before ++ after).flatMap g) := by
        apply ih hrest
        intro a' ha' b' hb'
        have hmem' : b' ∈ before ++ b :: after := hfront.symm.subset (List.mem_cons_of_mem b hb')
        exact hg a' (List.mem_cons_of_mem a ha') b' hmem'
      rw [List.flatMap_cons]
      exact (hhead.append htail).trans (hfront.flatMap_right g).symm

/-! ## Tables -/

namespace Table.Reordered

variable {t t' : Table} {c : Catalog} {r : Relation} {field : FieldId}

theorem refl (t : Table) : t.Reordered t := ⟨rfl, .refl _⟩

theorem symm (h : t.Reordered t') : t'.Reordered t := ⟨h.id.symm, h.fields.symm⟩

theorem field?_eq (h : t.Reordered t') (field : FieldId) : t'.field? field = t.field? field := by
  ext f
  rw [t'.field?_eq_some_iff, t.field?_eq_some_iff, h.fields.mem_iff]

theorem kind?_eq (h : t.Reordered t') (field : FieldId) : t'.kind? field = t.kind? field := by
  rw [kind?, kind?, h.field?_eq]

theorem contains_eq (h : t.Reordered t') (field : FieldId) :
    t'.schema.contains field = t.schema.contains field := by
  rw [Bool.eq_iff_iff, Schema.contains_iff, Schema.contains_iff]
  simp only [h.fields.mem_iff]

theorem reaches_eq (h : t.Reordered t') (c : Catalog) (r : Relation) :
    t'.reaches c r = t.reaches c r := by
  rw [reaches, reaches, h.id]

theorem isLive_eq (h : t.Reordered t') (c : Catalog) (field : FieldId) :
    t'.isLive c field = t.isLive c field := by
  simp only [isLive, h.kind?_eq, h.reaches_eq]

/-- In both orders the same fields are compiled. -/
theorem compileOrder_perm (h : t.Reordered t') : t'.compileOrder.Perm t.compileOrder :=
  eraseDups_perm (h.fields.filterMap _)

theorem displayIds_perm (h : t.Reordered t') (r : Relation) :
    (r.displayIds t').Perm (r.displayIds t) := by
  -- a list in the relation is kept as it is; flagged fields follow the schema
  by_cases hdisplay : r.display = []
  · rw [r.displayIds_of_eq_nil hdisplay, r.displayIds_of_eq_nil hdisplay]
    exact (h.fields.filter _).map _
  · rw [r.displayIds_of_ne_nil hdisplay, r.displayIds_of_ne_nil hdisplay]

/-- The fields that are attached to `field` are the same in both orders. -/
theorem attachedTo (h : t.Reordered t') (field : FieldId) :
    (t.attachedTo field).Reordered (t'.attachedTo field) where
  lookups := h.fields.filterMap _
  counts := h.fields.filterMap _
  sums := h.fields.filterMap _
  averages := h.fields.filterMap _

/-- A relation `r` leads to the same table, or to its own in the other order. -/
theorem foreign? (h : t.Reordered t') {foreign : Table} (hforeign : t.foreign? c r = some foreign) :
    ∃ foreign', t'.foreign? c r = some foreign' ∧ foreign.Reordered foreign' := by
  rw [Table.foreign?] at hforeign
  rw [Table.foreign?, h.id]
  -- the table at hand is asked, and not the one in the catalog
  by_cases hself : r.foreignTable t.id = t.id
  · rw [if_pos hself] at hforeign ⊢
    cases hforeign
    exact ⟨t', rfl, h⟩
  · rw [if_neg hself] at hforeign ⊢
    exact ⟨foreign, hforeign, refl foreign⟩

end Table.Reordered

namespace AttachedFields.Reordered

variable {a a' : AttachedFields}

theorem ids_perm (h : a.Reordered a') : a'.ids.Perm a.ids :=
  (((h.lookups.map _).append h.counts).append (h.sums.map _)).append (h.averages.map _)

theorem sources_perm (h : a.Reordered a') : a'.sources.Perm a.sources :=
  ((h.lookups.flatMap_right _).append (h.sums.map _)).append (h.averages.map _)

theorem aggregates_perm (h : a.Reordered a') (foreignAlias : String) :
    (a'.aggregates foreignAlias).Perm (a.aggregates foreignAlias) :=
  ((h.counts.map _).append (h.sums.map _)).append (h.averages.map _)

theorem projections_perm (h : a.Reordered a') (options : Options) (linksAlias : String) :
    (a'.projections options linksAlias).Perm (a.projections options linksAlias) :=
  ((h.lookups.map _).append (h.counts.map _)).append
    (((h.sums.map _).append (h.averages.map _)).map _)

end AttachedFields.Reordered

/-! ## Links -/

theorem DisplayColumn.ofField_reordered {foreign foreign' : Table}
    (h : foreign.Reordered foreign') (layout : Layout) :
    ofField foreign' layout = ofField foreign layout := by
  funext field
  rw [ofField, ofField, h.contains_eq, h.id]

namespace Link.Reordered

variable {l l' : Link}

/-- The foreign records of `l` and `l'` have the same columns and groups. -/
theorem records (h : l.Reordered l') : l.records.Reordered l'.records := by
  unfold Link.records
  rw [foreignRecords_eq, foreignRecords_eq, h.foreign, h.options]
  have hkeys : (columnKeys l.columns).Perm (columnKeys l'.columns) :=
    h.columns.symm.flatMap_right _
  apply Query.Reordered.intro
  · exact (h.columns.symm.map _).cons _
  · rfl
  · exact .nil
  · rfl
  · -- which key comes first may change, but not which keys there are
    exact eraseDups_perm (hkeys.cons _)

theorem linkTable_eq (h : l.Reordered l') (r : Relation) : l'.linkTable r = l.linkTable r := by
  rw [linkTable, linkTable, h.table, h.field]

theorem linksAlias_eq (h : l.Reordered l') : l'.linksAlias = l.linksAlias := by
  rw [linksAlias, linksAlias, h.field]

theorem foreignAlias_eq (h : l.Reordered l') : l'.foreignAlias = l.foreignAlias := by
  rw [foreignAlias, foreignAlias, h.field]

/-- The links of `l` and `l'` are read from the same table, under the same condition. -/
theorem query (h : l.Reordered l') (r : Relation) : (l.query r).Reordered (l'.query r) := by
  have hgathered : (l.columns.map (·.gathered l.foreignAlias)).Perm
      (l'.columns.map (·.gathered l.foreignAlias)) := h.columns.symm.map _
  have hcomputed := (h.attached.aggregates_perm l.foreignAlias).symm
  unfold Link.query linkItems
  rw [h.linkTable_eq, h.foreignAlias_eq, h.field, h.options]
  apply Query.Reordered.intro
  · exact ((hgathered.append hcomputed).cons _).cons _
  · rfl
  · exact .cons (.derived h.records _ _) .nil
  · rfl
  · exact .refl _

theorem join_resolve (h : l.Reordered l') (r : Relation) :
    (l.resolve r).join.Reordered (l'.resolve r).join := by
  rw [l.join_resolve, l'.join_resolve]
  unfold keyJoin
  rw [h.linksAlias_eq, h.options]
  exact .derived (h.query r) _ _

/-- For `l` and `l'` the record shows columns of the same names. -/
theorem names_resolve (h : l.Reordered l') (r : Relation) :
    ((l'.resolve r).items.map (·.outputName?)).Perm ((l.resolve r).items.map (·.outputName?)) := by
  rw [l.items_resolve, l'.items_resolve, List.map_append, List.map_append, h.linksAlias_eq, h.field,
    h.options]
  exact ((h.attached.projections_perm _ _).map _).append_left _

end Link.Reordered

section Fields

variable {catalog : Catalog} {options : Options} {t t' : Table} {base : Query}

namespace Table.HasLink

variable {field : FieldId} {r : Relation} {foreign : Table} {layout : Layout} {l : Link}

/-- The relation `r` has a link `l'` in the other order as well, with the same columns. -/
theorem reordered (h : t.HasLink catalog options field r foreign layout l)
    (hfields : t.Reordered t') :
    ∃ foreign' l', t'.HasLink catalog options field r foreign' layout l' ∧ l.Reordered l' := by
  rcases hfields.foreign? h.leads with ⟨foreign', hleads, hforeign⟩
  have hattached := hfields.attachedTo field
  have hids : (r.displayIds foreign' ++ (t'.attachedTo field).sources).eraseDups.Perm
      (r.displayIds foreign ++ (t.attachedTo field).sources).eraseDups :=
    eraseDups_perm ((hforeign.displayIds_perm r).append hattached.sources_perm)
  -- the same fields are read from the same layout, so all of them are found again
  rcases exists_mapM_of_perm h.collected hids with ⟨columns, hcollected, hcolumns⟩
  rw [← DisplayColumn.ofField_reordered hforeign] at hcollected
  refine ⟨foreign', ⟨options, t'.id, field, foreign'.id, r.displayIds foreign', columns,
    t'.attachedTo field⟩, ?_, ?_⟩
  · constructor
    · rw [hfields.reaches_eq]
      exact h.live
    · exact hleads
    · rw [hfields.id]
      exact h.stored
    · exact hcollected
    · rfl
  · constructor
    · exact h.options_eq.symm
    · rw [h.table_eq]
      exact hfields.id
    · exact h.field_eq.symm
    · rw [h.foreign_eq]
      exact hforeign.id
    · exact hcolumns
    · rw [h.attached_eq]
      exact hattached

end Table.HasLink

/-! ## Whether a table compiles -/

namespace Scope

variable {layout : Layout}

theorem task?_reordered (h : t.Reordered t') (f : Field) :
    (start catalog options t' layout).task? f = (start catalog options t layout).task? f := by
  simp only [task?, table_start, h.field?_eq]

/-- What a `task` needs does not depend on the order of the fields. -/
theorem perform_reordered (h : t.Reordered t') {task : Task}
    (hperform : ∃ o, (start catalog options t layout).perform task = .ok o) :
    ∃ o, (start catalog options t' layout).perform task = .ok o := by
  cases task with
  | files field => exact ⟨_, rfl⟩
  | relation field r =>
      rw [exists_perform_iff] at hperform ⊢
      rcases hperform with ⟨hown, hlinks⟩
      refine ⟨hown, ?_⟩
      intro hreaches
      rw [h.reaches_eq] at hreaches
      rcases hlinks hreaches with ⟨foreign, foreignLayout, l, hlink⟩
      rcases hlink.reordered h with ⟨foreign', l', hlink', -⟩
      exact ⟨foreign', foreignLayout, l', hlink'⟩

theorem check_reordered (h : t.Reordered t') {f : Field}
    (hcheck : ∃ e, (start catalog options t layout).check f = .ok e) :
    ∃ e, (start catalog options t' layout).check f = .ok e := by
  rw [exists_check_iff] at hcheck ⊢
  rcases hcheck with ⟨task, htask, hperform⟩
  refine ⟨task, ?_, ?_⟩
  · rw [task?_reordered h]
    exact htask
  · intro x hx
    exact perform_reordered h (hperform x hx)

end Scope

theorem exists_compile_reordered (h : t.Reordered t')
    (hok : ∃ out, compile catalog options t base = .ok out) :
    ∃ out', compile catalog options t' base = .ok out' := by
  -- each field compiles apart from the others, so they do in any order
  rw [exists_compile_iff] at hok ⊢
  rcases hok with ⟨layout, hlayout, hchecks⟩
  refine ⟨layout, ?_, ?_⟩
  · rw [h.id]
    exact hlayout
  · intro f hf
    exact Scope.check_reordered h (hchecks f (h.fields.subset hf))

/-! ## What is compiled -/

/-- What the fragments `a` and `b` of one field join and show is the same up to order. -/
theorem Table.Adds.reordered (h : t.Reordered t') {a b : Fragment}
    (ha : t.Adds catalog options a) (hb : t'.Adds catalog options b) (hfield : a.field = b.field) :
    a.join.Reordered b.join ∧ (b.items.map (·.outputName?)).Perm (a.items.map (·.outputName?)) := by
  cases ha with
  | @files field hkind =>
      cases hb with
      | @files field' hkind' =>
          obtain rfl : field = field' := hfield
          exact ⟨.refl _, .refl _⟩
      | @link field' r foreign layout l hkind' hlink =>
          have hid : field = field' := by
            rw [← hlink.field_eq, ← Link.field_resolve l r, ← hfield]
            rfl
          -- a field of files is no relation in the other table either
          rw [← hid, h.kind?_eq, hkind] at hkind'
          cases hkind'
  | @link field r foreign layout l hkind hlink =>
      rw [Link.field_resolve, hlink.field_eq] at hfield
      cases hb with
      | @files field' hkind' =>
          obtain rfl : field = field' := hfield
          rw [h.kind?_eq, hkind] at hkind'
          cases hkind'
      | @link field' r' foreign' layout' l' hkind' hlink' =>
          rw [Link.field_resolve, hlink'.field_eq] at hfield
          subst hfield
          rw [h.kind?_eq, hkind, Option.some.injEq] at hkind'
          cases hkind'
          -- the relation has one link in the other table, so it is this one
          rcases hlink.reordered h with ⟨foreign'', l'', hlink'', hl⟩
          rw [hlink'.unique hlink'']
          exact ⟨hl.join_resolve r, hl.names_resolve r⟩

theorem Table.Reordered.staleFields_perm (h : t.Reordered t') (field : FieldId) :
    (t'.staleFields field).Perm (t.staleFields field) := by
  unfold Table.staleFields
  rw [h.kind?_eq]
  split
  · rw [h.id]
    exact ((h.attachedTo field).ids_perm.cons field).map _
  · exact .refl _

/-- Compiled from tables `t` and `t'` with the same fields, queries are the same up to order. -/
theorem Compiled.MadeOf.reordered (h : t.Reordered t') {out out' : Compiled}
    {fragments fragments' : List Fragment}
    (hmade : out.MadeOf catalog options t base fragments)
    (hmade' : out'.MadeOf catalog options t' base fragments') : out.Reordered out' base := by
  have hlive : t'.isLive catalog = t.isLive catalog := by
    funext field
    exact h.isLive_eq catalog field
  have hfields : (fragments'.map (·.field)).Perm (fragments.map (·.field)) := by
    rw [hmade.fields, hmade'.fields, hlive]
    exact h.compileOrder_perm.filter _
  have hparts : ∀ b ∈ fragments', ∀ a ∈ fragments, b.field = a.field →
      a.join.Reordered b.join ∧
        (b.items.map (·.outputName?)).Perm (a.items.map (·.outputName?)) := by
    intro b hb a ha hfield
    exact (hmade.adds a ha).reordered h (hmade'.adds b hb) hfield.symm
  constructor
  case names =>
    rw [Query.outputNames, Query.outputNames, hmade.query, hmade'.query, List.map_append,
      List.map_append, List.map_flatMap, List.map_flatMap]
    apply List.Perm.append_left
    apply flatMap_perm_of_keys hfields
    intro b hb a ha hfield
    exact (hparts b hb a ha hfield).2
  case aliases =>
    have hqualifiers : ∀ fs : List Fragment, (fs.map (·.join)).map (·.target.qualifier?) =
        fs.flatMap fun f => [f.join.target.qualifier?] := by
      intro fs
      rw [List.map_map, List.map_eq_flatMap]
      rfl
    rw [hmade.query, hmade'.query, List.map_append, List.map_append, hqualifiers, hqualifiers]
    apply List.Perm.append_left
    apply flatMap_perm_of_keys hfields
    intro b hb a ha hfield
    rw [(hparts b hb a ha hfield).1.qualifier?_eq]
  case stale =>
    rw [hmade.stale, hmade'.stale, hlive]
    apply List.Perm.flatMap (h.compileOrder_perm.filter _)
    intro field _
    exact h.staleFields_perm field
  case joins =>
    refine ⟨fragments.map (·.join), fragments'.map (·.join), ?_, ?_, ?_⟩
    · rw [hmade.query]
    · rw [hmade'.query]
    · intro join hjoin join' hjoin' hqualifier
      rcases List.mem_map.1 hjoin with ⟨a, ha, rfl⟩
      rcases List.mem_map.1 hjoin' with ⟨b, hb, rfl⟩
      -- the alias tells the field, and the field what is joined
      have hlabel : a.label = b.label := by
        rw [(hmade.adds a ha).qualifier?_eq, (hmade'.adds b hb).qualifier?_eq] at hqualifier
        exact Option.some.inj hqualifier
      have hfield : a.field = b.field :=
        (hmade.adds a ha).field_eq_of_label_eq (hmade'.adds b hb) hlabel
      exact (hparts b hb a ha hfield.symm).1

/-- The order of the fields of `t` does not matter: the table compiles in either order or in none,
and the compiled queries are the same up to order. -/
theorem compile_reordered (h : t.Reordered t') :
    ((∃ out, compile catalog options t base = .ok out) ↔
      ∃ out', compile catalog options t' base = .ok out') ∧
    ∀ out out', compile catalog options t base = .ok out →
      compile catalog options t' base = .ok out' → out.Reordered out' base := by
  constructor
  · constructor
    · exact exists_compile_reordered h
    · exact exists_compile_reordered h.symm
  · intro out out' hout hout'
    rcases exists_madeOf hout with ⟨fragments, hmade⟩
    rcases exists_madeOf hout' with ⟨fragments', hmade'⟩
    exact hmade.reordered h hmade'

end Fields

/-- The posts with their fields in the opposite order. -/
def Blog.postsReversed : Table :=
  { posts with schema := schema posts.schema.fields.reverse }

/-- The sum of the `weights` stands before the tags of a post in one order, and behind them in the
other. -/
theorem compile_reordered_posts :
    Blog.posts.Reordered Blog.postsReversed ∧
      ∃ out out',
        compile Blog.registry.catalog {} Blog.posts (Options.baseQuery {} Blog.posts) = .ok out ∧
        compile Blog.registry.catalog {} Blog.postsReversed (Options.baseQuery {} Blog.posts) =
          .ok out' ∧
        out.query ≠ out'.query ∧ out.Reordered out' (Options.baseQuery {} Blog.posts) := by
  have hreordered : Blog.posts.Reordered Blog.postsReversed := by
    constructor
    · rfl
    · decide +kernel
  have hdiffer : (compile Blog.registry.catalog {} Blog.posts
      (Options.baseQuery {} Blog.posts)).toOption.map (·.query) ≠
        (compile Blog.registry.catalog {} Blog.postsReversed
          (Options.baseQuery {} Blog.posts)).toOption.map (·.query) := by decide +kernel
  have hcompiles : (compile Blog.registry.catalog {} Blog.posts
      (Options.baseQuery {} Blog.posts)).map (·.dialect) = .ok .sqlite := by rfl
  rcases map_eq_ok.1 hcompiles with ⟨out, h, -⟩
  rcases (compile_reordered hreordered).1.1 ⟨out, h⟩ with ⟨out', h'⟩
  have hsame := (compile_reordered hreordered).2 out out' h h'
  rw [h, h'] at hdiffer
  refine ⟨hreordered, out, out', h, h', ?_, hsame⟩
  intro heq
  exact hdiffer (congrArg some heq)

end LinkedRecords
