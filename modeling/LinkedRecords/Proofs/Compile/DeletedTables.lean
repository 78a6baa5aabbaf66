import LinkedRecords.Proofs.Compile.Parts
import LinkedRecords.Proofs.Registry
import Mathlib.Data.List.Flatten

/-! # Deleting a table

When a table is marked deleted, the relations of other tables to it drop out of their queries, with
all that is attached to them, and are reported. Everything else stays as it was and in its place: no
other fragment, no error and no layout depends on the mark. A relation of a table to itself stays in
the query, also when it is this table that is deleted.

* `Catalog.Deletes` — how a catalog changes when a table is deleted.
* `Table.isLive_deletes`, `Table.HasLink.deletes` — which fields are still joined, and to what.
* `Compiled.Loses` — how a compiled query changes, and what is reported.
* `exists_compile_deletes` — deleting a table stops no compilation.
* `compile_markDeleted` — a compilation after `Registry.markDeleted`, against the one before.
-/

namespace LinkedRecords

open Sql

/-! ## Catalogs -/

/-- How a catalog `c` changes to `c'` when the table `id` is deleted: the table counts as deleted,
and the other tables and all layouts stay. -/
structure Catalog.Deletes (c c' : Catalog) (id : TableId) : Prop where
  deleted : c'.isDeleted id = true
  others : ∀ other, other ≠ id → c'.table? other = c.table? other
  layouts : ∀ other, c'.layout? other = c.layout? other

/-- Marking the table `id` deleted changes the catalog of `r` in this way, also if the table is not
there. -/
theorem Registry.deletes_markDeleted (r : Registry) (id : TableId) :
    r.catalog.Deletes (r.markDeleted id).2.catalog id := by
  constructor
  · unfold Catalog.isDeleted
    rw [table?_markDeleted]
    cases r.catalog.table? id with
    | none => rfl
    | some t => simp
  · intro other hother
    rw [table?_markDeleted]
    cases r.catalog.table? other with
    | none => rfl
    | some t => simp [hother.symm]
  · intro other
    exact layout?_markDeleted r id other

/-! ## The relations that are left out -/

namespace Table

/-- Whether `field` is a relation to the table `id`, which is not its own table `t`. -/
def leadsTo (t : Table) (id : TableId) (field : FieldId) : Bool :=
  match t.kind? field with
  | some (.relation r) => r.foreignTable t.id = id && id ≠ t.id
  | _ => false

variable {t : Table} {c c' : Catalog} {id : TableId} {r : Relation} {field : FieldId}

theorem exists_of_leadsTo (h : t.leadsTo id field = true) :
    ∃ r, t.kind? field = some (.relation r) ∧ r.foreignTable t.id = id ∧ id ≠ t.id := by
  unfold leadsTo at h
  split at h
  case h_1 r hkind =>
    rw [Bool.and_eq_true, decide_eq_true_eq, decide_eq_true_eq] at h
    exact ⟨r, hkind, h⟩
  case h_2 => cases h

/-- After the deletion of `id` the relation `r` leads where it led, unless that was `id`. -/
theorem reaches_deletes (h : c.Deletes c' id) (r : Relation) :
    t.reaches c' r = (t.reaches c r && !(r.foreignTable t.id = id && id ≠ t.id)) := by
  unfold reaches
  by_cases hself : r.foreignTable t.id = t.id
  · -- the table at hand is reached whatever the catalog says
    simp only [hself]
    by_cases hid : t.id = id
    · simp [hid]
    · simp [hid]
  · by_cases hid : r.foreignTable t.id = id
    · have hgone : (c'.table? id).any (!·.deleted) = false := by
        have hdeleted := h.deleted
        unfold Catalog.isDeleted at hdeleted
        cases htable : c'.table? id with
        | none => rfl
        | some foreign => simpa [htable] using hdeleted
      have hother : id ≠ t.id := by
        intro heq
        exact hself (hid.trans heq)
      simp [hid, hgone, hother]
    · rw [h.others _ hid]
      simp [hid]

/-- The fields that are joined with `c'` are those joined with `c`, without the relations to
`id`. -/
theorem isLive_deletes (h : c.Deletes c' id) (field : FieldId) :
    t.isLive c' field = (t.isLive c field && !t.leadsTo id field) := by
  unfold isLive leadsTo
  cases t.kind? field with
  | none => rfl
  | some kind =>
      cases kind with
      | scalar _ => rfl
      | attachment => rfl
      | relation r => exact reaches_deletes h r
      | attached _ _ => rfl

/-- A relation `r` that reaches a table with `c'` leads to the same one as with `c`. -/
theorem foreign?_deletes (h : c.Deletes c' id) (hkept : t.reaches c' r = true) :
    t.foreign? c' r = t.foreign? c r := by
  unfold Table.foreign?
  by_cases hself : r.foreignTable t.id = t.id
  · rw [if_pos hself, if_pos hself]
  · rw [if_neg hself, if_neg hself]
    apply h.others
    -- if it led to `id`, it would not reach a table any more
    intro hid
    rw [reaches_deletes h, hid] at hkept
    have hother : id ≠ t.id := by
      intro heq
      exact hself (hid.trans heq)
    simp [hother] at hkept

variable {options : Options} {foreign : Table} {layout : Layout} {l : Link}

/-- The link `l` of a relation that is still joined has not changed. -/
theorem HasLink.deletes (h : c.Deletes c' id) (hkept : t.reaches c' r = true)
    (hlink : t.HasLink c options field r foreign layout l) :
    t.HasLink c' options field r foreign layout l := by
  constructor
  · exact hkept
  · rw [foreign?_deletes h hkept]
    exact hlink.leads
  · rw [h.layouts]
    exact hlink.stored
  · exact hlink.collected
  · exact hlink.parts

/-- A `fragment` that is still added has not changed. -/
theorem Adds.deletes (h : c.Deletes c' id) {fragment : Fragment}
    (hadds : t.Adds c options fragment) (hkept : t.isLive c' fragment.field = true) :
    t.Adds c' options fragment := by
  cases hadds with
  | files hkind => exact .files hkind
  | @link field r foreign layout l hkind hlink =>
      rw [Link.field_resolve, hlink.field_eq] at hkept
      have hreaches : t.reaches c' r = true := by
        simpa only [isLive, hkind] using hkept
      exact .link hkind (hlink.deletes h hreaches)

end Table

/-! ## What becomes of the query -/

/-- How the query `out'` differs from `out`, which was compiled from the same table `t` and the same
`base` before the table `id` was deleted. -/
structure Compiled.Loses (out out' : Compiled) (c c' : Catalog) (options : Options) (t : Table)
    (id : TableId) (base : Query) (fragments : List Fragment) : Prop where
  /-- The query `out` was made of `fragments`. -/
  before : out.MadeOf c options t base fragments
  /-- The fragments of the relations to `id` are gone from `out'`, and the others are in their
  places. -/
  after : out'.MadeOf c' options t base (fragments.filter fun f => !t.leadsTo id f.field)
  /-- What `out` left out is still left out, in the same order. -/
  kept : out.stale.Sublist out'.stale
  /-- The fields that `out'` leaves out besides are the relations to `id`, with all that is attached
  to them. -/
  stale : out'.stale.Perm (out.stale ++
    (fragments.filter fun f => t.leadsTo id f.field).flatMap fun f => t.staleFields f.field)
  /-- Every relation to `id` is left out of `out'`, also one that `out` had left out. -/
  reported : ∀ f ∈ t.schema.fields, t.leadsTo id f.id = true →
    ∀ field ∈ f.id :: (t.attachedTo f.id).ids, ⟨field, f.id, id⟩ ∈ out'.stale
  /-- A relation of `t` to itself is not left out. -/
  self : ∀ x ∈ out'.stale, x.foreign ≠ t.id

/-- Two lists with the same keys in order are the same, if members `a` and `b` with one `key`
are. -/
theorem eq_of_map_eq {α κ : Type} {key : α → κ} {as bs : List α} (hkeys : as.map key = bs.map key)
    (heq : ∀ a ∈ as, ∀ b ∈ bs, key a = key b → a = b) : as = bs := by
  induction as generalizing bs with
  | nil =>
      rw [List.map_nil, eq_comm, List.map_eq_nil_iff] at hkeys
      exact hkeys.symm
  | cons a as ih =>
      cases bs with
      | nil => cases hkeys
      | cons b bs =>
          rw [List.map_cons, List.map_cons, List.cons.injEq] at hkeys
          have hhead : a = b := heq a List.mem_cons_self b List.mem_cons_self hkeys.1
          have htail : as = bs := by
            apply ih hkeys.2
            intro a' ha' b' hb'
            exact heq a' (List.mem_cons_of_mem a ha') b' (List.mem_cons_of_mem b hb')
          rw [hhead, htail]

section Compile

variable {c c' : Catalog} {id : TableId} {options : Options} {t : Table} {base : Query}
  {layout : Layout}

namespace Scope

theorem perform_deletes (h : c.Deletes c' id) {task : Task}
    (hperform : ∃ o, (start c options t layout).perform task = .ok o) :
    ∃ o, (start c' options t layout).perform task = .ok o := by
  cases task with
  | files field => exact ⟨_, rfl⟩
  | relation field r =>
      rw [exists_perform_iff] at hperform ⊢
      rcases hperform with ⟨hown, hlinks⟩
      refine ⟨hown, ?_⟩
      -- a relation needs a link only if it is joined, which it then was before
      intro hkept
      have hreaches : t.reaches c r = true := by
        rw [Table.reaches_deletes h, Bool.and_eq_true] at hkept
        exact hkept.1
      rcases hlinks hreaches with ⟨foreign, foreignLayout, l, hlink⟩
      exact ⟨foreign, foreignLayout, l, hlink.deletes h hkept⟩

theorem check_deletes (h : c.Deletes c' id) {f : Field}
    (hcheck : ∃ e, (start c options t layout).check f = .ok e) :
    ∃ e, (start c' options t layout).check f = .ok e := by
  rw [exists_check_iff] at hcheck ⊢
  rcases hcheck with ⟨task, htask, hperform⟩
  refine ⟨task, htask, ?_⟩
  intro x hx
  exact perform_deletes h (hperform x hx)

end Scope

/-- If `t` compiles with `c`, it compiles with `c'`. -/
theorem exists_compile_deletes (h : c.Deletes c' id)
    (hok : ∃ out, compile c options t base = .ok out) :
    ∃ out', compile c' options t base = .ok out' := by
  rw [exists_compile_iff] at hok ⊢
  rcases hok with ⟨layout, hlayout, hchecks⟩
  refine ⟨layout, ?_, ?_⟩
  · rw [h.layouts]
    exact hlayout
  · intro f hf
    exact Scope.check_deletes h (hchecks f hf)

namespace Compiled.MadeOf

variable {out out' : Compiled} {fragments fragments' : List Fragment}

/-- The `fragments'` are the `fragments` from before, without those of relations to `id`. -/
theorem fragments_deletes (h : c.Deletes c' id) (hmade : out.MadeOf c options t base fragments)
    (hmade' : out'.MadeOf c' options t base fragments') :
    fragments' = fragments.filter fun f => !t.leadsTo id f.field := by
  have hfields : fragments'.map (·.field) =
      (fragments.filter fun f => !t.leadsTo id f.field).map (·.field) := by
    have hlive : t.isLive c' = fun field => t.isLive c field && !t.leadsTo id field := by
      funext field
      exact Table.isLive_deletes h field
    have hkept : (fragments.filter fun f => !t.leadsTo id f.field).map (·.field) =
        (fragments.map (·.field)).filter fun field => !t.leadsTo id field := by
      rw [List.filter_map]
      rfl
    rw [hmade'.fields, hkept, hmade.fields, List.filter_filter, hlive]
    apply List.filter_congr
    intro field _
    exact Bool.and_comm ..
  apply eq_of_map_eq hfields
  intro a ha b hb hfield
  -- what is still joined is joined by the same fragment
  have hlive : t.isLive c' b.field = true := by
    have hmem : a.field ∈ fragments'.map (·.field) := List.mem_map_of_mem ha
    rw [hmade'.fields, List.mem_filter] at hmem
    rw [← hfield]
    exact hmem.2
  have hadds : t.Adds c options b := hmade.adds b (List.mem_filter.1 hb).1
  exact (hmade'.adds a ha).eq_of_field_eq (hadds.deletes h hlive) hfield

/-- What `out` leaves out comes in the same order among what `out'` leaves out. -/
theorem stale_sublist_deletes (h : c.Deletes c' id)
    (hmade : out.MadeOf c options t base fragments)
    (hmade' : out'.MadeOf c' options t base fragments') : out.stale.Sublist out'.stale := by
  rw [hmade.stale, hmade'.stale]
  apply List.Sublist.flatMap
  -- a field that was not joined is not joined now
  apply List.monotone_filter_right
  intro field hdead
  have hdead' : t.isLive c field = false := by simpa using hdead
  rw [Table.isLive_deletes h, hdead']
  rfl

/-- The relations to `id`, with all that is attached to them, are what `out'` leaves out besides. -/
theorem stale_perm_deletes (h : c.Deletes c' id) (hmade : out.MadeOf c options t base fragments)
    (hmade' : out'.MadeOf c' options t base fragments') :
    out'.stale.Perm (out.stale ++
      (fragments.filter fun f => t.leadsTo id f.field).flatMap fun f => t.staleFields f.field) := by
  have hlost : (fragments.filter fun f => t.leadsTo id f.field).flatMap
      (fun f => t.staleFields f.field) =
        ((t.compileOrder.filter (t.isLive c)).filter (t.leadsTo id)).flatMap t.staleFields := by
    rw [← hmade.fields, List.filter_map, List.flatMap_map]
    rfl
  rw [hlost, hmade.stale, hmade'.stale, ← List.flatMap_append]
  apply List.Perm.flatMap_right
  -- a field that is not joined now was not joined before, or leads to the deleted table
  have hsplit := (List.filter_append_perm (fun field => !t.isLive c field)
    (t.compileOrder.filter fun field => !t.isLive c' field)).symm
  rw [List.filter_filter, List.filter_filter] at hsplit
  have hbefore : t.compileOrder.filter (fun field => !t.isLive c field && !t.isLive c' field) =
      t.compileOrder.filter fun field => !t.isLive c field := by
    apply List.filter_congr
    intro field _
    rw [Table.isLive_deletes h]
    cases t.isLive c field <;> rfl
  have hnew : t.compileOrder.filter (fun field => !!t.isLive c field && !t.isLive c' field) =
      (t.compileOrder.filter (t.isLive c)).filter (t.leadsTo id) := by
    rw [List.filter_filter]
    apply List.filter_congr
    intro field _
    rw [Table.isLive_deletes h]
    cases t.isLive c field <;> cases t.leadsTo id field <;> rfl
  rw [hbefore, hnew] at hsplit
  exact hsplit

/-- A relation `f` that reaches no table is reported, with all that is attached to it. -/
theorem mem_stale_of_not_reaches (hmade : out.MadeOf c options t base fragments) {f : Field}
    (hf : f ∈ t.schema.fields) {r : Relation} (hkind : f.kind = .relation r)
    (hdead : t.reaches c r = false) {field : FieldId}
    (hfield : field ∈ f.id :: (t.attachedTo f.id).ids) :
    ⟨field, f.id, r.foreignTable t.id⟩ ∈ out.stale := by
  have hkind' : t.kind? f.id = some (.relation r) := by
    rw [Table.kind?_of_mem hf, hkind]
  have hlive : t.isLive c f.id = false := by
    simpa only [Table.isLive, hkind'] using hdead
  -- every relation of `t` is compiled, so it is met and left out
  rw [hmade.stale, List.mem_flatMap]
  refine ⟨f.id, List.mem_filter.2 ⟨Table.mem_compileOrder hf hkind, by simp [hlive]⟩, ?_⟩
  simp only [Table.staleFields, hkind']
  exact List.mem_map_of_mem (f := fun x => (⟨x, f.id, r.foreignTable t.id⟩ : StaleField)) hfield

/-- What is reported leads to a table other than `t`. -/
theorem foreign_ne_of_mem_stale (hmade : out.MadeOf c options t base fragments) {x : StaleField}
    (hx : x ∈ out.stale) : x.foreign ≠ t.id := by
  rw [hmade.stale, List.mem_flatMap] at hx
  rcases hx with ⟨field, hfield, hx⟩
  have hdead : t.isLive c field = false := by
    simpa using (List.mem_filter.1 hfield).2
  unfold Table.staleFields at hx
  split at hx
  case h_1 r hkind =>
    rcases List.mem_map.1 hx with ⟨id, -, rfl⟩
    intro hself
    have hself' : r.foreignTable t.id = t.id := hself
    simp [Table.isLive, hkind, Table.reaches, hself'] at hdead
  case h_2 => cases hx

end Compiled.MadeOf

end Compile

/-- Deleting the table `id` removes the fragments of the relations that lead to it, unless they are
relations of `t` to itself, and reports them; it changes nothing else. -/
theorem compile_markDeleted {r : Registry} {options : Options} {t : Table} {base : Query}
    {out : Compiled} (h : compile r.catalog options t base = .ok out) (id : TableId) :
    ∃ out', compile (r.markDeleted id).2.catalog options t base = .ok out' ∧
      ∃ fragments, out.Loses out' r.catalog (r.markDeleted id).2.catalog options t id base
        fragments := by
  have hdeletes : r.catalog.Deletes (r.markDeleted id).2.catalog id := r.deletes_markDeleted id
  rcases exists_compile_deletes hdeletes ⟨out, h⟩ with ⟨out', h'⟩
  rcases exists_madeOf h with ⟨fragments, hmade⟩
  rcases exists_madeOf h' with ⟨fragments', hmade'⟩
  have hfragments := hmade.fragments_deletes hdeletes hmade'
  refine ⟨out', h', fragments, ?_⟩
  constructor
  case before => exact hmade
  case after =>
    rw [← hfragments]
    exact hmade'
  case kept => exact hmade.stale_sublist_deletes hdeletes hmade'
  case stale => exact hmade.stale_perm_deletes hdeletes hmade'
  case reported =>
    intro f hf hleads field hfield
    rcases Table.exists_of_leadsTo hleads with ⟨rel, hkind, hforeign, hother⟩
    have hrelation : f.kind = .relation rel := by
      rw [Table.kind?_of_mem hf] at hkind
      exact Option.some.inj hkind
    have hdead : t.reaches (r.markDeleted id).2.catalog rel = false := by
      rw [Table.reaches_deletes hdeletes]
      simp [hforeign, hother]
    rw [← hforeign]
    exact hmade'.mem_stale_of_not_reaches hf hrelation hdead hfield
  case self =>
    intro x hx
    exact hmade'.foreign_ne_of_mem_stale hx

/-- Once the tags are deleted, the posts are left without `tagged`, the `number` of tags and the sum
of their `weights`. The thread of a post stays, and the drafts were left out before. -/
theorem compile_markDeleted_tags :
    ∃ out out' fragments,
      compile Blog.registry.catalog {} Blog.posts (Options.baseQuery {} Blog.posts) = .ok out ∧
      compile (Blog.registry.markDeleted ⟨"tags"⟩).2.catalog {} Blog.posts
        (Options.baseQuery {} Blog.posts) = .ok out' ∧
      out.Loses out' Blog.registry.catalog (Blog.registry.markDeleted ⟨"tags"⟩).2.catalog {}
        Blog.posts ⟨"tags"⟩ (Options.baseQuery {} Blog.posts) fragments ∧
      out.stale.map (·.field) = [⟨"draft"⟩, ⟨"old"⟩] ∧
      out'.stale.map (·.field) =
        [⟨"tagged"⟩, ⟨"number"⟩, ⟨"weights"⟩, ⟨"draft"⟩, ⟨"old"⟩] := by
  have hbefore : (compile Blog.registry.catalog {} Blog.posts
      (Options.baseQuery {} Blog.posts)).map (·.stale.map (·.field)) =
        .ok [⟨"draft"⟩, ⟨"old"⟩] := by rfl
  have hafter : (compile (Blog.registry.markDeleted ⟨"tags"⟩).2.catalog {} Blog.posts
      (Options.baseQuery {} Blog.posts)).map (·.stale.map (·.field)) =
        .ok [⟨"tagged"⟩, ⟨"number"⟩, ⟨"weights"⟩, ⟨"draft"⟩, ⟨"old"⟩] := by rfl
  rcases map_eq_ok.1 hbefore with ⟨out, h, hstale⟩
  rcases compile_markDeleted h ⟨"tags"⟩ with ⟨out', h', fragments, hloses⟩
  rw [h'] at hafter
  exact ⟨out, out', fragments, h, h', hloses, hstale, Except.ok.inj hafter⟩

end LinkedRecords
