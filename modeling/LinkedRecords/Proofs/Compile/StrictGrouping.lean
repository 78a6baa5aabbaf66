import LinkedRecords.Proofs.Compile.Parts
import LinkedRecords.Proofs.Compile.Rows
import LinkedRecords.Proofs.Sql.Scoping

/-! # Strict grouping

Engines with strict rules accept a grouped query only if it reads every column that it does not
aggregate from its keys, and if aggregates stand in its items alone and not in one another. Every
query that a compilation adds follows these rules, however the fields are stored, and the base
itself stays without groups and aggregates if it has none.

* `Sql.Expr.bareColumns`, `Sql.Expr.nests` — what is read outside of aggregates, and aggregates in
  one another.
* `Sql.Query.StrictlyGrouped` — the rules.
* `Link.strictlyGrouped_records`, `Link.strictlyGrouped_query`, `strictlyGrouped_fileRows` — the
  queries of a relation, and that of a file field.
* `compile_strictlyGrouped` — every query that a compilation adds.
-/

namespace LinkedRecords

open Sql

namespace Sql

/-! ## Aggregates in expressions -/

namespace Expr

mutual

/-- The columns that an expression reads outside of aggregates, a star for all of them included. -/
def bareColumns : Expr → List Expr
  | .column qualifier name => [.column qualifier name]
  | .literal _ => []
  | .binary left _ right => left.bareColumns ++ right.bareColumns
  | .call function args => if isAggregate function then [] else bareColumnsList args
  | .star qualifier => [.star qualifier]

/-- The columns that several expressions read outside of aggregates. -/
def bareColumnsList : List Expr → List Expr
  | [] => []
  | e :: es => e.bareColumns ++ bareColumnsList es

end

mutual

/-- Whether an aggregate stands inside another. -/
def nests : Expr → Bool
  | .column .. | .literal _ | .star _ => false
  | .binary left _ right => left.nests || right.nests
  | .call function args => isAggregate function && aggregatesList args || nestsList args

/-- Whether an aggregate stands inside another in one of several expressions. -/
def nestsList : List Expr → Bool
  | [] => false
  | e :: es => e.nests || nestsList es

end

theorem bareColumnsList_eq_flatMap (es : List Expr) :
    bareColumnsList es = es.flatMap (·.bareColumns) := by
  induction es with
  | nil => rfl
  | cons e es ih => rw [bareColumnsList, ih, List.flatMap_cons]

theorem aggregatesList_eq_any (es : List Expr) : aggregatesList es = es.any (·.aggregates) := by
  induction es with
  | nil => rfl
  | cons e es ih => rw [aggregatesList, ih, List.any_cons]

mutual

/-- An expression `e` without aggregates has none inside another. -/
theorem nests_of_not_aggregates : (e : Expr) → e.aggregates = false → e.nests = false
  | .column .., _ => rfl
  | .literal _, _ => rfl
  | .star _, _ => rfl
  | .binary left op right, h => by
    rw [aggregates, Bool.or_eq_false_iff] at h
    rw [nests, nests_of_not_aggregates left h.1, nests_of_not_aggregates right h.2]
    rfl
  | .call function args, h => by
    rw [aggregates, Bool.or_eq_false_iff] at h
    rw [nests, h.1, nestsList_of_not_aggregates args h.2]
    rfl

theorem nestsList_of_not_aggregates : (es : List Expr) → aggregatesList es = false →
    nestsList es = false
  | [], _ => rfl
  | e :: es, h => by
    rw [aggregatesList, Bool.or_eq_false_iff] at h
    rw [nestsList, nests_of_not_aggregates e h.1, nestsList_of_not_aggregates es h.2]
    rfl

end

end Expr

/-! ## Strict rules -/

/-- Whether `item` may be selected by groups with these keys. -/
structure SelectItem.FitsGroups (item : SelectItem) (groups : List Expr) : Prop where
  /-- Every column that `item` does not aggregate is a key. -/
  grouped : ∀ column ∈ item.expr.bareColumns, column ∈ groups
  /-- No aggregate of `item` stands inside another. -/
  flat : item.expr.nests = false

/-- Whether an engine with strict rules accepts the query `q`, which is grouped. -/
structure Query.StrictlyGrouped (q : Query) : Prop where
  /-- Every item of `q` may be selected by its groups. -/
  items : ∀ item ∈ q.items, item.FitsGroups q.groups
  /-- No aggregate stands in the condition of a join. -/
  matching : ∀ join ∈ q.joins, join.matching.aggregates = false
  /-- No aggregate stands in the condition of `q`. -/
  condition : ∀ e ∈ q.condition, e.aggregates = false
  /-- No aggregate stands in a key. -/
  groups : ∀ e ∈ q.groups, e.aggregates = false
  /-- The query `q` has keys. -/
  keyed : q.groups ≠ []
  /-- No key of `q` comes twice. -/
  distinct : q.groups.Nodup

namespace SelectItem

variable {item : SelectItem} {groups : List Expr}

/-- An `item` without aggregates is selected if its columns are keys. -/
theorem fitsGroups_of_plain (hplain : item.expr.aggregates = false)
    (h : ∀ column ∈ item.expr.bareColumns, column ∈ groups) : item.FitsGroups groups := by
  constructor
  · exact h
  · exact item.expr.nests_of_not_aggregates hplain

/-- The column `name` is selected if it is a key. -/
theorem fitsGroups_of_key {qualifier label : Option String} {name : String}
    (h : Expr.column qualifier name ∈ groups) :
    FitsGroups ⟨.column qualifier name, label⟩ groups := by
  apply fitsGroups_of_plain rfl
  intro column hcolumn
  rw [List.mem_singleton.1 hcolumn]
  exact h

/-- An `item` that is an aggregate is selected whatever the keys are, if none stands inside it. -/
theorem fitsGroups_of_aggregate {function : String} {args : List Expr}
    (hexpr : item.expr = .call function args) (hfunction : Expr.isAggregate function = true)
    (hargs : Expr.aggregatesList args = false) : item.FitsGroups groups := by
  constructor
  · intro column hcolumn
    -- what stands inside an aggregate is not read bare
    rw [hexpr, Expr.bareColumns, if_pos hfunction] at hcolumn
    cases hcolumn
  · rw [hexpr, Expr.nests, hargs, Expr.nestsList_of_not_aggregates args hargs, Bool.and_false]
    rfl

end SelectItem

end Sql

/-! ## The queries of a link -/

namespace DisplayColumn

/-- The field of `c` is read from its columns, and nothing is aggregated. -/
theorem fitsGroups_projection (c : DisplayColumn) {groups : List Expr}
    (h : ∀ column ∈ c.columns, Expr.col column.name ∈ groups) :
    c.projection.FitsGroups groups := by
  rcases c with ⟨field, columns⟩
  rcases columns with _ | ⟨column, _ | ⟨column', columns⟩⟩
  · -- a field without columns reads none
    apply SelectItem.fitsGroups_of_plain
    · rfl
    · intro e he
      cases he
  · have hcolumn : Expr.col column.name ∈ groups := h column List.mem_cons_self
    simp only [projection]
    split
    case isTrue => exact SelectItem.fitsGroups_of_key hcolumn
    case isFalse => exact SelectItem.fitsGroups_of_key hcolumn
  · -- several columns stand side by side in an array
    have hargs : ∀ e ∈ (column :: column' :: columns).map fun column => Expr.col column.name,
        ∃ x ∈ column :: column' :: columns, e = .col x.name := by
      intro e he
      rcases List.mem_map.1 he with ⟨x, hx, rfl⟩
      exact ⟨x, hx, rfl⟩
    apply SelectItem.fitsGroups_of_plain
    · have hplain : Expr.aggregatesList
          ((column :: column' :: columns).map fun column => Expr.col column.name) = false := by
        rw [Expr.aggregatesList_eq_any, List.any_eq_false]
        intro e he
        rcases hargs e he with ⟨x, -, rfl⟩
        exact Bool.false_ne_true
      exact hplain
    · intro e he
      have hread : e ∈ Expr.bareColumnsList
          ((column :: column' :: columns).map fun column => Expr.col column.name) := he
      rw [Expr.bareColumnsList_eq_flatMap, List.mem_flatMap] at hread
      rcases hread with ⟨arg, harg, he⟩
      rcases hargs arg harg with ⟨x, hx, rfl⟩
      obtain rfl : e = .col x.name := List.mem_singleton.1 he
      exact h x hx

/-- The values of the field of `c` over all linked records are one aggregate. -/
theorem fitsGroups_gathered (c : DisplayColumn) (foreignAlias : String) (groups : List Expr) :
    (c.gathered foreignAlias).FitsGroups groups := by
  apply SelectItem.fitsGroups_of_aggregate rfl (by decide)
  split
  case isTrue => rfl
  case isFalse => rfl

end DisplayColumn

/-- The numbers that `a` computes over all linked records are aggregates. -/
theorem AttachedFields.fitsGroups_aggregates (a : AttachedFields) (foreignAlias : String)
    (groups : List Expr) : ∀ item ∈ a.aggregates foreignAlias, item.FitsGroups groups := by
  intro item hitem
  simp only [aggregates, List.mem_append, List.mem_map] at hitem
  -- a count, a sum or a mean
  rcases hitem with (⟨field, -, rfl⟩ | ⟨sum, -, rfl⟩) | ⟨average, -, rfl⟩
  · exact SelectItem.fitsGroups_of_aggregate rfl (by decide) rfl
  · exact SelectItem.fitsGroups_of_aggregate rfl (by decide) rfl
  · exact SelectItem.fitsGroups_of_aggregate rfl (by decide) rfl

namespace Link

variable (l : Link) (r : Relation)

/-- The foreign records of `l` are grouped by all that they show. -/
theorem strictlyGrouped_records : l.records.StrictlyGrouped := by
  have hkey : ∀ e ∈ l.records.groups, ∃ name, e = Expr.col name := by
    intro e he
    exact l.exists_of_mem_groups_records he
  rw [records, foreignRecords_eq] at hkey ⊢
  constructor
  case items =>
    intro item hitem
    rcases List.mem_cons.1 hitem with rfl | hitem
    · exact SelectItem.fitsGroups_of_key (List.mem_eraseDups.2 List.mem_cons_self)
    · rcases List.mem_map.1 hitem with ⟨c, hc, rfl⟩
      apply c.fitsGroups_projection
      intro column hcolumn
      -- the keys are collected from the same columns as the items
      refine List.mem_eraseDups.2 (List.mem_cons_of_mem _ ?_)
      exact List.mem_flatMap.2 ⟨c, hc, List.mem_map.2 ⟨column, hcolumn, rfl⟩⟩
  case matching =>
    intro join hjoin
    cases hjoin
  case condition =>
    intro e he
    cases he
  case groups =>
    intro e he
    rcases hkey e he with ⟨name, rfl⟩
    rfl
  case keyed => simp [List.eraseDups_cons]
  case distinct => exact nodup_eraseDups _

/-- What a record is linked to is an aggregate, or a key if `r` is a parent field. -/
theorem fitsGroups_linked (table name : String) (key : Expr) :
    (SelectItem.named (r.linked table) name).FitsGroups (key :: r.otherKeys table) := by
  cases r with
  | reference reference => exact SelectItem.fitsGroups_of_aggregate rfl (by decide) rfl
  | tree h => exact SelectItem.fitsGroups_of_aggregate rfl (by decide) rfl
  | parent h =>
      exact SelectItem.fitsGroups_of_key (List.mem_cons_of_mem key List.mem_cons_self)

/-- The links of `r` are grouped by the record, and those of a parent field by the parent too. -/
theorem strictlyGrouped_query : (l.query r).StrictlyGrouped := by
  constructor
  case items =>
    intro item hitem
    -- the record, what it is linked to, the gathered values and the numbers
    rcases l.cases_of_mem_items_query r hitem with rfl | rfl | ⟨c, -, rfl⟩ | hitem
    · exact SelectItem.fitsGroups_of_key List.mem_cons_self
    · exact fitsGroups_linked r ..
    · exact c.fitsGroups_gathered ..
    · exact l.attached.fitsGroups_aggregates _ _ item hitem
  case matching =>
    intro join hjoin
    obtain rfl := List.mem_singleton.1 hjoin
    rfl
  case condition =>
    intro e he
    rcases l.cases_of_mem_condition_query r he with ⟨op, n, rfl⟩
    rfl
  case groups =>
    intro e he
    rcases l.cases_of_mem_groups_query r he with rfl | rfl
    · rfl
    · rfl
  case keyed =>
    intro hnil
    cases hnil
  case distinct =>
    cases r with
    | reference reference => exact List.nodup_singleton _
    | tree h => exact List.nodup_singleton _
    | parent h =>
        -- the child and the parent are different columns
        have hne : Expr.of (l.linkTable (.parent h)) Naming.childColumn ≠
            .of (l.linkTable (.parent h)) Naming.parentColumn := by
          intro heq
          rw [Expr.of, Expr.of, Expr.column.injEq] at heq
          exact absurd heq.2 (by decide)
        exact List.nodup_cons.2 ⟨List.mem_singleton.not.2 hne, List.nodup_singleton _⟩

end Link

/-- The files of `field` are grouped by the record. -/
theorem strictlyGrouped_fileRows (options : FileOptions) (field : FieldId) :
    (fileRows options field).StrictlyGrouped := by
  constructor
  case items =>
    intro item hitem
    rcases List.mem_cons.1 hitem with rfl | hitem
    · exact SelectItem.fitsGroups_of_key List.mem_cons_self
    · obtain rfl := List.mem_singleton.1 hitem
      exact SelectItem.fitsGroups_of_aggregate rfl (by decide) rfl
  case matching =>
    intro join hjoin
    cases hjoin
  case condition =>
    intro e he
    cases he
    rfl
  case groups =>
    intro e he
    obtain rfl := List.mem_singleton.1 he
    rfl
  case keyed =>
    intro hnil
    cases hnil
  case distinct => exact List.nodup_singleton _

/-! ## Compiled queries -/

section Compile

variable {catalog : Catalog} {options : Options} {t : Table} {base : Query} {out : Compiled}

namespace Table.Adds

variable {fragment : Fragment}

theorem strictlyGrouped (h : t.Adds catalog options fragment) :
    ∀ q ∈ fragment.queries, q.StrictlyGrouped := by
  intro q hq
  cases h with
  | files hkind =>
      rw [Fragment.queries_fileFragment, List.mem_singleton] at hq
      subst hq
      exact strictlyGrouped_fileRows ..
  | @link field r foreign layout l hkind hlink =>
      rw [Fragment.queries_resolve, List.mem_cons, List.mem_singleton] at hq
      rcases hq with rfl | rfl
      · exact l.strictlyGrouped_query r
      · exact l.strictlyGrouped_records

theorem isPlain (h : t.Adds catalog options fragment) : fragment.IsPlain := by
  cases h with
  | @files field hkind => exact isPlain_fileFragment options field
  | @link field r foreign layout l hkind hlink => exact isPlain_resolve l r

theorem aggregates_matching (h : t.Adds catalog options fragment) :
    fragment.join.matching.aggregates = false := by
  cases h with
  | files hkind => rfl
  | @link field r foreign layout l hkind hlink =>
      rw [l.join_resolve]
      rfl

end Table.Adds

/-- Every query that is added to `base` follows the strict rules of grouping, and `base` is given no
aggregate and no key. -/
theorem compile_strictlyGrouped (h : compile catalog options t base = .ok out) :
    (∀ q ∈ out.added base, q.StrictlyGrouped) ∧
      ∃ items joins,
        out.query = { base with items := base.items ++ items, joins := base.joins ++ joins } ∧
        (∀ item ∈ items, item.expr.aggregates = false) ∧
        ∀ join ∈ joins, join.matching.aggregates = false := by
  rcases exists_madeOf h with ⟨fragments, hmade⟩
  constructor
  · intro q hq
    rw [hmade.added_eq, List.mem_flatMap] at hq
    rcases hq with ⟨fragment, hfragment, hq⟩
    exact (hmade.adds fragment hfragment).strictlyGrouped q hq
  · -- what is added to the query itself is plain, item by item and join by join
    refine ⟨_, _, hmade.query, ?_, ?_⟩
    · intro item hitem
      rcases List.mem_flatMap.1 hitem with ⟨fragment, hfragment, hitem⟩
      exact ((hmade.adds fragment hfragment).isPlain item hitem).2
    · intro join hjoin
      rcases List.mem_map.1 hjoin with ⟨fragment, hfragment, rfl⟩
      exact (hmade.adds fragment hfragment).aggregates_matching

end Compile

/-- The queries for `Blog.posts` are grouped by the record, the tags by all that is shown of them,
and the thread by both ends of its links. -/
theorem compile_strictlyGrouped_posts :
    ∃ out, compile Blog.registry.catalog {} Blog.posts (Options.baseQuery {} Blog.posts) = .ok out ∧
      (out.added (Options.baseQuery {} Blog.posts)).map (·.groups) = [
        [.of "posts_tagged_adjacency_list" "from_id"],
        [.col "id", .col "label", .col "weight"],
        [.col "record_id"],
        [.of "posts_thread_closure_table" "child_id", .of "posts_thread_closure_table" "parent_id"],
        [.col "id"]] ∧
      (∀ q ∈ out.added (Options.baseQuery {} Blog.posts), q.StrictlyGrouped) ∧
      out.query.groups = [] := by
  have hgroups : (compile Blog.registry.catalog {} Blog.posts
      (Options.baseQuery {} Blog.posts)).map (fun out =>
        (out.added (Options.baseQuery {} Blog.posts)).map (·.groups)) = .ok [
          [.of "posts_tagged_adjacency_list" "from_id"],
          [.col "id", .col "label", .col "weight"],
          [.col "record_id"],
          [.of "posts_thread_closure_table" "child_id",
            .of "posts_thread_closure_table" "parent_id"],
          [.col "id"]] := by
    rfl
  rcases map_eq_ok.1 hgroups with ⟨out, h, hadded⟩
  rcases compile_strictlyGrouped h with ⟨hstrict, items, joins, hquery, -, -⟩
  refine ⟨out, h, hadded, hstrict, ?_⟩
  rw [hquery]
  rfl

end LinkedRecords
