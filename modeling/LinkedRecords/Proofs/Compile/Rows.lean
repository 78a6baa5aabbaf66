import LinkedRecords.Proofs.Compile.Accounting
import LinkedRecords.Proofs.Compile.Links
import Mathlib.Algebra.BigOperators.Group.Multiset.Basic
import Mathlib.Data.Multiset.Sort
import Mathlib.Data.String.Basic

/-! # Every record once

A compiled query yields each record of the table once, with its own columns in front and those of
the fragments behind: every join is to at most one row for a record, and nothing is grouped.

* `Fragment.IsPlain`, `Fragment.Follows` — a fragment with items over one row, joined to one row.
* `Table.OneParent` — what is asked of the database: no record has two direct parents.
* `Scope.Yields.follows` — every fragment of a compilation is of this sort.
* `run_joined`, `Run.rows` — the rows of a query with such fragments behind its base.
* `compile_rows` — the rows and columns of a compiled query.
-/

namespace LinkedRecords

open Sql

/-! ## The items of a fragment -/

namespace Fragment

/-- Whether each item of the fragment `f` is a column, computed over a single row. -/
def IsPlain (f : Fragment) : Prop :=
  ∀ item ∈ f.items, item.IsColumn ∧ item.expr.aggregates = false

/-- The names of the columns of the fragment `f`. -/
def names (f : Fragment) : List String := f.items.map fun item => item.outputName?.getD ""

/-- The cells of the fragment `f` next to the record in `env`. -/
def cells (F : Functions) (f : Fragment) (env : Env) : Row := f.items.flatMap (·.cells F [env])

variable {f : Fragment}

theorem IsPlain.names_eq (h : f.IsPlain) : f.items.map (·.outputName?) = f.names.map some := by
  rw [names, List.map_map]
  refine List.map_congr_left fun item hitem => ?_
  rcases (h item hitem).1.1 with ⟨name, hname⟩
  simp [hname]

theorem IsPlain.map_cells (h : f.IsPlain) (F : Functions) (env : Env) :
    (f.cells F env).map (·.1) = f.names := by
  rw [cells, SelectItem.flatMap_cells fun item hitem => (h item hitem).1, List.map_map]
  rfl

end Fragment

theorem isColumn_of {expr : Expr} {name : String} (h : ∀ qualifier, expr ≠ .star qualifier) :
    (SelectItem.named expr name).IsColumn :=
  ⟨⟨name, rfl⟩, h⟩

theorem aggregatesList_objectArgs (members : List (String × Expr)) :
    Expr.aggregatesList (Expr.objectArgs members) = members.any (·.2.aggregates) := by
  unfold Expr.objectArgs
  induction members with
  | nil => rfl
  | cons m members ih =>
      rw [List.flatMap_cons, List.any_cons, ← ih]
      rfl

theorem aggregates_jsonObject (members : List (String × Expr)) :
    (Expr.jsonObject members).aggregates = members.any (·.2.aggregates) := by
  rw [Expr.jsonObject, Expr.aggregates, aggregatesList_objectArgs]
  rfl

theorem aggregates_expandItem (owner : FieldId) (display : List FieldId) (label name : String) :
    (expandItem owner display label name).expr.aggregates = false := by
  rw [expandItem, SelectItem.named, aggregates_jsonObject]
  simp only [List.any_cons, List.any_nil, Bool.or_false]
  rw [aggregates_jsonObject, List.any_map, List.any_eq_false]
  intro id _
  exact Bool.false_ne_true

theorem isPlain_fileFragment (options : Options) (field : FieldId) :
    (fileFragment options field).IsPlain := by
  intro item hitem
  obtain rfl := List.mem_singleton.1 hitem
  exact ⟨isColumn_of (by simp [Expr.coalesce]), rfl⟩

theorem isPlain_resolve (l : Link) (r : Relation) : (l.resolve r).IsPlain := by
  intro item hitem
  rw [Link.items_resolve] at hitem
  simp only [AttachedFields.projections, List.mem_append, List.mem_map, List.mem_cons,
    List.not_mem_nil, or_false] at hitem
  -- the relation and what it shows, then lookups, counts, and sums with averages
  rcases hitem with (rfl | rfl) | (⟨x, -, rfl⟩ | ⟨x, -, rfl⟩) | ⟨x, -, rfl⟩
  · exact ⟨isColumn_of (by simp [Expr.of]), rfl⟩
  · exact ⟨isColumn_of (by simp [Expr.jsonObject]), aggregates_expandItem ..⟩
  · exact ⟨isColumn_of (by simp [Expr.jsonObject]), aggregates_expandItem ..⟩
  · rw [AttachedFields.countItem]
    split
    · exact ⟨isColumn_of (by simp [Expr.coalesce]), rfl⟩
    · exact ⟨isColumn_of (by simp [Expr.of]), rfl⟩
  · exact ⟨isColumn_of (by simp [Expr.of]), rfl⟩

/-! ## The joins of fragments -/

/-- The files of `field`, joined by the record. -/
def filesJoin (options : Options) (field : FieldId) : KeyJoin :=
  ⟨Naming.filesAlias field options.files.table, fileRows options.files field,
    options.files.recordColumn⟩

/-- The files of the record `id` are one row. -/
theorem uniqueAt_fileRows (F : Functions) (db : Database) (options : FileOptions)
    (field : FieldId) (id : Value) :
    ((fileRows options field).run F db).UniqueAt options.recordColumn id :=
  Frame.uniqueAt_select _ fun _ _ _ _ _ _ _ => rfl

/-- Whether no record of `t` has two direct parents in `db`, in the tables that live parent fields
read. -/
def Table.OneParent (t : Table) (c : Catalog) (db : Database) (idColumn : String) : Prop :=
  ∀ record ∈ (db t.id.text).rows, record.read idColumn ≠ .null → ∀ f ∈ t.schema.fields, ∀ h,
    f.kind = .relation (.parent h) → t.reaches c (.parent h) = true →
      Relation.OneParent (db (Naming.parentTable t.id f.id h)) (record.read idColumn)

/-- Whether the fragment `f` is the join `k`, which is to at most one row for each record of `t`. -/
structure Fragment.Follows (F : Functions) (db : Database) (options : Options) (t : Table)
    (f : Fragment) (k : KeyJoin) : Prop where
  label : k.label = f.label
  join : f.join = k.join options.baseAlias options.idColumn
  unique : ∀ record ∈ (db t.id.text).rows,
    (k.query.run F db).UniqueAt k.column (record.read options.idColumn)

namespace Scope

variable {catalog : Catalog} {options : Options} {t : Table} {layout : Layout}

/-- The link of the relation `r` that is joined as `fragment`. -/
theorem Yields.link {field : FieldId} {r : Relation} {fragment : Fragment}
    (h : (start catalog options t layout).Yields (.relation field r, .joined fragment)) :
    ∃ foreign link, (start catalog options t layout).Resolves field r foreign link ∧
      fragment = link.resolve r ∧ link.options = options ∧
        link.linkTable r = r.linkTable t.id field := by
  rcases perform_relation_joined h.perform with ⟨foreign, link, hlink, hfragment⟩
  refine ⟨foreign, link, hlink, hfragment, ?_⟩
  rcases hlink.built with ⟨foreignLayout, -, hbuilt⟩
  rcases Link.ofRelation_eq_ok.1 hbuilt with ⟨columns, -, rfl⟩
  exact ⟨rfl, rfl⟩

/-- Every `fragment` of a compilation is plain and joined to one row, if no record has two
parents. -/
theorem Yields.follows {task : Task} {fragment : Fragment}
    (h : (start catalog options t layout).Yields (task, .joined fragment)) (F : Functions)
    {db : Database} (hparent : t.OneParent catalog db options.idColumn) :
    fragment.IsPlain ∧ ∃ k, fragment.Follows F db options t k := by
  cases task with
  | files field =>
      have hperform := h.perform
      cases hperform
      -- files are grouped by record, so there is one row
      exact ⟨isPlain_fileFragment options field, filesJoin options field, rfl, rfl,
        fun _ _ => uniqueAt_fileRows F db options.files field _⟩
  | relation field r =>
      rcases h.link with ⟨foreign, link, hresolves, rfl, rfl, htable⟩
      refine ⟨isPlain_resolve link r, link.keyJoin r, ?_, link.join_resolve r, ?_⟩
      · rw [Link.label_resolve]
        rfl
      · -- only the links of a parent field need the database to keep them one row
        intro record hrecord
        refine Link.uniqueAt_query fun hnull hierarchy hr => ?_
        have hkind := h.kind?
        rw [table_start, Table.kind?] at hkind
        rcases Option.map_eq_some_iff.1 hkind with ⟨f, hf, hkind⟩
        rcases t.field?_eq_some_iff.1 hf with ⟨hmem, hid⟩
        subst hr
        obtain rfl : f.id = field := hid
        rw [htable]
        exact hparent record hrecord hnull f hmem hierarchy hkind
          (foreign?_start_eq_some.1 hresolves.leads).1

end Scope

/-! ## Running a compiled query -/

section Run

variable {F : Functions} {db : Database} {options : Options}

/-- The `record` next to the rows that the joins `ks` find for it. -/
def recordEnv (F : Functions) (db : Database) (options : Options) (ks : List KeyJoin)
    (record : Row) : Env :=
  (some options.baseAlias, record) ::
    ks.map fun k => (some k.label, k.row F db (record.read options.idColumn))

theorem sources_runJoins (F : Functions) (db : Database) (joins : List (Join Query))
    (frame : Frame) :
    ∃ rest, (Query.runJoins F db joins frame).sources = frame.sources ++ rest := by
  induction joins generalizing frame with
  | nil => exact ⟨[], (List.append_nil _).symm⟩
  | cons join joins ih =>
      rcases ih (frame.leftJoin F join.target.qualifier? (Query.runRef F db join.target)
        join.matching) with ⟨rest, hrest⟩
      exact ⟨_, hrest.trans (List.append_assoc ..)⟩

theorem aggregates_items {fragments : List Fragment} (hplain : ∀ f ∈ fragments, f.IsPlain)
    (qualifier : Option String) :
    ((⟨.star qualifier, none⟩ :: fragments.flatMap (·.items) : List SelectItem).any
      (·.expr.aggregates)) = false := by
  rw [List.any_eq_false]
  intro item hitem
  rcases List.mem_cons.1 hitem with rfl | hitem
  · exact Bool.false_ne_true
  · rcases List.mem_flatMap.1 hitem with ⟨f, hf, hitem⟩
    rw [(hplain f hf item hitem).2]
    exact Bool.false_ne_true

/-- The rows that a query selects from which reads `t` with the joins `ks`. -/
def joinedFrame (F : Functions) (db : Database) (options : Options) (t : Table)
    (ks : List KeyJoin) : Frame :=
  Query.runJoins F db (ks.map (·.join options.baseAlias options.idColumn))
    (.ofBag (some options.baseAlias) (db t.id.text))

/-- Each record has one row in `joinedFrame`, if every join finds at most one for it. -/
theorem envs_joinedFrame {t : Table} {ks : List KeyJoin}
    (hunique : ∀ k ∈ ks, ∀ record ∈ (db t.id.text).rows,
      (k.query.run F db).UniqueAt k.column (record.read options.idColumn))
    (hlabels : (options.baseAlias :: ks.map (·.label)).Nodup) :
    (joinedFrame F db options t ks).envs =
      (db t.id.text).rows.map (recordEnv F db options ks) := by
  have hrecords : (Frame.ofBag (some options.baseAlias) (db t.id.text)).envs =
      (db t.id.text).rows.map fun r => [(some options.baseAlias, r)] := rfl
  -- each join adds the row it finds to the environments that there are
  exact KeyJoin.envs_runJoins options.idColumn hunique hlabels hrecords
    (fun _ _ _ h => by simp at h)

/-- The columns that the star of the base stands for are those of the table `t`. -/
theorem columns_joinedFrame (t : Table) (ks : List KeyJoin) :
    SelectItem.columns ⟨.star (some options.baseAlias), none⟩
      (joinedFrame F db options t ks).sources = (db t.id.text).columns := by
  rcases sources_runJoins F db (ks.map (·.join options.baseAlias options.idColumn))
    (.ofBag (some options.baseAlias) (db t.id.text)) with ⟨rest, hsources⟩
  rw [joinedFrame, hsources]
  simp [SelectItem.columns, Frame.ofBag]

/-- The rows of a query `q` with plain `fragments` behind the base, which are joined to one row
each: the records in order, with the cells of every fragment. -/
theorem run_joined (t : Table) {fragments : List Fragment} {ks : List KeyJoin}
    (hplain : ∀ f ∈ fragments, f.IsPlain)
    (hunique : ∀ k ∈ ks, ∀ record ∈ (db t.id.text).rows,
      (k.query.run F db).UniqueAt k.column (record.read options.idColumn))
    (hlabels : (options.baseAlias :: ks.map (·.label)).Nodup) {q : Query}
    (hq : q = { options.baseQuery t with
      items := (options.baseQuery t).items ++ fragments.flatMap (·.items)
      joins := ks.map (·.join options.baseAlias options.idColumn) }) :
    (q.run F db).columns = (db t.id.text).columns ++ fragments.flatMap (·.names) ∧
      (q.run F db).rows = (db t.id.text).rows.map fun record =>
        record ++ fragments.flatMap (·.cells F (recordEnv F db options ks record)) := by
  have hrun : q.run F db = ((joinedFrame F db options t ks).filter F none).select F
      (⟨.star (some options.baseAlias), none⟩ :: fragments.flatMap (·.items)) [] := by
    rw [hq]
    rfl
  constructor
  · -- the star stands for the columns of the record, and each item for one of its own
    have hcolumns : (q.run F db).columns =
        SelectItem.columns ⟨.star (some options.baseAlias), none⟩
          (joinedFrame F db options t ks).sources ++
        (fragments.flatMap (·.items)).flatMap
          (·.columns (joinedFrame F db options t ks).sources) := by
      rw [hrun]
      rfl
    rw [hcolumns, columns_joinedFrame, List.flatMap_assoc]
    refine congrArg (_ ++ ·) (List.flatMap_congr fun f hf => ?_)
    rw [Fragment.names, ← List.flatMap_pure_eq_map]
    exact List.flatMap_congr fun item hitem =>
      SelectItem.columns_of_isColumn (hplain f hf item hitem).1 _
  · rw [hrun, Frame.rows_select_nil (aggregates_items hplain _), Frame.envs_filter,
      envs_joinedFrame hunique hlabels]
    simp only [Option.all_none, List.filter_true, List.map_map]
    refine List.map_congr_left fun record _ => ?_
    rw [Function.comp_apply, List.flatMap_cons, List.flatMap_assoc]
    refine congrArg₂ (· ++ ·) ?_ rfl
    -- what the star reads is the record itself
    simp [SelectItem.cells, Env.all, recordEnv, Env.row_cons]

/-- A compilation `out` of the base query, with the join `k` of each of its fragments. -/
structure Run (F : Functions) (db : Database) (catalog : Catalog) (options : Options) (t : Table)
    (out : Compiled) (entries : List Entry) (k : Fragment → KeyJoin) : Prop where
  query : out.query = { options.baseQuery t with
    items := (options.baseQuery t).items ++ (fragmentsOf entries).flatMap (·.items)
    joins := (fragmentsOf entries).map (·.join) }
  order : entries.eraseDups.map (·.1.field) = t.compileOrder
  yields : ∃ layout, catalog.layout? t.id = some layout ∧
    ∀ e ∈ entries, (Scope.start catalog options t layout).Yields e
  plain : ∀ f ∈ fragmentsOf entries, f.IsPlain
  follows : ∀ f ∈ fragmentsOf entries, f.Follows F db options t (k f)
  labels : (options.baseAlias :: ((fragmentsOf entries).map k).map (·.label)).Nodup

theorem Run.of_compile {catalog : Catalog} {t : Table} {out : Compiled}
    (h : compile catalog options t (options.baseQuery t) = .ok out)
    (hqualifiers : out.query.qualifiers.Nodup) (F : Functions)
    (hparent : t.OneParent catalog db options.idColumn) :
    ∃ entries k, Run F db catalog options t out entries k := by
  rcases compile_eq_ok.1 h with ⟨layout, es, hlayout, hes, rfl⟩
  have hyields : ∀ e ∈ es.reduceOption, (Scope.start catalog options t layout).Yields e :=
    Scope.yields_of_mapM hes
  have hquery : (compiledOf options (options.baseQuery t) es.reduceOption).query =
      { options.baseQuery t with
        items := (options.baseQuery t).items ++ (fragmentsOf es.reduceOption).flatMap (·.items)
        joins := (fragmentsOf es.reduceOption).map (·.join) } :=
    Assembly.finish_eq _ _
  have hfollows : ∀ f ∈ fragmentsOf es.reduceOption,
      f.IsPlain ∧ ∃ k, f.Follows F db options t k := by
    intro f hf
    rcases Scope.fragment_of_mem_fragmentsOf hf with ⟨⟨task, o⟩, he, rfl⟩
    exact (hyields _ he).follows F hparent
  -- every fragment is a join by key, which is picked once and for all
  choose! k hk using fun f hf => (hfollows f hf).2
  refine ⟨es.reduceOption, k, hquery, Scope.fields_of_entries hes, ⟨layout, hlayout, hyields⟩,
    fun f hf => (hfollows f hf).1, hk, ?_⟩
  -- the sources of the query are the record and one for each fragment, named by its label
  have hlist : (compiledOf options (options.baseQuery t) es.reduceOption).query.qualifiers =
      (options.baseAlias :: ((fragmentsOf es.reduceOption).map k).map (·.label)).map some := by
    rw [hquery, List.map_cons, List.map_map, List.map_map]
    refine congrArg (some options.baseAlias :: ·) ?_
    rw [List.map_map]
    refine List.map_congr_left fun f hf => ?_
    rw [Function.comp_apply, (hk f hf).join]
    rfl
  rw [hlist] at hqualifiers
  exact hqualifiers.of_map some

/-- The columns and rows of the query `out`, fragment by fragment. -/
theorem Run.rows {catalog : Catalog} {t : Table} {out : Compiled} {entries : List Entry}
    {k : Fragment → KeyJoin} (h : Run F db catalog options t out entries k) :
    (out.query.run F db).columns =
        (db t.id.text).columns ++ (fragmentsOf entries).flatMap (·.names) ∧
      (out.query.run F db).rows = (db t.id.text).rows.map fun record =>
        record ++ (fragmentsOf entries).flatMap
          (·.cells F (recordEnv F db options ((fragmentsOf entries).map k) record)) := by
  refine run_joined t h.plain ?_ h.labels ?_
  · intro k' hk'
    rcases List.mem_map.1 hk' with ⟨f, hf, rfl⟩
    exact (h.follows f hf).unique
  · rw [h.query, List.map_map]
    have hjoins : (fragmentsOf entries).map (·.join) =
        (fragmentsOf entries).map ((·.join options.baseAlias options.idColumn) ∘ k) :=
      List.map_congr_left fun f hf => (h.follows f hf).join
    rw [hjoins]

end Run

/-- A compiled query `out` keeps the records of its table: each yields one row, which is the record
itself with `extra` cells behind it. -/
theorem compile_rows {catalog : Catalog} {options : Options} {t : Table} {out : Compiled}
    (h : compile catalog options t (options.baseQuery t) = .ok out)
    (hqualifiers : out.query.QualifiersDistinct) (F : Functions) {db : Database}
    (hparent : t.OneParent catalog db options.idColumn) :
    ∃ names : List String, out.query.outputNames.tail = names.map some ∧
      (out.query.run F db).columns = (db t.id.text).columns ++ names ∧
      ∃ extra : Row → Row, (∀ record, (extra record).map (·.1) = names) ∧
        (out.query.run F db).rows =
          (db t.id.text).rows.map fun record => record ++ extra record := by
  rcases Run.of_compile h (hqualifiers _ List.mem_cons_self) F hparent with ⟨entries, k, hrun⟩
  refine ⟨(fragmentsOf entries).flatMap (·.names), ?_, hrun.rows.1, _, ?_, hrun.rows.2⟩
  · rw [Query.outputNames, hrun.query, List.map_flatMap]
    refine (List.map_flatMap ..).trans (List.flatMap_congr fun f hf => ?_)
    exact (hrun.plain f hf).names_eq
  · intro record
    rw [List.map_flatMap]
    exact List.flatMap_congr fun f hf => (hrun.plain f hf).map_cells F _

/-! ## The blog in a database -/

namespace Blog

/-- The value as JSON. Arrays and objects are text already. -/
def render : Value → String
  | .null => "null"
  | .number q => if q.den = 1 then toString q.num else toString q.num ++ "/" ++ toString q.den
  | .text s => if s.startsWith "[" || s.startsWith "\x7b" then s else "\"" ++ s ++ "\""

/-- The members of an object, from keys and values in turn. -/
def members : List Value → List String
  | key :: v :: rest => (render key ++ ":" ++ render v) :: members rest
  | _ => []

/-- The number that a value stands for in sums and means. -/
def number : Value → ℚ
  | .number q => q
  | .null | .text _ => 0

/-- An engine in which `JSON_GROUP_ARRAY` puts the values in order. -/
def functions : Functions where
  groupArray bag := .text ("[" ++ ",".intercalate ((bag.map render).sort (· ≤ ·)) ++ "]")
  sum bag := if bag = 0 then .null else .number (bag.map number).sum
  average bag := if bag = 0 then .null else .number ((bag.map number).sum / bag.card)
  scalar
    | "JSON_ARRAY", args => .text ("[" ++ ",".intercalate (args.map render) ++ "]")
    | "JSON_OBJECT", args => .text ("\x7b" ++ ",".intercalate (members args) ++ "\x7d")
    | "JSON", [v] => v
    | _, _ => .null

/-- Two posts, `p2` under `p1`, and three tags of `p1`, one of which is gone. -/
def db : Database
  | "posts" => ⟨["id"], [[("id", .text "p1")], [("id", .text "p2")]]⟩
  | "tags" => ⟨["id", "label", "weight"], [
      [("id", .text "a"), ("label", .text "art"), ("weight", .number 2)],
      [("id", .text "b"), ("label", .text "books"), ("weight", .number 3)]]⟩
  | "posts_tagged_adjacency_list" => ⟨["from_id", "to_id"], [
      [("from_id", .text "p1"), ("to_id", .text "a")],
      [("from_id", .text "p1"), ("to_id", .text "b")],
      [("from_id", .text "p1"), ("to_id", .text "gone")]]⟩
  | "posts_thread_closure_table" => ⟨["parent_id", "child_id", "depth"], [
      [("parent_id", .text "p1"), ("child_id", .text "p1"), ("depth", .number 0)],
      [("parent_id", .text "p2"), ("child_id", .text "p2"), ("depth", .number 0)],
      [("parent_id", .text "p1"), ("child_id", .text "p2"), ("depth", .number 1)]]⟩
  | _ => ⟨[], []⟩

/-- No `child` has two parents, in whatever table of `db`. -/
theorem oneParent_db (table : String) (child : Value) : Relation.OneParent (db table) child := by
  have hsame : ∀ row ∈ (db table).rows, ∀ row' ∈ (db table).rows,
      row.read Naming.depthColumn = .number 1 → row'.read Naming.depthColumn = .number 1 →
      row.read Naming.parentColumn = row'.read Naming.parentColumn := by
    unfold db
    split <;> decide
  intro row hrow row' hrow' hdepth hdepth' _ _
  exact hsame row hrow row' hrow' hdepth hdepth'

theorem oneParent_posts : posts.OneParent registry.catalog db "id" :=
  fun _ _ _ _ _ _ _ _ => oneParent_db _ _

end Blog

/-- Both posts are kept, each with the cells of its tags, files and thread behind its id. -/
theorem compile_rows_posts : ∃ out,
    compile Blog.registry.catalog {} Blog.posts (Options.baseQuery {} Blog.posts) = .ok out ∧
      out.query.QualifiersDistinct ∧ Blog.posts.OneParent Blog.registry.catalog Blog.db "id" ∧
      ∃ names : List String, out.query.outputNames.tail = names.map some ∧
        (out.query.run Blog.functions Blog.db).columns = "id" :: names ∧
        ∃ extra : Row → Row, (∀ record, (extra record).map (·.1) = names) ∧
          (out.query.run Blog.functions Blog.db).rows =
            [("id", .text "p1") :: extra [("id", .text "p1")],
              ("id", .text "p2") :: extra [("id", .text "p2")]] := by
  have hdistinct : (compile Blog.registry.catalog {} Blog.posts
      (Options.baseQuery {} Blog.posts)).map (fun out => decide out.query.QualifiersDistinct) =
        .ok true := by decide +kernel
  rcases map_eq_ok.1 hdistinct with ⟨out, h, hout⟩
  have hqualifiers : out.query.QualifiersDistinct := of_decide_eq_true hout
  exact ⟨out, h, hqualifiers, Blog.oneParent_posts,
    compile_rows h hqualifiers Blog.functions Blog.oneParent_posts⟩

end LinkedRecords
