import LinkedRecords.Proofs.Compile.Scoping
import LinkedRecords.Proofs.Sql.Rendering

/-! # JSON from derived tables

A JSON array is text once it is a column of a derived table. It would be packed into another array
or object as a string, so it is read again first. Whether a column is an array is decided by the
query that selects it, from the columns of the field or because values are gathered; whether it is
read again is decided by the query above. Here the two are compared.

* `Sql.Expr.Rereads` — an expression reads again just the arrays that it packs.
* `Sql.Query.HasJson`, `Sql.Query.ReadsJson` — the columns of a query that are arrays, and where a
  query reads them.
* `Link.hasJson_records_iff` — the foreign records have an array for a field with several columns.
* `Table.Adds.rereadsJson`, `Table.Adds.rereads` — the queries that a fragment joins, and what it
  adds to the query itself.
* `compile_rereadsJson` — every query of a compilation.
-/

namespace LinkedRecords

open Sql

namespace Sql

/-! ## JSON in expressions -/

namespace Expr

/-- Whether an expression is a call that makes an array. -/
def isJsonArray : Expr → Bool
  | .call function _ => function = "JSON_GROUP_ARRAY" || function = "JSON_ARRAY"
  | .column .. | .literal _ | .binary .. | .star _ => false

/-- Whether `function` packs its arguments into an array or an object. -/
def packs (function : String) : Bool :=
  function ∈ ["JSON_OBJECT", "JSON_ARRAY", "JSON_GROUP_ARRAY"]

variable (IsJson : Expr → Prop)

mutual

/-- Whether what an expression reads again is one column that `IsJson`, and what it packs as it is
reads no such column, at any depth. It is told whether it is `packed` itself. -/
def Rereads (packed : Bool) : Expr → Prop
  | .column qualifier name => packed = true → ¬IsJson (.column qualifier name)
  | .literal _ => True
  | .binary left _ right => left.Rereads packed ∧ right.Rereads packed
  | .call function args =>
    if function = "JSON" then
      ∃ qualifier name, args = [.column qualifier name] ∧ IsJson (.column qualifier name)
    else RereadsList (packed || packs function) args
  | .star qualifier => packed = true → ¬IsJson (.star qualifier)

/-- Whether each of several expressions is as `Rereads` tells, if all are `packed` or none is. -/
def RereadsList (packed : Bool) : List Expr → Prop
  | [] => True
  | e :: es => e.Rereads packed ∧ RereadsList packed es

end

variable {IsJson} {packed : Bool}

theorem rereadsList_iff {es : List Expr} :
    RereadsList IsJson packed es ↔ ∀ e ∈ es, e.Rereads IsJson packed := by
  induction es with
  | nil => simp [RereadsList]
  | cons e es ih => rw [RereadsList, ih, List.forall_mem_cons]

/-- A column that is not packed may be anything, whether it `IsJson` or not. -/
theorem rereads_column {qualifier : Option String} {name : String} :
    (column qualifier name).Rereads IsJson false := by
  intro hpacked
  cases hpacked

theorem rereads_star {qualifier : Option String} : (star qualifier).Rereads IsJson false := by
  intro hpacked
  cases hpacked

/-- A column `name` that is not JSON may be packed as it is. -/
theorem rereads_of_not {qualifier : Option String} {name : String}
    (h : ¬IsJson (.column qualifier name)) : (column qualifier name).Rereads IsJson packed := by
  intro _
  exact h

theorem rereads_json {qualifier : Option String} {name : String}
    (h : IsJson (.column qualifier name)) :
    (column qualifier name).json.Rereads IsJson packed := by
  rw [json, Rereads, if_pos rfl]
  exact ⟨qualifier, name, rfl, h⟩

theorem rereads_call {function : String} {args : List Expr} (hfunction : function ≠ "JSON")
    (hargs : ∀ e ∈ args, e.Rereads IsJson (packed || packs function)) :
    (call function args).Rereads IsJson packed := by
  rw [Rereads, if_neg hfunction, rereadsList_iff]
  exact hargs

/-- A call of `function` with the one argument `e`. -/
theorem rereads_call_one {function : String} {e : Expr} (hfunction : function ≠ "JSON")
    (he : e.Rereads IsJson (packed || packs function)) :
    (call function [e]).Rereads IsJson packed := by
  apply rereads_call hfunction
  intro e' he'
  rw [List.mem_singleton.1 he']
  exact he

theorem rereads_jsonObject {members : List (String × Expr)}
    (h : ∀ m ∈ members, m.2.Rereads IsJson true) : (jsonObject members).Rereads IsJson packed := by
  apply rereads_call (by decide)
  intro e he
  rcases List.mem_flatMap.1 he with ⟨m, hm, he⟩
  rcases List.mem_pair.1 he with rfl | rfl
  · trivial
  · have hpacked : (packed || packs "JSON_OBJECT") = true := Bool.or_true packed
    rw [hpacked]
    exact h m hm

end Expr

/-! ## JSON in queries -/

namespace Query

/-- Whether the query `q` has a column `name` that is an array. -/
def HasJson (q : Query) (name : String) : Prop :=
  ∃ item ∈ q.items, item.outputName? = some name ∧ item.expr.isJsonArray = true

/-- Whether a column, or one of those that a star stands for, is read by `q` from a derived table in
which it is an array. Without a qualifier it may be read from any. -/
def ReadsJson (q : Query) : Expr → Prop
  | .column qualifier name =>
    ∃ p label, ⟨.derived p, label⟩ ∈ q.sources ∧ (∀ x ∈ qualifier, label = some x) ∧ p.HasJson name
  | .star qualifier =>
    ∃ p label, ⟨.derived p, label⟩ ∈ q.sources ∧ (∀ x ∈ qualifier, label = some x) ∧
      ∃ name, p.HasJson name
  | .literal _ | .binary .. | .call .. => False

/-- Whether every expression of `q` reads arrays of derived tables again before it packs them, and
reads nothing else again. -/
def RereadsJson (q : Query) : Prop := ∀ e ∈ q.exprs, e.Rereads q.ReadsJson false

variable {q : Query}

/-- A query `q` that has no derived table among its sources reads no array. -/
theorem not_readsJson (h : ∀ p label, ⟨.derived p, label⟩ ∉ q.sources) (e : Expr) :
    ¬q.ReadsJson e := by
  intro hreads
  cases e with
  | column qualifier name =>
      rcases hreads with ⟨p, label, hmem, -⟩
      exact h p label hmem
  | star qualifier =>
      rcases hreads with ⟨p, label, hmem, -⟩
      exact h p label hmem
  | literal | binary | call => exact hreads

end Query

end Sql

open Sql.Expr

/-! ## What the items pack -/

section Items

variable {IsJson : Expr → Prop}

namespace DisplayColumn

variable (c : DisplayColumn)

/-- The field of `c` is an array in the foreign records if it has several columns. -/
theorem isJsonArray_projection : c.projection.expr.isJsonArray = decide (c.columns.length > 1) := by
  rcases c with ⟨field, columns⟩
  rcases columns with _ | ⟨column, _ | ⟨column', columns⟩⟩
  · rfl
  · simp only [projection]
    split
    · rfl
    · rfl
  · simp [projection, SelectItem.named, Expr.jsonArray, isJsonArray]

theorem rereads_projection (h : ∀ e, ¬IsJson e) : c.projection.expr.Rereads IsJson false := by
  rcases c with ⟨field, columns⟩
  rcases columns with _ | ⟨column, _ | ⟨column', columns⟩⟩
  · trivial
  · simp only [projection]
    split
    · exact rereads_column
    · exact rereads_column
  · apply rereads_call (by decide)
    intro e he
    rcases List.mem_map.1 he with ⟨x, -, rfl⟩
    exact rereads_of_not (h _)

/-- The values of the field of `c` are read again just if they are arrays. -/
theorem rereads_gathered {foreignAlias : String}
    (h : IsJson (.of foreignAlias c.field.text) ↔ c.columns.length > 1) :
    (c.gathered foreignAlias).expr.Rereads IsJson false := by
  simp only [gathered, SelectItem.named]
  apply rereads_call_one (by decide)
  split
  case isTrue hlength => exact rereads_json (h.2 hlength)
  case isFalse hlength => exact rereads_of_not (mt h.1 hlength)

end DisplayColumn

/-- All of the fields in `display` are read again, if each is an array in the links. -/
theorem rereads_expandItem {display : List FieldId} {linksAlias : String}
    (h : ∀ id ∈ display, IsJson (.of linksAlias id.text)) (owner : FieldId) (name : String) :
    (expandItem owner display linksAlias name).expr.Rereads IsJson false := by
  apply rereads_jsonObject
  intro m hm
  rw [List.mem_singleton.1 hm]
  apply rereads_jsonObject
  intro shown hshown
  rcases List.mem_map.1 hshown with ⟨id, hid, rfl⟩
  exact rereads_json (h id hid)

namespace AttachedFields

variable {a : AttachedFields} {item : SelectItem}

theorem rereads_projections {options : Options} {linksAlias : String}
    (h : ∀ id ∈ a.sources, IsJson (.of linksAlias id.text))
    (hitem : item ∈ a.projections options linksAlias) : item.expr.Rereads IsJson false := by
  rw [projections, List.mem_append, List.mem_append] at hitem
  -- lookups show fields of the links; counts, sums and averages are numbers
  rcases hitem with (hitem | hitem) | hitem
  · rcases List.mem_map.1 hitem with ⟨⟨field, display⟩, hlookup, rfl⟩
    apply rereads_expandItem
    intro id hid
    have hshown : id ∈ a.lookups.flatMap (·.2) := List.mem_flatMap.2 ⟨_, hlookup, hid⟩
    exact h id (List.mem_append_left _ (List.mem_append_left _ hshown))
  · rcases List.mem_map.1 hitem with ⟨field, -, rfl⟩
    simp only [countItem, SelectItem.named]
    split
    case isTrue =>
      apply rereads_call (by decide)
      intro e he
      rcases List.mem_pair.1 he with rfl | rfl
      · exact rereads_column
      · trivial
    case isFalse => exact rereads_column
  · rcases List.mem_map.1 hitem with ⟨field, -, rfl⟩
    exact rereads_column

/-- Counts, sums and averages are computed without packing anything. -/
theorem rereads_aggregates {foreignAlias : String} (hitem : item ∈ a.aggregates foreignAlias) :
    item.expr.Rereads IsJson false := by
  simp only [aggregates, List.mem_append, List.mem_map] at hitem
  rcases hitem with (⟨field, -, rfl⟩ | ⟨sum, -, rfl⟩) | ⟨average, -, rfl⟩
  · exact rereads_call_one (by decide) rereads_star
  · exact rereads_call_one (by decide) rereads_column
  · exact rereads_call_one (by decide) rereads_column

end AttachedFields

end Items

/-! ## The queries of a relation -/

namespace Link

variable {l : Link} {r : Relation}

theorem rereadsJson_records (l : Link) : l.records.RereadsJson := by
  have hnone : ∀ e, ¬l.records.ReadsJson e := by
    -- the records are read from a stored table
    apply Query.not_readsJson
    intro p label hmem
    rw [Query.sources, l.joins_records, records, foreignRecords_eq] at hmem
    cases List.mem_singleton.1 hmem
  refine l.forall_exprs_records ?column ?projection
  case column => exact fun _ => rereads_column
  case projection => exact fun c _ => c.rereads_projection hnone

/-- The foreign records have an array for the field of `c` just if it has several columns. -/
theorem hasJson_records_iff (hnodup : (l.columns.map (·.field)).Nodup) {c : DisplayColumn}
    (hc : c ∈ l.columns) : l.records.HasJson c.field.text ↔ c.columns.length > 1 := by
  constructor
  · rintro ⟨item, hitem, hname, hjson⟩
    rcases l.cases_of_mem_items_records hitem with rfl | ⟨c', hc', rfl⟩
    · cases hjson
    · -- the fields are read once each, so the column of that name is the one of the field
      rw [c'.outputName?_projection, Option.some.injEq] at hname
      have hfield : c'.field = c.field := congrArg FieldId.mk hname
      obtain rfl : c' = c := List.inj_on_of_nodup_map hnodup hc' hc hfield
      rw [c'.isJsonArray_projection] at hjson
      exact of_decide_eq_true hjson
  · intro hlength
    refine ⟨c.projection, ?_, c.outputName?_projection, ?_⟩
    · rw [records, foreignRecords_eq]
      exact List.mem_cons_of_mem _ (List.mem_map_of_mem hc)
    · rw [c.isJsonArray_projection]
      exact decide_eq_true hlength

/-- The links read arrays from the foreign records of `l` alone. -/
theorem readsJson_query_iff {qualifier name : String} :
    (l.query r).ReadsJson (.of qualifier name) ↔
      qualifier = l.foreignAlias ∧ l.records.HasJson name := by
  constructor
  · rintro ⟨p, label, hmem, hqualifier, hjson⟩
    rcases List.mem_pair.1 hmem with hmem | hmem
    · cases hmem
    · cases hmem
      exact ⟨(Option.some.inj (hqualifier qualifier rfl)).symm, hjson⟩
  · rintro ⟨rfl, hjson⟩
    refine ⟨l.records, some l.foreignAlias, List.mem_pair.2 (.inr rfl), ?_, hjson⟩
    intro x hx
    exact hx

theorem rereads_linked (hqualifiers : l.linkTable r ≠ l.foreignAlias) :
    (r.linked (l.linkTable r)).Rereads (l.query r).ReadsJson false := by
  -- where the links are kept has a name of its own, so it is not taken for the foreign records
  have hnone : ∀ name, ¬(l.query r).ReadsJson (.of (l.linkTable r) name) := by
    intro name hreads
    exact hqualifiers (readsJson_query_iff.1 hreads).1
  cases r with
  | reference | tree => exact rereads_call_one (by decide) (rereads_of_not (hnone _))
  | parent => exact rereads_column

theorem rereadsJson_query (hnodup : (l.columns.map (·.field)).Nodup)
    (hqualifiers : l.linkTable r ≠ l.foreignAlias) : (l.query r).RereadsJson := by
  refine l.forall_exprs_query r ?current ?foreign ?linked ?gathered ?aggregate ?follows ?depth
  case current => exact rereads_column
  case foreign => exact rereads_column
  case linked => exact rereads_linked hqualifiers
  case gathered =>
    -- the one column that may be an array is the one that the foreign records have for the field
    intro c hc
    apply c.rereads_gathered
    rw [readsJson_query_iff, hasJson_records_iff hnodup hc]
    exact and_iff_right rfl
  case aggregate => exact fun item hitem => AttachedFields.rereads_aggregates hitem
  case follows => exact ⟨rereads_column, rereads_column⟩
  case depth => exact fun _ _ => ⟨rereads_column, trivial⟩

/-- The links of `l` have an array for every field `id` that is shown or computed with. -/
theorem hasJson_query (hcovers : l.Covers) {id : FieldId}
    (hid : id ∈ l.display ++ l.attached.sources) : (l.query r).HasJson id.text := by
  rcases List.mem_map.1 (hcovers id hid) with ⟨c, hc, rfl⟩
  have hgathered : c.gathered l.foreignAlias ∈ l.linkItems r :=
    List.mem_cons_of_mem _ (List.mem_append_left _ (List.mem_map_of_mem hc))
  exact ⟨c.gathered l.foreignAlias, List.mem_cons_of_mem _ hgathered, rfl, rfl⟩

/-- A query `q` that the links of `l` are joined to reads arrays from them. -/
theorem rereads_items (hcovers : l.Covers) {q : Query}
    (hjoined : (l.resolve r).join.target ∈ q.sources) {item : SelectItem}
    (hitem : item ∈ (l.resolve r).items) : item.expr.Rereads q.ReadsJson false := by
  have hreads : ∀ id ∈ l.display ++ l.attached.sources,
      q.ReadsJson (.of l.linksAlias id.text) := by
    -- the links are a source of `q` under their alias, and have an array for `id`
    intro id hid
    rw [l.join_resolve] at hjoined
    refine ⟨l.query r, some l.linksAlias, hjoined, ?_, hasJson_query hcovers hid⟩
    intro x hx
    exact hx
  rw [items_resolve, List.mem_append, List.mem_pair] at hitem
  rcases hitem with (rfl | rfl) | hitem
  · exact rereads_column
  · apply rereads_expandItem
    intro id hid
    exact hreads id (List.mem_append_left _ hid)
  · refine AttachedFields.rereads_projections ?_ hitem
    intro id hid
    exact hreads id (List.mem_append_right _ hid)

end Link

/-! ## The queries of a file field -/

theorem rereadsJson_fileRows (options : FileOptions) (field : FieldId) :
    (fileRows options field).RereadsJson := by
  have hnone : ∀ e, ¬(fileRows options field).ReadsJson e := by
    apply Query.not_readsJson
    intro p label hmem
    cases List.mem_singleton.1 hmem
  refine forall_exprs_fileRows ?record ?files ?own
  case record => exact rereads_column
  case files =>
    apply rereads_call_one (by decide)
    apply rereads_jsonObject
    intro m hm
    rcases List.mem_map.1 hm with ⟨column, -, rfl⟩
    exact rereads_of_not (hnone _)
  case own => exact ⟨rereads_column, trivial⟩

/-- A record shows the files of `field` as they were gathered. -/
theorem rereads_fileFragment {options : Options} {field : FieldId} {item : SelectItem}
    (hitem : item ∈ (fileFragment options field).items) {IsJson : Expr → Prop} :
    item.expr.Rereads IsJson false := by
  rw [List.mem_singleton.1 hitem]
  apply rereads_call (by decide)
  intro e he
  rcases List.mem_pair.1 he with rfl | rfl
  · exact rereads_column
  · apply rereads_call (by decide)
    intro e he
    cases he

/-! ## Compiled queries -/

section Compile

variable {catalog : Catalog} {options : Options} {t : Table} {out : Compiled}

namespace Table.Adds

variable {fragment : Fragment}

theorem rereadsJson (h : t.Adds catalog options fragment)
    (hqualifiers : ∀ q ∈ fragment.queries, q.qualifiers.Nodup) :
    ∀ q ∈ fragment.queries, q.RereadsJson := by
  intro q hq
  cases h with
  | files hkind =>
      rw [Fragment.queries_fileFragment, List.mem_singleton] at hq
      subst hq
      exact rereadsJson_fileRows _ _
  | @link field r foreign layout l hkind hlink =>
      rw [Fragment.queries_resolve] at hq hqualifiers
      rcases List.mem_pair.1 hq with rfl | rfl
      · have hnodup : (l.columns.map (·.field)).Nodup := by
          rw [hlink.columns_eq]
          exact nodup_eraseDups _
        have hpair : [some (l.linkTable r), some l.foreignAlias].Nodup :=
          hqualifiers (l.query r) List.mem_cons_self
        apply Link.rereadsJson_query hnodup
        intro heq
        -- the two sources of the links do not share a qualifier
        exact List.ne_of_not_mem_cons (List.nodup_cons.1 hpair).1 (congrArg some heq)
      · exact l.rereadsJson_records

/-- In the query `q` that a fragment is added to, what it adds reads arrays of derived tables again
before it packs them, and reads nothing else again. -/
theorem rereads (h : t.Adds catalog options fragment) {q : Query}
    (hjoined : fragment.join.target ∈ q.sources) :
    (∀ item ∈ fragment.items, item.expr.Rereads q.ReadsJson false) ∧
      fragment.join.matching.Rereads q.ReadsJson false := by
  cases h with
  | files hkind =>
      constructor
      · intro item hitem
        exact rereads_fileFragment hitem
      · exact ⟨rereads_column, rereads_column⟩
  | @link field r foreign layout l hkind hlink =>
      constructor
      · intro item hitem
        exact Link.rereads_items hlink.covers hjoined hitem
      · rw [l.join_resolve]
        exact ⟨rereads_column, rereads_column⟩

end Table.Adds

/-- In a compiled query `out` and in every query that it reads from, arrays of derived tables are
read again before they are packed, and nothing else is, if no two sources share a qualifier. -/
theorem compile_rereadsJson (h : compile catalog options t (options.baseQuery t) = .ok out)
    (hqualifiers : out.query.QualifiersDistinct) :
    ∀ q ∈ out.query :: out.query.subqueries, q.RereadsJson := by
  rcases exists_madeOf h with ⟨fragments, hmade⟩
  intro q hq
  rcases List.mem_cons.1 hq with rfl | hq
  · -- every fragment was joined, so its target is a source of the output
    have hjoined : ∀ fragment ∈ fragments, fragment.join.target ∈ out.query.sources := by
      intro fragment hfragment
      rw [Query.sources, hmade.joins_eq, List.map_map]
      exact List.mem_append_right _ (List.mem_map_of_mem hfragment)
    intro e he
    rw [Query.mem_exprs, hmade.items_eq, hmade.joins_eq] at he
    rcases he with ⟨item, hitem, rfl⟩ | ⟨join, hjoin, rfl⟩ | he | he
    · rcases List.mem_cons.1 hitem with rfl | hitem
      · exact rereads_star
      · rcases List.mem_flatMap.1 hitem with ⟨fragment, hfragment, hitem⟩
        exact ((hmade.adds fragment hfragment).rereads (hjoined fragment hfragment)).1 item hitem
    · rcases List.mem_map.1 hjoin with ⟨fragment, hfragment, rfl⟩
      exact ((hmade.adds fragment hfragment).rereads (hjoined fragment hfragment)).2
    -- a base without conditions and groups is given none
    · rw [hmade.query] at he
      cases he
    · rw [hmade.query] at he
      cases he
  · rw [hmade.subqueries_eq] at hq
    rcases List.mem_flatMap.1 hq with ⟨fragment, hfragment, hq⟩
    -- a query below the output belongs to one of the fragments
    refine (hmade.adds fragment hfragment).rereadsJson ?_ q hq
    intro p hp
    apply hqualifiers p
    rw [hmade.subqueries_eq]
    exact List.mem_cons_of_mem _ (List.mem_flatMap.2 ⟨fragment, hfragment, hp⟩)

end Compile

namespace Blog

/-- Events, of which the `days` are kept in two columns. -/
def events : Table where
  id := ⟨"events"⟩
  name := "Events"
  schema := schema [
    ⟨⟨"title"⟩, "Title", true, .scalar .string⟩,
    ⟨⟨"days"⟩, "Days", true, .scalar .dateRange⟩]
  deleted := false

/-- Calendars, with the events that are their `entries`. -/
def calendars : Table where
  id := ⟨"calendars"⟩
  name := "Calendars"
  schema := schema [⟨⟨"entries"⟩, "Entries", false, .relation (.reference (.owner ⟨"events"⟩))⟩]
  deleted := false

def agenda : Registry := (Registry.empty.insert events).insert calendars

end Blog

/-- The `days` of an event are one array, which the links of the calendar read again; the `title` is
gathered as it is. -/
theorem compile_rereadsJson_calendars :
    ∃ out, compile Blog.agenda.catalog {} Blog.calendars (Options.baseQuery {} Blog.calendars) =
        .ok out ∧
      out.query.QualifiersDistinct ∧
      (out.query.subqueries.map fun q => q.items.map (·.expr)) = [
        [.of "calendars_entries_adjacency_list" "from_id",
          (Expr.of "calendars_entries_adjacency_list" "to_id").jsonGroupArray,
          (Expr.of (Naming.foreignAlias ⟨"entries"⟩) "title").jsonGroupArray,
          (Expr.of (Naming.foreignAlias ⟨"entries"⟩) "days").json.jsonGroupArray],
        [.col "id", .col "title", .jsonArray [.col "days_from", .col "days_to"]]] ∧
      ∀ q ∈ out.query :: out.query.subqueries, q.RereadsJson := by
  have hitems : (compile Blog.agenda.catalog {} Blog.calendars
      (Options.baseQuery {} Blog.calendars)).map (fun out => decide (out.query.QualifiersDistinct ∧
        (out.query.subqueries.map fun q => q.items.map (·.expr)) = [
          [.of "calendars_entries_adjacency_list" "from_id",
            (Expr.of "calendars_entries_adjacency_list" "to_id").jsonGroupArray,
            (Expr.of (Naming.foreignAlias ⟨"entries"⟩) "title").jsonGroupArray,
            (Expr.of (Naming.foreignAlias ⟨"entries"⟩) "days").json.jsonGroupArray],
          [.col "id", .col "title", .jsonArray [.col "days_from", .col "days_to"]]])) =
        .ok true := by decide +kernel
  rcases map_eq_ok.1 hitems with ⟨out, h, hout⟩
  obtain ⟨hqualifiers, hexprs⟩ := of_decide_eq_true hout
  exact ⟨out, h, hqualifiers, hexprs, compile_rereadsJson h hqualifiers⟩

end LinkedRecords
