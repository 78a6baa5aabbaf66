import LinkedRecords.Proofs.Compile.RecordColumns
import LinkedRecords.Proofs.Compile.Scoping

/-! # The keys of objects

The values that a field shows are packed into an object, under the ids of the fields that they come
from. The links hold each of these fields once, however often it is named; the object is made of the
names as they stand. So a key comes twice in an object just if a field is named twice, and fields
that are shown because the foreign table marks them do not come twice.

* `Sql.Expr.objects`, `Sql.Query.ObjectsDistinct` — the objects that are made, and their keys.
* `objectsDistinct_expandItem_iff` — the object of one field.
* `Link.objectsDistinct_resolve_iff` — all objects that a relation adds.
* `Table.Shows` — which field shows what, over which relation.
* `compile_objectsDistinct_iff` — all objects of a compiled query, and where they are found.
* `compile_objects_repeated_readers` — a valid table that has an object with one key twice.
-/

namespace LinkedRecords

open Sql

namespace Sql

/-! ## Objects in expressions -/

namespace Expr

mutual

/-- The arguments of the objects that are made in an expression, at any depth. -/
def objects : Expr → List (List Expr)
  | .column .. | .literal _ | .star _ => []
  | .binary left _ right => left.objects ++ right.objects
  | .call function args =>
    if function = "JSON_OBJECT" then args :: objectsList args else objectsList args

/-- The objects that are made in several expressions, one after the other. -/
def objectsList : List Expr → List (List Expr)
  | [] => []
  | e :: es => e.objects ++ objectsList es

end

theorem objectsList_eq_flatMap (es : List Expr) : objectsList es = es.flatMap (·.objects) := by
  induction es with
  | nil => rfl
  | cons e es ih => rw [objectsList, ih, List.flatMap_cons]

/-- A call of a `function` that makes no object itself makes the objects of its arguments. -/
theorem objects_call {function : String} (h : function ≠ "JSON_OBJECT") (args : List Expr) :
    (call function args).objects = args.flatMap (·.objects) := by
  rw [objects, if_neg h, objectsList_eq_flatMap]

@[simp] theorem objects_of (qualifier name : String) : (of qualifier name).objects = [] := rfl

@[simp] theorem objects_col (name : String) : (col name).objects = [] := rfl

@[simp] theorem objects_literal (value : Literal) : (literal value).objects = [] := rfl

@[simp] theorem objects_equals (left right : Expr) :
    (left.equals right).objects = left.objects ++ right.objects := rfl

@[simp] theorem objects_countRows : countRows.objects = [] := rfl

@[simp] theorem objects_sum (e : Expr) : e.sum.objects = e.objects := by
  simp [sum, objects_call]

@[simp] theorem objects_average (e : Expr) : e.average.objects = e.objects := by
  simp [average, objects_call]

@[simp] theorem objects_coalesce (args : List Expr) :
    (coalesce args).objects = args.flatMap (·.objects) := objects_call (by decide) args

@[simp] theorem objects_jsonGroupArray (e : Expr) : e.jsonGroupArray.objects = e.objects := by
  simp [jsonGroupArray, objects_call]

@[simp] theorem objects_jsonArray (args : List Expr) :
    (jsonArray args).objects = args.flatMap (·.objects) := objects_call (by decide) args

@[simp] theorem objects_json (e : Expr) : e.json.objects = e.objects := by
  simp [json, objects_call]

/-- An object is made first, and then those in its `members`. -/
@[simp] theorem objects_jsonObject (members : List (String × Expr)) :
    (jsonObject members).objects = objectArgs members :: members.flatMap (·.2.objects) := by
  have hmember : ∀ m : String × Expr, [text m.1, m.2].flatMap (·.objects) = m.2.objects := by
    intro m
    simp [text]
  rw [jsonObject, objects, if_pos rfl, objectsList_eq_flatMap, objectArgs, List.flatMap_assoc]
  simp only [hmember]

theorem objectArgs_injective : Function.Injective objectArgs := by
  intro members
  induction members with
  | nil =>
      rintro (_ | ⟨m, members⟩) h
      · rfl
      · cases h
  | cons m members ih =>
      rintro (_ | ⟨m', members'⟩) h
      · cases h
      · have hargs : text m.1 :: m.2 :: objectArgs members =
            text m'.1 :: m'.2 :: objectArgs members' := h
        -- the arguments come in pairs, a key and its value
        simp only [List.cons.injEq, text, literal.injEq, Literal.text.injEq] at hargs
        rw [ih hargs.2.2, Prod.ext hargs.1 hargs.2.1]

/-- Whether `args` are keys and values in turn, where each key is a string and no two keys are the
same. -/
def KeysDistinct (args : List Expr) : Prop :=
  ∃ members : List (String × Expr), args = objectArgs members ∧ (members.map (·.1)).Nodup

theorem keysDistinct_objectArgs_iff {members : List (String × Expr)} :
    KeysDistinct (objectArgs members) ↔ (members.map (·.1)).Nodup := by
  constructor
  · rintro ⟨members', hargs, hnodup⟩
    rw [objectArgs_injective hargs]
    exact hnodup
  · intro hnodup
    exact ⟨members, rfl, hnodup⟩

/-- Whether no object in the expression `e` has a key twice. -/
def ObjectsDistinct (e : Expr) : Prop := ∀ args ∈ e.objects, KeysDistinct args

theorem objectsDistinct_of_objects_eq_nil {e : Expr} (h : e.objects = []) : e.ObjectsDistinct := by
  intro args hargs
  rw [h] at hargs
  cases hargs

end Expr

/-- Whether no object in the query `q`, or in one that it reads from, has a key twice. -/
def Query.ObjectsDistinct (q : Query) : Prop :=
  ∀ p ∈ q :: q.subqueries, ∀ e ∈ p.exprs, e.ObjectsDistinct

end Sql

open Sql.Expr

/-! ## Shown values -/

/-- The shown values of the fields `ids`, each under its id, as they are read from the links of a
relation. -/
def shownMembers (linksAlias : String) (ids : List FieldId) : List (String × Expr) :=
  ids.map fun id => (id.text, (Expr.of linksAlias id.text).json)

theorem keys_shownMembers (linksAlias : String) (ids : List FieldId) :
    (shownMembers linksAlias ids).map (·.1) = ids.map (·.text) := by
  rw [shownMembers, List.map_map]
  rfl

theorem nodup_texts_iff {ids : List FieldId} : (ids.map (·.text)).Nodup ↔ ids.Nodup := by
  refine List.nodup_map_iff ?_
  rintro ⟨a⟩ ⟨b⟩ rfl
  rfl

theorem objects_expandItem (owner : FieldId) (display : List FieldId) (linksAlias name : String) :
    (expandItem owner display linksAlias name).expr.objects =
      [objectArgs [(owner.text, .jsonObject (shownMembers linksAlias display))],
        objectArgs (shownMembers linksAlias display)] := by
  -- the members of the inner object are columns that are read again
  have hmembers : (shownMembers linksAlias display).flatMap (·.2.objects) = [] := by
    simp [shownMembers]
  have hexpr : (expandItem owner display linksAlias name).expr =
      .jsonObject [(owner.text, .jsonObject (shownMembers linksAlias display))] := rfl
  rw [hexpr, objects_jsonObject, List.flatMap_singleton, objects_jsonObject, hmembers]

/-- The object of shown values has distinct keys just if no field comes twice in `display`. -/
theorem objectsDistinct_expandItem_iff {owner : FieldId} {display : List FieldId}
    {linksAlias name : String} :
    (expandItem owner display linksAlias name).expr.ObjectsDistinct ↔ display.Nodup := by
  have houter : KeysDistinct
      (objectArgs [(owner.text, .jsonObject (shownMembers linksAlias display))]) :=
    keysDistinct_objectArgs_iff.2 (List.nodup_singleton _)
  rw [Expr.ObjectsDistinct, objects_expandItem, List.forall_mem_cons, List.forall_mem_singleton,
    and_iff_right houter, keysDistinct_objectArgs_iff, keys_shownMembers, nodup_texts_iff]

namespace DisplayColumn

variable (c : DisplayColumn)

theorem objects_projection : c.projection.expr.objects = [] := by
  rcases c with ⟨field, columns⟩
  rcases columns with _ | ⟨column, _ | ⟨column', columns⟩⟩
  · rfl
  · simp only [projection]
    split
    · rfl
    · rfl
  · simp [projection, SelectItem.named]

theorem objects_gathered (foreignAlias : String) : (c.gathered foreignAlias).expr.objects = [] := by
  simp only [gathered, SelectItem.named, objects_jsonGroupArray]
  split
  · simp
  · simp

end DisplayColumn

namespace AttachedFields

variable (a : AttachedFields)

/-- Of the attached fields `a` only lookups make objects. -/
theorem objectsDistinct_projections_iff {options : Options} {linksAlias : String} :
    (∀ item ∈ a.projections options linksAlias, item.expr.ObjectsDistinct) ↔
      ∀ lookup ∈ a.lookups, lookup.2.Nodup := by
  have hcount : ∀ field ∈ a.counts, (countItem options linksAlias field).expr.ObjectsDistinct := by
    intro field _
    apply objectsDistinct_of_objects_eq_nil
    simp only [countItem, SelectItem.named]
    split
    · simp [Expr.int]
    · simp
  -- sums and averages are read as they are, so they make no object either
  have hvalue : ∀ field ∈ a.sums.map (·.1) ++ a.averages.map (·.1),
      (valueItem linksAlias field).expr.ObjectsDistinct :=
    fun field _ => objectsDistinct_of_objects_eq_nil rfl
  simp only [projections, List.forall_mem_append, List.forall_mem_map,
    objectsDistinct_expandItem_iff]
  simp only [List.forall_mem_append, List.forall_mem_map] at hvalue
  exact ⟨fun h => h.1.1, fun h => ⟨⟨h, hcount⟩, hvalue⟩⟩

theorem objects_aggregates {foreignAlias : String} {item : SelectItem}
    (h : item ∈ a.aggregates foreignAlias) : item.expr.objects = [] := by
  simp only [aggregates, List.mem_append, List.mem_map] at h
  rcases h with (⟨field, -, rfl⟩ | ⟨sum, -, rfl⟩) | ⟨average, -, rfl⟩
  · simp [SelectItem.named]
  · simp [SelectItem.named]
  · simp [SelectItem.named]

end AttachedFields

/-! ## The queries that are added -/

namespace Link

variable (l : Link) (r : Relation)

theorem objects_records : ∀ e ∈ l.records.exprs, e.objects = [] := by
  refine l.forall_exprs_records ?column ?projection
  case column => exact fun _ => rfl
  case projection => exact fun c _ => c.objects_projection

theorem objects_query : ∀ e ∈ (l.query r).exprs, e.objects = [] := by
  refine l.forall_exprs_query r ?current ?foreign ?linked ?gathered ?aggregate ?follows ?depth
  case current => rfl
  case foreign => rfl
  case linked => cases r <;> simp [Relation.linked]
  case gathered => exact fun c _ => c.objects_gathered _
  case aggregate => exact fun item hitem => l.attached.objects_aggregates hitem
  case follows => rfl
  case depth => exact fun _ _ => rfl

/-- The fields that show values of the links `l`, with the fields that they show. -/
def expansions : List (FieldId × List FieldId) := (l.field, l.display) :: l.attached.lookups

/-- The shown values are in one column for each field in `l.expansions`. -/
theorem expandItem_mem_items {x : FieldId × List FieldId} (h : x ∈ l.expansions) :
    expandItem x.1 x.2 l.linksAlias (Naming.expandColumn x.1 l.options.expandSuffix) ∈
      (l.resolve r).items := by
  rw [items_resolve]
  rcases List.mem_cons.1 h with rfl | h
  · exact List.mem_append_left _ (List.mem_cons_of_mem _ List.mem_cons_self)
  · apply List.mem_append_right
    exact List.mem_append_left _ (List.mem_append_left _ (List.mem_map_of_mem h))

/-- All objects that the relation `r` adds are in the columns of `l.expansions`. -/
theorem objectsDistinct_resolve_iff :
    (∀ e ∈ (l.resolve r).exprs, e.ObjectsDistinct) ↔ ∀ x ∈ l.expansions, x.2.Nodup := by
  constructor
  · intro h x hx
    rw [← objectsDistinct_expandItem_iff]
    exact h _ (Fragment.mem_exprs.2 (.inl ⟨_, l.expandItem_mem_items r hx, rfl⟩))
  · -- neither the own column, nor the join, nor a query of the links makes an object
    intro h e he
    rw [expansions, List.forall_mem_cons] at h
    rcases Fragment.mem_exprs.1 he with ⟨item, hitem, rfl⟩ | rfl | ⟨q, hq, he⟩
    · rw [items_resolve, List.mem_append, List.mem_pair] at hitem
      rcases hitem with (rfl | rfl) | hitem
      · exact objectsDistinct_of_objects_eq_nil rfl
      · exact objectsDistinct_expandItem_iff.2 h.1
      · exact l.attached.objectsDistinct_projections_iff.2 h.2 item hitem
    · rw [l.join_resolve]
      exact objectsDistinct_of_objects_eq_nil rfl
    · rw [Fragment.queries_resolve] at hq
      rcases List.mem_pair.1 hq with rfl | rfl
      · exact objectsDistinct_of_objects_eq_nil (l.objects_query r e he)
      · exact objectsDistinct_of_objects_eq_nil (l.objects_records e he)

end Link

/-- The properties of a file of `field` have distinct names. -/
theorem objectsDistinct_fileRows (options : FileOptions) (field : FieldId) :
    ∀ e ∈ (fileRows options field).exprs, e.ObjectsDistinct := by
  refine forall_exprs_fileRows ?record ?files ?own
  case record => exact objectsDistinct_of_objects_eq_nil rfl
  case files =>
    have hfile : (fileColumns.map fun column => (column, Expr.col column)).flatMap
        (·.2.objects) = [] := rfl
    -- one object for each file, with the names in `fileColumns`
    rw [Expr.ObjectsDistinct, objects_jsonGroupArray, objects_jsonObject, hfile,
      List.forall_mem_singleton, keysDistinct_objectArgs_iff]
    decide
  case own => exact objectsDistinct_of_objects_eq_nil rfl

theorem objectsDistinct_fileFragment (options : Options) (field : FieldId) {e : Expr}
    (he : e ∈ (fileFragment options field).exprs) : e.ObjectsDistinct := by
  rcases Fragment.mem_exprs.1 he with ⟨item, hitem, rfl⟩ | rfl | ⟨q, hq, he⟩
  · rw [List.mem_singleton.1 hitem]
    exact objectsDistinct_of_objects_eq_nil rfl
  · exact objectsDistinct_of_objects_eq_nil rfl
  · rw [Fragment.queries_fileFragment, List.mem_singleton] at hq
    subst hq
    exact objectsDistinct_fileRows _ _ e he

/-! ## What a table shows -/

/-- The fields that a field of this kind names to be shown. -/
def FieldKind.display : FieldKind → List FieldId
  | .relation r => r.display
  | .attached _ (.lookup ids) => ids
  | .scalar _ | .attachment | .attached .. => []

/-- The fields that are shown because `foreign` marks them come once each. -/
theorem Relation.nodup_displayIds_iff (r : Relation) (foreign : Table) :
    (r.displayIds foreign).Nodup ↔ r.display.Nodup := by
  by_cases hdisplay : r.display = []
  · rw [displayIds_of_eq_nil hdisplay, hdisplay]
    -- marked fields are part of the schema, where ids are distinct
    exact iff_of_true (foreign.schema.distinct.sublist (List.filter_sublist.map _)) List.nodup_nil
  · rw [displayIds_of_ne_nil hdisplay]

namespace Table

variable {t : Table} {c : Catalog}

/-- Whether a field of the table `t` shows the fields `ids`, over the links of a relation that leads
to a table. -/
inductive Shows (t : Table) (c : Catalog) : FieldId → (relation : FieldId) → List FieldId → Prop
  | relation {field : FieldId} {r : Relation} {foreign : Table}
      (hkind : t.kind? field = some (.relation r)) (hreaches : t.reaches c r = true)
      (hforeign : t.foreign? c r = some foreign) : Shows t c field field (r.displayIds foreign)
  | lookup {f : Field} {relation : FieldId} {ids : List FieldId} (hf : f ∈ t.schema.fields)
      (hkind : f.kind = .attached relation (.lookup ids)) (hleads : t.leads c relation = true) :
      Shows t c f.id relation ids

theorem Shows.leads {field relation : FieldId} {ids : List FieldId}
    (h : t.Shows c field relation ids) : t.leads c relation = true := by
  cases h with
  | relation hkind hreaches => exact leads_iff.2 ⟨_, hkind, hreaches⟩
  | lookup hf hkind hleads => exact hleads

variable {options : Options} {relation : FieldId} {r : Relation} {foreign : Table}
  {layout : Layout} {l : Link}

/-- The link `l` of a relation makes the columns of all that is shown over it. -/
theorem HasLink.mem_expansions_iff (h : t.HasLink c options relation r foreign layout l)
    (hrelation : t.kind? relation = some (.relation r)) {x : FieldId × List FieldId} :
    x ∈ l.expansions ↔ t.Shows c x.1 relation x.2 := by
  have hleads : t.leads c relation = true := leads_iff.2 ⟨r, hrelation, h.live⟩
  rw [Link.expansions, List.mem_cons, h.field_eq, h.display_eq, h.attached_eq, attachedTo,
    AttachedFields.mem_lookups_iff]
  constructor
  · rintro (rfl | ⟨f, hf, hid, hkind⟩)
    · exact .relation hrelation h.live h.leads
    · rw [← hid]
      exact .lookup hf hkind hleads
  · rcases x with ⟨field, ids⟩
    intro hshows
    cases hshows with
    | relation hkind hreaches hforeign =>
        -- a relation is of one kind and leads to one table
        rw [hrelation, Option.some.injEq, FieldKind.relation.injEq] at hkind
        subst hkind
        rw [h.leads, Option.some.injEq] at hforeign
        subst hforeign
        exact .inl rfl
    | lookup hf hkind hleads => exact .inr ⟨_, hf, rfl, hkind⟩

theorem exists_foreign?_of_reaches (h : t.reaches c r = true) :
    ∃ foreign, t.foreign? c r = some foreign := by
  rw [foreign?]
  by_cases hself : r.foreignTable t.id = t.id
  · exact ⟨t, if_pos hself⟩
  · rw [if_neg hself]
    simp only [reaches, hself, decide_false, Bool.false_or, Option.any_eq_true] at h
    rcases h with ⟨foreign, hforeign, -⟩
    exact ⟨foreign, hforeign⟩

/-- No field is shown twice just if no field of `t` with a column of shown values names one
twice. -/
theorem nodup_shows_iff :
    (∀ field relation ids, t.Shows c field relation ids → ids.Nodup) ↔
      ∀ f ∈ t.schema.fields, t.hasExpansion c f = true → f.kind.display.Nodup := by
  constructor
  · intro h f hf hexpansion
    -- only a relation or a lookup has a column of shown values
    rcases hkind : f.kind with kind | _ | r | ⟨owner, shows⟩
    · exact List.nodup_nil
    · exact List.nodup_nil
    · simp only [hasExpansion, hkind] at hexpansion
      rcases exists_foreign?_of_reaches hexpansion with ⟨foreign, hforeign⟩
      have hself : t.kind? f.id = some (.relation r) := by rw [kind?_of_mem hf, hkind]
      exact (r.nodup_displayIds_iff foreign).1 (h _ _ _ (.relation hself hexpansion hforeign))
    · cases shows with
      | lookup ids =>
          simp only [hasExpansion, hkind] at hexpansion
          exact h _ _ _ (.lookup hf hkind hexpansion)
      | count | sum | average => exact List.nodup_nil
  · intro h field relation ids hshows
    cases hshows with
    | @relation _ r foreign hkind hreaches hforeign =>
        rcases kind?_eq_some_iff.1 hkind with ⟨f, hf, -, hkind⟩
        have hdisplay := h f hf (by simp only [hasExpansion, hkind, hreaches])
        rw [hkind] at hdisplay
        exact (r.nodup_displayIds_iff foreign).2 hdisplay
    | @lookup f _ _ hf hkind hleads =>
        have hdisplay := h f hf (by simp only [hasExpansion, hkind, hleads])
        rw [hkind] at hdisplay
        exact hdisplay

end Table

/-! ## Compiled queries -/

section Compile

variable {catalog : Catalog} {options : Options} {t : Table} {base : Query} {out : Compiled}

namespace Compiled.MadeOf

variable {fragments : List Fragment} {field relation : FieldId} {ids : List FieldId}

/-- Whatever is shown over `relation` is in the fragment of its link. -/
theorem exists_link_of_shows (h : out.MadeOf catalog options t base fragments)
    (hshows : t.Shows catalog field relation ids) :
    ∃ r foreign layout l, t.HasLink catalog options relation r foreign layout l ∧
      l.resolve r ∈ fragments ∧ (field, ids) ∈ l.expansions := by
  rcases Table.leads_iff.1 hshows.leads with ⟨r, hrelation, hreaches⟩
  rcases Table.kind?_eq_some_iff.1 hrelation with ⟨f, hf, rfl, hkind⟩
  rcases h.exists_link hf hkind hreaches with ⟨foreign, layout, l, hlink, hmem⟩
  exact ⟨r, foreign, layout, l, hlink, hmem, (hlink.mem_expansions_iff hrelation).2 hshows⟩

/-- The objects that the `fragments` add have distinct keys just if no field is shown twice. -/
theorem objectsDistinct_iff (h : out.MadeOf catalog options t base fragments) :
    (∀ fragment ∈ fragments, ∀ e ∈ fragment.exprs, e.ObjectsDistinct) ↔
      ∀ field relation ids, t.Shows catalog field relation ids → ids.Nodup := by
  constructor
  · intro hdistinct field relation ids hshows
    rcases h.exists_link_of_shows hshows with ⟨r, foreign, layout, l, -, hmem, hexpansion⟩
    exact (l.objectsDistinct_resolve_iff r).1 (hdistinct _ hmem) _ hexpansion
  · intro hnodup fragment hfragment
    -- files make objects of their own, and a link those of its expansions
    cases h.adds fragment hfragment with
    | files hkind => exact fun e he => objectsDistinct_fileFragment _ _ he
    | @link relation r foreign layout l hkind hlink =>
        rw [l.objectsDistinct_resolve_iff r]
        intro x hx
        exact hnodup _ _ _ ((hlink.mem_expansions_iff hkind).1 hx)

end Compiled.MadeOf

/-- Every object in a compiled query has distinct keys, if that is so in `base`, just as long as no
relation and no lookup names a field twice. The fields `ids` that are shown are in one object under
the id of the field that shows them, and its keys are these fields, once each and in the order in
which they first come, just if none of them comes again. -/
theorem compile_objectsDistinct_iff (h : compile catalog options t base = .ok out) :
    (out.query.ObjectsDistinct ↔ base.ObjectsDistinct ∧
      ∀ f ∈ t.schema.fields, t.hasExpansion catalog f = true → f.kind.display.Nodup) ∧
    ∀ field relation ids, t.Shows catalog field relation ids →
      let members := shownMembers (Naming.linksAlias relation) ids
      .named (.jsonObject [(field.text, .jsonObject members)])
          (Naming.expandColumn field options.expandSuffix) ∈ out.addedItems base ∧
        (FirstOccurrences (ids.map (·.text)) (members.map (·.1)) ↔ ids.Nodup) := by
  rcases exists_madeOf h with ⟨fragments, hmade⟩
  constructor
  · -- the expressions of the output are those of the base and of the fragments
    rw [← Table.nodup_shows_iff, ← hmade.objectsDistinct_iff]
    constructor
    · intro hout
      constructor
      · intro q hq e he
        rcases hmade.mem_exprs_iff.2 (.inl ⟨q, hq, he⟩) with ⟨p, hp, he⟩
        exact hout p hp e he
      · intro fragment hfragment e he
        rcases hmade.mem_exprs_iff.2 (.inr ⟨fragment, hfragment, he⟩) with ⟨p, hp, he⟩
        exact hout p hp e he
    · rintro ⟨hbase, hfragments⟩ q hq e he
      rcases hmade.mem_exprs_iff.1 ⟨q, hq, he⟩ with ⟨p, hp, he⟩ | ⟨fragment, hfragment, he⟩
      · exact hbase p hp e he
      · exact hfragments fragment hfragment e he
  · intro field relation ids hshows
    constructor
    · rcases hmade.exists_link_of_shows hshows with ⟨r, foreign, layout, l, hlink, hmem, hexpansion⟩
      have hitem := l.expandItem_mem_items r hexpansion
      rw [hlink.linksAlias_eq, hlink.options_eq] at hitem
      rw [Compiled.addedItems, hmade.query, List.drop_left]
      exact List.mem_flatMap.2 ⟨_, hmem, hitem⟩
    · rw [keys_shownMembers, firstOccurrences_self_iff, nodup_texts_iff]

end Compile

/-- No object of a post has a key twice, and what it has `tagged` is shown by labels, once. -/
theorem compile_objectsDistinct_posts :
    ∃ out, compile Blog.registry.catalog {} Blog.posts (Options.baseQuery {} Blog.posts) = .ok out ∧
      out.query.ObjectsDistinct ∧
      .named (.jsonObject [("tagged", .jsonObject (shownMembers "uta_tagged" [⟨"label"⟩]))])
          "tagged_expand" ∈ out.addedItems (Options.baseQuery {} Blog.posts) ∧
        FirstOccurrences ["label"] ((shownMembers "uta_tagged" [⟨"label"⟩]).map (·.1)) := by
  have hcompiles : (compile Blog.registry.catalog {} Blog.posts
      (Options.baseQuery {} Blog.posts)).map (·.dialect) = .ok .sqlite := by rfl
  rcases map_eq_ok.1 hcompiles with ⟨out, h, -⟩
  rcases compile_objectsDistinct_iff h with ⟨hdistinct, hshown⟩
  have hbase : (Options.baseQuery {} Blog.posts).ObjectsDistinct := by
    intro q hq e he
    obtain rfl := List.mem_singleton.1 hq
    rw [List.mem_singleton.1 he]
    exact objectsDistinct_of_objects_eq_nil rfl
  have hreaches :
      Blog.posts.reaches Blog.registry.catalog (.reference (.owner ⟨"tags"⟩)) = true := by
    decide +kernel
  have htags : Blog.posts.Shows Blog.registry.catalog ⟨"tagged"⟩ ⟨"tagged"⟩ [⟨"label"⟩] :=
    .relation rfl hreaches rfl
  rcases hshown _ _ _ htags with ⟨hitem, horder⟩
  refine ⟨out, h, hdistinct.2 ⟨hbase, ?_⟩, hitem, horder.2 (List.nodup_singleton _)⟩
  decide +kernel

namespace Blog

/-- Readers, to whom the label of a tag that they follow is shown twice. -/
def readers : Table where
  id := ⟨"readers"⟩
  name := "Readers"
  schema := schema [⟨⟨"follows"⟩, "Follows", false,
    .relation (.reference ⟨true, ⟨"tags"⟩, none, [⟨"label"⟩, ⟨"label"⟩]⟩)⟩]
  deleted := false

def readership : Registry := (Registry.empty.insert tags).insert readers

end Blog

/-- The tags that a reader `follows` are in an object that has one key twice, though the links hold
the labels once. -/
theorem compile_objects_repeated_readers :
    Blog.readers.problems Blog.readership.catalog = [] ∧
      Blog.tags.problems Blog.readership.catalog = [] ∧
      ∃ out, compile Blog.readership.catalog {} Blog.readers
          (Options.baseQuery {} Blog.readers) = .ok out ∧
        out.query.subqueries.map (·.outputNames) =
          [[some "from_id", some "follows", some "label"], [some "id", some "label"]] ∧
        .named (.jsonObject
            [("follows", .jsonObject (shownMembers "uta_follows" [⟨"label"⟩, ⟨"label"⟩]))])
          "follows_expand" ∈ out.query.items ∧
        ¬out.query.ObjectsDistinct := by
  have hquery : (compile Blog.readership.catalog {} Blog.readers
      (Options.baseQuery {} Blog.readers)).map (fun out => decide (
        out.query.subqueries.map (·.outputNames) =
          [[some "from_id", some "follows", some "label"], [some "id", some "label"]] ∧
        .named (.jsonObject
            [("follows", .jsonObject (shownMembers "uta_follows" [⟨"label"⟩, ⟨"label"⟩]))])
          "follows_expand" ∈ out.query.items)) = .ok true := by decide +kernel
  rcases map_eq_ok.1 hquery with ⟨out, h, hout⟩
  rcases of_decide_eq_true hout with ⟨hnames, hitem⟩
  refine ⟨by decide +kernel, by decide +kernel, out, h, hnames, hitem, ?_⟩
  intro hdistinct
  have hexpand : (expandItem ⟨"follows"⟩ [⟨"label"⟩, ⟨"label"⟩] "uta_follows"
      "follows_expand").expr.ObjectsDistinct :=
    hdistinct _ List.mem_cons_self _ (Query.mem_exprs.2 (.inl ⟨_, hitem, rfl⟩))
  rw [objectsDistinct_expandItem_iff] at hexpand
  exact absurd hexpand (by decide)

end LinkedRecords
