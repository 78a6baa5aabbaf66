import LinkedRecords.Proofs.Compile.Links
import LinkedRecords.Proofs.HierarchyPairs

/-! # Which relations share a table of links

The table of links that a relation reads is named after a table and a field: after its own, or after
those of the field that keeps the links for both. Two relations are meant to share a table if one
field keeps the links of both. The ids are joined by an underscore, which they may hold themselves,
so two relations may also share a table without being meant to, and this is the only other way.

* `Naming.Home.text_eq_iff` — when different ids are joined to the same text.
* `Relation.linkTable_eq_home` — the table of links, named after its `Relation.home`.
* `Catalog.LinkField.Shares`, `Catalog.LinkField.eq_or_shares` — the ways in which two fields are
  meant to share a table.
* `Catalog.Sound.sharedTable_iff` — when two relations of a catalog read one table of links.
* `sharedTable_unintended_market` — two references that share a table and are not meant to.
-/

namespace LinkedRecords

/-! ## Names joined from ids -/

namespace Naming

/-- The ids that a table of links is named after. -/
structure Home where
  table : TableId
  field : FieldId
deriving DecidableEq

namespace Home

/-- The ids of `h`, joined by an underscore. -/
def text (h : Home) : String := h.table.text ++ "_" ++ h.field.text

/-- Whether the table id of `a` takes a part of the field id of `b`, so that different ids are
joined to the same text. -/
def Runs (a b : Home) : Prop :=
  ∃ part, a.table.text = b.table.text ++ "_" ++ part ∧ b.field.text = part ++ "_" ++ a.field.text

variable {a b : Home}

theorem text_eq_of_runs (h : a.Runs b) : a.text = b.text := by
  rcases h with ⟨part, htable, hfield⟩
  rw [text, text, htable, hfield]
  simp only [String.append_assoc]

/-- If the table id of `a` has `more` than that of `b`, this starts with the underscore. -/
theorem eq_or_runs_of_append {more : List Char}
    (htable : a.table.text.toList = b.table.text.toList ++ more)
    (hfield : '_' :: b.field.text.toList = more ++ '_' :: a.field.text.toList) :
    a = b ∨ a.Runs b := by
  cases more with
  | nil =>
      left
      rw [List.append_nil, String.toList_inj] at htable
      have hsame : b.field.text = a.field.text := String.toList_inj.1 (List.cons.inj hfield).2
      rcases a with ⟨⟨_⟩, ⟨_⟩⟩
      rcases b with ⟨⟨_⟩, ⟨_⟩⟩
      simp_all
  | cons c part =>
      right
      have hunderscore : '_' = c := (List.cons.inj hfield).1
      have hrest : b.field.text.toList = part ++ '_' :: a.field.text.toList :=
        (List.cons.inj hfield).2
      subst hunderscore
      refine ⟨.ofList part, ?_, ?_⟩
      · rw [← String.toList_inj]
        simp [htable]
      · rw [← String.toList_inj]
        simp [hrest]

/-- The ids of `a` and `b` are joined to the same text only if they are the same or one table id
takes a part of the other's field id. -/
theorem text_eq_iff : a.text = b.text ↔ a = b ∨ a.Runs b ∨ b.Runs a := by
  constructor
  · intro h
    have hlist : a.table.text.toList ++ '_' :: a.field.text.toList =
        b.table.text.toList ++ '_' :: b.field.text.toList := by
      have htext := congrArg String.toList h
      simpa [text] using htext
    -- one table id is the start of the other
    rcases List.append_eq_append_iff.1 hlist with ⟨more, htable, hfield⟩ | ⟨more, htable, hfield⟩
    · rcases eq_or_runs_of_append htable hfield with rfl | hruns
      · exact .inl rfl
      · exact .inr (.inr hruns)
    · rcases eq_or_runs_of_append htable hfield with rfl | hruns
      · exact .inl rfl
      · exact .inr (.inl hruns)
  · rintro (rfl | hruns | hruns)
    · rfl
    · exact text_eq_of_runs hruns
    · exact (text_eq_of_runs hruns).symm

end Home

end Naming

namespace Relation

/-- The ids of the field that keeps the links of the relation `r`, with its table. -/
def home (r : Relation) (table : TableId) (field : FieldId) : Naming.Home :=
  match r with
  | reference r =>
    match r.symmetric, r.isOwner with
    | some symmetric, false => ⟨r.foreignTable, symmetric⟩
    | _, _ => ⟨table, field⟩
  | tree _ => ⟨table, field⟩
  | parent h => ⟨table, h.partner.getD field⟩

/-- Whether the links of a relation are edges, and not a hierarchy. -/
def isEdges : Relation → Bool
  | reference _ => true
  | tree _ | parent _ => false

/-- What is joined to the ids of the relation `r`. -/
def linkSuffix (r : Relation) : String :=
  if r.isEdges then "_adjacency_list" else "_closure_table"

theorem linkTable_eq_home (r : Relation) (table : TableId) (field : FieldId) :
    r.linkTable table field = (r.home table field).text ++ r.linkSuffix := by
  cases r with
  | reference r =>
      simp only [linkTable, Naming.edgeTable, home]
      cases r.symmetric with
      | none => rfl
      | some symmetric => cases r.isOwner <;> rfl
  | tree h => rfl
  | parent h => rfl

/-- The links of `r` and `r'` are kept in one table only if both are edges or both are
hierarchies. -/
theorem append_linkSuffix_eq_iff {r r' : Relation} {s s' : String} :
    s ++ r.linkSuffix = s' ++ r'.linkSuffix ↔ s = s' ∧ r.isEdges = r'.isEdges := by
  -- the last letters of the two suffixes differ
  have hends : ∀ x y : String, x ++ "_adjacency_list" ≠ y ++ "_closure_table" := by
    intro x y h
    have hlast := congrArg (·.toList.getLast?) h
    simp [List.getLast?_append] at hlast
  unfold linkSuffix
  cases r.isEdges <;> cases r'.isEdges
  · simp [String.append_left_inj]
  · simpa using (hends s' s).symm
  · simpa using hends s s'
  · simp [String.append_left_inj]

end Relation

/-! ## The relation fields of a catalog -/

/-- Whether `t` is one of the tables of the catalog `c`. -/
def Catalog.Holds (c : Catalog) (t : Table) : Prop := ∃ id, c.table? id = some t

/-- A catalog `c` in which no field id is used twice, and whose tables have no problems. -/
structure Catalog.Sound (c : Catalog) : Prop where
  /-- No two tables of `c` have fields with the same id. -/
  unique : ∀ t t', c.Holds t → c.Holds t' → ∀ f ∈ t.schema.fields, ∀ f' ∈ t'.schema.fields,
    f.id = f'.id → t = t'
  /-- No table of `c` has a problem. -/
  valid : ∀ t, c.Holds t → t.problems c = []

/-- A relation field of one of the tables of `c`. -/
structure Catalog.LinkField (c : Catalog) where
  table : Table
  held : c.Holds table
  field : Field
  mem : field ∈ table.schema.fields
  relation : Relation
  kind : field.kind = .relation relation

namespace Catalog.LinkField

variable {c : Catalog}

/-- The table of links that the field `a` reads. -/
def linkTable (a : c.LinkField) : String := a.relation.linkTable a.table.id a.field.id

/-- The ids that the table of links of the field `a` is named after. -/
def home (a : c.LinkField) : Naming.Home := a.relation.home a.table.id a.field.id

/-- The ways in which the fields `a` and `b` are meant to show the same links. -/
inductive Shares (a b : c.LinkField) : Prop
  /-- Two references are the ends of a symmetric pair. -/
  | pair {r p : Reference} (ha : a.relation = .reference r) (hb : b.relation = .reference p)
      (there : r.symmetric = some b.field.id) (back : p.symmetric = some a.field.id)
      (leads : r.foreignTable = b.table.id) (leadsBack : p.foreignTable = a.table.id) : Shares a b
  /-- The tree field `a` is named by the parent field `b` of its table. -/
  | tree {h p : Hierarchy} (ha : a.relation = .tree h) (hb : b.relation = .parent p)
      (same : a.table = b.table) (named : p.partner = some a.field.id) : Shares a b
  /-- The parent field `a` names the tree field `b` of its table. -/
  | parent {h p : Hierarchy} (ha : a.relation = .parent h) (hb : b.relation = .tree p)
      (same : a.table = b.table) (named : h.partner = some b.field.id) : Shares a b
  /-- Two parent fields name one tree field of their table. -/
  | siblings {h p : Hierarchy} {tree : FieldId} (ha : a.relation = .parent h)
      (hb : b.relation = .parent p) (same : a.table = b.table) (named : h.partner = some tree)
      (named' : p.partner = some tree) : Shares a b

/-- Which field keeps the links of the field `a`. -/
inductive KeptBy (a : c.LinkField) : c.LinkField → Prop
  /-- The field `a` keeps its links itself. -/
  | itself (hhome : a.home = ⟨a.table.id, a.field.id⟩) : KeptBy a a
  /-- The owner `k` of a symmetric pair keeps the links for the other end. -/
  | owner {k : c.LinkField} {r p : Reference} (ha : a.relation = .reference r)
      (hk : k.relation = .reference p) (there : r.symmetric = some k.field.id)
      (back : p.symmetric = some a.field.id) (leadsBack : p.foreignTable = a.table.id)
      (hhome : a.home = ⟨r.foreignTable, k.field.id⟩) : KeptBy a k
  /-- The tree field `k` keeps the links for the parent fields that name it. -/
  | tree {k : c.LinkField} {h p : Hierarchy} (ha : a.relation = .parent h)
      (hk : k.relation = .tree p) (same : k.table = a.table)
      (named : h.partner = some k.field.id) (hhome : a.home = ⟨a.table.id, k.field.id⟩) :
      KeptBy a k

variable {a b k : c.LinkField}

theorem KeptBy.field_home (h : a.KeptBy k) : a.home.field = k.field.id := by
  cases h with
  | itself hhome => rw [hhome]
  | owner ha hk there back leadsBack hhome => rw [hhome]
  | tree ha hk same named hhome => rw [hhome]

/-- The relation fields `a` and `b` are told apart by their ids. -/
theorem eq_of_id_eq (hc : c.Sound) (h : a.field.id = b.field.id) : a = b := by
  -- no id is used in two tables, so the tables are the same
  have htable : a.table = b.table :=
    hc.unique _ _ a.held b.held _ a.mem _ b.mem h
  have hfield : a.field = b.field := by
    apply a.table.schema.eq_of_id_eq a.mem
    · rw [htable]
      exact b.mem
    · exact h
  have hrelation : a.relation = b.relation := by
    have hkind := a.kind
    rw [hfield, b.kind] at hkind
    exact (FieldKind.relation.inj hkind).symm
  cases a
  cases b
  simp_all

/-- The other end `k` of a symmetric pair is a reference of the catalog that leads back, names the
field `a` back, and owns the edges instead of it. -/
theorem exists_partner (hc : c.Sound) {r : Reference} {symmetric : FieldId}
    (ha : a.relation = .reference r) (hr : r.symmetric = some symmetric) :
    ∃ (k : c.LinkField) (p : Reference), k.field.id = symmetric ∧ k.relation = .reference p ∧
      p.symmetric = some a.field.id ∧ p.foreignTable = a.table.id ∧ p.isOwner = !r.isOwner := by
  have hkind : a.field.kind = .relation (.reference r) := ha ▸ a.kind
  have hproblems := Table.fieldProblems_of_valid (hc.valid a.table a.held) a.mem
  rw [Table.fieldProblems, hkind, List.append_eq_nil_iff] at hproblems
  rcases Table.exists_foreign_of_valid (hc.valid _ a.held) a.mem hkind with ⟨foreign, hforeign⟩
  -- the table of the field is valid, so its partner is as it must be
  rcases (Table.symmetricProblems_eq_nil_iff hr hforeign).1 hproblems.2 with
    ⟨g, p, hg, hgkind, hback, hleads, howner⟩
  rcases foreign.field?_eq_some_iff.1 hg with ⟨hmem, hid⟩
  have hheld : c.Holds foreign := by
    rw [Table.foreign?] at hforeign
    split at hforeign
    case isTrue => exact Option.some.inj hforeign ▸ a.held
    case isFalse => exact ⟨_, hforeign⟩
  exact ⟨⟨foreign, hheld, g, hmem, _, hgkind⟩, p, hid, rfl, hback, hleads, howner⟩

/-- The tree field `k` that a parent field `a` names is one of its table. -/
theorem exists_tree (hc : c.Sound) {h : Hierarchy} {tree : FieldId}
    (ha : a.relation = .parent h) (hh : h.partner = some tree) :
    ∃ (k : c.LinkField) (p : Hierarchy), k.field.id = tree ∧ k.table = a.table ∧
      k.relation = .tree p := by
  have hkind : a.field.kind = .relation (.parent h) := ha ▸ a.kind
  have hfollows := Table.parentsFollow_of_valid (hc.valid a.table a.held)
  rcases hfollows a.field a.mem h hkind tree hh with ⟨g, p, hg, hgkind, -⟩
  rcases a.table.field?_eq_some_iff.1 hg with ⟨hmem, hid⟩
  exact ⟨⟨a.table, a.held, g, hmem, _, hgkind⟩, p, hid, rfl, rfl⟩

/-- Every field `a` has a field `k` that keeps its links. -/
theorem exists_keptBy (hc : c.Sound) (a : c.LinkField) : ∃ k, a.KeptBy k := by
  cases ha : a.relation with
  | reference r =>
      cases hr : r.symmetric with
      | none =>
          refine ⟨a, .itself ?_⟩
          rw [home, ha, Relation.home, hr]
      | some symmetric =>
          cases howner : r.isOwner with
          | true =>
              refine ⟨a, .itself ?_⟩
              simp only [home, ha, Relation.home, hr, howner]
          -- the field is not the owner, so its partner is
          | false =>
              rcases exists_partner hc ha hr with ⟨k, p, rfl, hk, hback, hleads, -⟩
              refine ⟨k, .owner ha hk hr hback hleads ?_⟩
              simp only [home, ha, Relation.home, hr, howner]
  | tree h =>
      refine ⟨a, .itself ?_⟩
      rw [home, ha, Relation.home]
  | parent h =>
      cases hh : h.partner with
      | none =>
          refine ⟨a, .itself ?_⟩
          rw [home, ha, Relation.home, hh, Option.getD_none]
      | some tree =>
          rcases exists_tree hc ha hh with ⟨k, p, rfl, hsame, hk⟩
          refine ⟨k, .tree ha hk hsame hh ?_⟩
          rw [home, ha, Relation.home, hh, Option.getD_some]

/-- Fields `a` and `b` whose links are kept under the same ids are the same, or are meant to share
them. -/
theorem eq_or_shares (hc : c.Sound) (hhome : a.home = b.home) : a = b ∨ a.Shares b := by
  rcases exists_keptBy hc a with ⟨k, ha⟩
  rcases exists_keptBy hc b with ⟨k', hb⟩
  -- the keeper is told by the field id that the links are kept under
  have hk : k = k' := by
    apply eq_of_id_eq hc
    rw [← ha.field_home, ← hb.field_home, hhome]
  subst hk
  cases ha with
  | itself hhome' =>
      cases hb with
      | itself => exact .inl rfl
      | owner hb hk there back leadsBack hhome'' =>
          have hleads := congrArg Naming.Home.table (hhome'.symm.trans (hhome.trans hhome''))
          exact .inr (.pair hk hb back there leadsBack hleads.symm)
      | tree hb hk same named hhome'' => exact .inr (.tree hk hb same named)
  | owner ha hk there back leadsBack hhome' =>
      cases hb with
      | itself hhome'' =>
          have hleads := congrArg Naming.Home.table (hhome'.symm.trans (hhome.trans hhome''))
          exact .inr (.pair ha hk there back hleads leadsBack)
      | owner hb hk' there' back' =>
          -- an owner names one partner
          left
          apply eq_of_id_eq hc
          rw [hk, Relation.reference.injEq] at hk'
          subst hk'
          rw [back, Option.some.injEq] at back'
          exact back'
      | tree hb hk' =>
          rw [hk] at hk'
          cases hk'
  | tree ha hk same named hhome' =>
      cases hb with
      | itself => exact .inr (.parent ha hk same.symm named)
      | owner hb hk' =>
          rw [hk] at hk'
          cases hk'
      | tree hb hk' same' named' =>
          exact .inr (.siblings ha hb (same.symm.trans same') named named')

/-- Fields `a` and `b` that are meant to share their links read one table. -/
theorem Shares.linkTable_eq (hc : c.Sound) (h : a.Shares b) : a.linkTable = b.linkTable := by
  cases h with
  | @pair r p ha hb there back leads leadsBack =>
      -- one of the two owns the edges, as the table of the other is valid
      have howner : p.isOwner = !r.isOwner := by
        rcases exists_partner hc ha there with ⟨k, p', hid, hk, -, -, howner⟩
        obtain rfl := eq_of_id_eq hc hid
        rw [hb, Relation.reference.injEq] at hk
        rw [hk]
        exact howner
      rw [linkTable, linkTable, ha, hb]
      exact (Reference.opposite_of_symmetric there back leads leadsBack howner).tables
  | tree ha hb same named =>
      rw [linkTable, linkTable, ha, hb, Relation.linkTable, Relation.linkTable, Naming.parentTable,
        named, same, Option.getD_some]
  | parent ha hb same named =>
      rw [linkTable, linkTable, ha, hb, Relation.linkTable, Relation.linkTable, Naming.parentTable,
        named, same, Option.getD_some]
  | siblings ha hb same named named' =>
      rw [linkTable, linkTable, ha, hb, Relation.linkTable, Relation.linkTable, Naming.parentTable,
        Naming.parentTable, named, named', same, Option.getD_some, Option.getD_some]

theorem linkTable_eq_iff_home :
    a.linkTable = b.linkTable ↔
      a.home.text = b.home.text ∧ a.relation.isEdges = b.relation.isEdges := by
  rw [linkTable, linkTable, Relation.linkTable_eq_home, Relation.linkTable_eq_home,
    Relation.append_linkSuffix_eq_iff]
  rfl

end Catalog.LinkField

/-- Two relation fields `a` and `b` read one table of links just if they are the same, if they are
meant to, or if the ids that their tables are named after run into each other. -/
theorem Catalog.Sound.sharedTable_iff {c : Catalog} (hc : c.Sound) (a b : c.LinkField) :
    a.linkTable = b.linkTable ↔
      a = b ∨ a.Shares b ∨
        (a.relation.isEdges = b.relation.isEdges ∧ (a.home.Runs b.home ∨ b.home.Runs a.home)) := by
  constructor
  · intro h
    rcases LinkField.linkTable_eq_iff_home.1 h with ⟨htext, hedges⟩
    rcases Naming.Home.text_eq_iff.1 htext with hhome | hruns
    · rcases LinkField.eq_or_shares hc hhome with rfl | hshares
      · exact .inl rfl
      · exact .inr (.inl hshares)
    · exact .inr (.inr ⟨hedges, hruns⟩)
  · rintro (rfl | hshares | ⟨hedges, hruns⟩)
    · rfl
    · exact hshares.linkTable_eq hc
    · exact LinkField.linkTable_eq_iff_home.2 ⟨Naming.Home.text_eq_iff.2 (.inr hruns), hedges⟩

/-! ## A shop -/

namespace Registry

theorem holds_insert {r : Registry} {t t' : Table} (h : (r.insert t).catalog.Holds t') :
    t' = t ∨ r.catalog.Holds t' := by
  rcases h with ⟨id, hid⟩
  rw [table?_insert] at hid
  split at hid
  case isTrue => exact .inl (Option.some.inj hid).symm
  case isFalse => exact .inr ⟨id, hid⟩

theorem not_holds_empty (t : Table) : ¬Registry.empty.catalog.Holds t := by
  rintro ⟨id, hid⟩
  cases hid

end Registry

namespace Blog

/-- A shop links to its orders as `order_lines`, and shows as `ordered_in` which orders list it. -/
def shop : Table where
  id := ⟨"shop"⟩
  name := "Shop"
  schema := schema [
    ⟨⟨"order_lines"⟩, "Order lines", false, .relation (.reference (.owner ⟨"shop_order"⟩))⟩,
    ⟨⟨"ordered_in"⟩, "Ordered in", false,
      .relation (.reference (.counterpart ⟨"shop_order"⟩ ⟨"lines"⟩))⟩]
  deleted := false

/-- An order, whose `lines` are the other end of what the shop shows. -/
def order : Table where
  id := ⟨"shop_order"⟩
  name := "Order"
  schema := schema [
    ⟨⟨"lines"⟩, "Lines", false,
      .relation (.reference ((Reference.owner ⟨"shop"⟩).withSymmetric ⟨"ordered_in"⟩))⟩]
  deleted := false

def market : Registry := (Registry.empty.insert shop).insert order

theorem holds_market {t : Table} (h : market.catalog.Holds t) : t = shop ∨ t = order := by
  rcases Registry.holds_insert h with rfl | h
  · exact .inr rfl
  · rcases Registry.holds_insert h with rfl | h
    · exact .inl rfl
    · exact absurd h (Registry.not_holds_empty t)

theorem sound_market : market.catalog.Sound := by
  have happart : ∀ f ∈ shop.schema.fields, ∀ f' ∈ order.schema.fields, f.id ≠ f'.id := by
    decide +kernel
  constructor
  case unique =>
    intro t t' ht ht' f hf f' hf' hid
    rcases holds_market ht with rfl | rfl
    · rcases holds_market ht' with rfl | rfl
      · rfl
      · exact absurd hid (happart f hf f' hf')
    · rcases holds_market ht' with rfl | rfl
      · exact absurd hid.symm (happart f' hf' f hf)
      · rfl
  case valid =>
    intro t ht
    rcases holds_market ht with rfl | rfl
    · decide +kernel
    · decide +kernel

/-- The field `order_lines` of the shop, under edges of its own. -/
def orderLines : market.catalog.LinkField where
  table := shop
  held := ⟨⟨"shop"⟩, rfl⟩
  field := ⟨⟨"order_lines"⟩, "Order lines", false,
    .relation (.reference (.owner ⟨"shop_order"⟩))⟩
  mem := by decide +kernel
  relation := .reference (.owner ⟨"shop_order"⟩)
  kind := rfl

/-- The field `ordered_in` of the shop, under the edges of the other end. -/
def orderedIn : market.catalog.LinkField where
  table := shop
  held := ⟨⟨"shop"⟩, rfl⟩
  field := ⟨⟨"ordered_in"⟩, "Ordered in", false,
    .relation (.reference (.counterpart ⟨"shop_order"⟩ ⟨"lines"⟩))⟩
  mem := by decide +kernel
  relation := .reference (.counterpart ⟨"shop_order"⟩ ⟨"lines"⟩)
  kind := rfl

/-- The field `lines` of an order, which owns its edges. -/
def lines : market.catalog.LinkField where
  table := order
  held := ⟨⟨"shop_order"⟩, rfl⟩
  field := ⟨⟨"lines"⟩, "Lines", false,
    .relation (.reference ((Reference.owner ⟨"shop"⟩).withSymmetric ⟨"ordered_in"⟩))⟩
  mem := by decide +kernel
  relation := .reference ((Reference.owner ⟨"shop"⟩).withSymmetric ⟨"ordered_in"⟩)
  kind := rfl

end Blog

/-- The two ends of the pair read one table because they are meant to, and `order_lines` reads it
too, because the ids run into each other. -/
theorem sharedTable_iff_market :
    Blog.market.catalog.Sound ∧ Blog.orderedIn.Shares Blog.lines ∧
      Blog.orderedIn.linkTable = Blog.lines.linkTable ∧
      Blog.lines.home.Runs Blog.orderLines.home ∧
      Blog.orderLines.linkTable = Blog.lines.linkTable := by
  have hshares : Blog.orderedIn.Shares Blog.lines := .pair rfl rfl rfl rfl rfl rfl
  have hruns : Blog.lines.home.Runs Blog.orderLines.home := ⟨"order", by decide, by decide⟩
  refine ⟨Blog.sound_market, hshares, ?_, hruns, ?_⟩
  · exact (Blog.sound_market.sharedTable_iff _ _).2 (.inr (.inl hshares))
  · exact (Blog.sound_market.sharedTable_iff _ _).2 (.inr (.inr ⟨rfl, .inr hruns⟩))

/-- The references `order_lines` and `ordered_in` read one table of edges, though they are neither
the same nor ends of a pair, and though all tables are valid and no field id is used twice. -/
theorem sharedTable_unintended_market :
    Blog.market.catalog.Sound ∧
      Blog.orderLines.linkTable = "shop_order_lines_adjacency_list" ∧
      Blog.orderedIn.linkTable = "shop_order_lines_adjacency_list" ∧
      Blog.orderLines ≠ Blog.orderedIn ∧ ¬Blog.orderLines.Shares Blog.orderedIn := by
  refine ⟨Blog.sound_market, by decide, by decide, ?_, ?_⟩
  · intro heq
    have hid : Blog.orderLines.field.id = Blog.orderedIn.field.id := by rw [heq]
    exact absurd hid (by decide)
  · intro hshares
    cases hshares with
    | pair ha hb there =>
        -- the owner has no partner
        cases ha
        cases there
    | tree ha => cases ha
    | parent ha => cases ha
    | siblings ha => cases ha

end LinkedRecords
