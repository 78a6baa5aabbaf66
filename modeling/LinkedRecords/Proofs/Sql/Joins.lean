import LinkedRecords.Proofs.Sql.Semantics

/-! # Joins that follow a key

A left join to rows of which only one has a value in a column follows that value: every row is kept
once, next to the one row that has the value, or to the missing row.

* `Bag.UniqueAt`, `Bag.follow` — the one row with a value, and what following the value leads to.
* `Frame.envs_leftJoin` — one left join whose condition asks for a value in a column.
* `KeyJoin.envs_leftJoin` — the step: one join by the id of the record.
* `KeyJoin.envs_runJoins` — any number of such joins put one row each behind every record.
-/

namespace LinkedRecords.Sql

/-! ## Reading -/

namespace Value

@[simp] theorem holds_ofBool (b : Bool) : (ofBool b).holds = b := by
  cases b <;> rfl

/-- The equation of `a` and `b` is true if they are the same and not missing. -/
theorem holds_equals (a b : Value) : (a.equals b).holds = decide (a = b ∧ a ≠ .null) := by
  unfold equals
  by_cases hnull : a = null ∨ b = null
  · -- unknown, and the two are not the same unless both are missing
    rw [if_pos hnull]
    have hfalse : ¬(a = b ∧ a ≠ null) := by
      rintro ⟨rfl, hne⟩
      exact hne (or_self_iff.1 hnull)
    exact (decide_eq_false hfalse).symm
  · rw [if_neg hnull, holds_ofBool]
    have hne : a ≠ null := fun h => hnull (.inl h)
    simp [hne]

end Value

namespace Row

theorem read_cons (cell : String × Value) (r : Row) (name : String) :
    Row.read (cell :: r) name = if cell.1 = name then cell.2 else Row.read r name := by
  by_cases h : cell.1 = name <;> simp [Row.read, h]

theorem read_of_mem {r : Row} (hnodup : (r.map (·.1)).Nodup) {name : String} {v : Value}
    (h : (name, v) ∈ r) : r.read name = v := by
  induction r with
  | nil => simp at h
  | cons cell r ih =>
      rw [List.map_cons, List.nodup_cons] at hnodup
      rw [read_cons]
      rcases List.mem_cons.1 h with rfl | hmem
      · rw [if_pos rfl]
      · -- the name comes only once, so a cell in front of it has another name
        have hne : cell.1 ≠ name := fun heq =>
          hnodup.1 (heq ▸ List.mem_map_of_mem (f := fun cell : String × Value => cell.1) hmem)
        rw [if_neg hne, ih hnodup.2 hmem]

end Row

@[simp] theorem Bag.read_nulls (b : Bag) (name : String) : b.nulls.read name = .null := by
  unfold Bag.nulls
  induction b.columns with
  | nil => rfl
  | cons column columns ih =>
      rw [List.map_cons, Row.read_cons, ih]
      split <;> rfl

namespace Env

theorem row_cons (source : Option String × Row) (env : Env) (qualifier : String) :
    Env.row (source :: env) qualifier =
      if source.1 = some qualifier then source.2 else env.row qualifier := by
  by_cases h : source.1 = some qualifier <;> simp [Env.row, h]

/-- The row of the source `qualifier` is found behind `env` if the sources of `env` have other
qualifiers. -/
theorem row_append {env rest : Env} {qualifier : String}
    (h : some qualifier ∉ env.map (·.1)) :
    Env.row (env ++ rest) qualifier = rest.row qualifier := by
  induction env with
  | nil => rfl
  | cons source env ih =>
      rw [List.map_cons, List.mem_cons, not_or] at h
      rw [List.cons_append, row_cons, if_neg (Ne.symm h.1), ih h.2]

end Env

namespace Expr

variable (F : Functions)

@[simp] theorem value_of (qualifier name : String) (env : Env) (group : List Env) :
    (Expr.of qualifier name).value F (env :: group) = (env.row qualifier).read name := rfl

/-- A column that is qualified by the first source is read from the row `r` of that source. -/
theorem value_of_first (qualifier name : String) (r : Row) (rest : Env) (group : List Env) :
    (Expr.of qualifier name).value F (((some qualifier, r) :: rest) :: group) = r.read name := by
  rw [value_of, Env.row_cons, if_pos rfl]

@[simp] theorem value_equals (left right : Expr) (group : List Env) :
    (left.equals right).value F group = (left.value F group).equals (right.value F group) := rfl

@[simp] theorem value_greater (left right : Expr) (group : List Env) :
    (left.greater right).value F group = (left.value F group).greater (right.value F group) := rfl

@[simp] theorem value_int (n : Int) (group : List Env) :
    (Expr.int n).value F group = .number n := rfl

/-- A column named alone is read from `r`, if that is the row of the only source. -/
theorem value_col (qualifier : Option String) (r : Row) (name : String) :
    (Expr.col name).value F [[(qualifier, r)]] = r.read name := by
  have hread : Expr.value F (Expr.col name) [[(qualifier, r)]] =
      Env.read [(qualifier, r)] none name := rfl
  rw [hread, Env.read]
  -- a source that lacks the name is passed over, and the column is missing either way
  by_cases hname : name ∈ r.map (·.1)
  · simp [hname]
  · have hnone : r.find? (fun cell => cell.1 = name) = none := by
      rw [List.find?_eq_none]
      intro cell hcell heq
      have heq' : cell.1 = name := by simpa using heq
      exact hname (heq' ▸ List.mem_map_of_mem (f := fun cell : String × Value => cell.1) hcell)
    simp [hname, Row.read, hnone]

theorem values_eq_map (es : List Expr) (group : List Env) :
    values F es group = es.map (·.value F group) := by
  induction es with
  | nil => rfl
  | cons e es ih => simp [values, ih]

end Expr

/-! ## One join -/

namespace Bag

/-- Whether no two rows of `b` have the value `v` in `column`, unless it is missing. -/
def UniqueAt (b : Bag) (column : String) (v : Value) : Prop :=
  b.rows.Pairwise fun r r' => r.read column = v → r'.read column = v → v = .null

/-- Whether no two rows of `b` have the same value in `column`, unless it is missing. -/
def UniqueOn (b : Bag) (column : String) : Prop :=
  b.rows.Pairwise fun r r' => r.read column = r'.read column → r.read column = .null

theorem UniqueOn.at {b : Bag} {column : String} (h : b.UniqueOn column) (v : Value) :
    b.UniqueAt column v :=
  List.Pairwise.imp (fun hunique hr hr' => hr ▸ hunique (hr.trans hr'.symm)) h

/-- The row of `b` with the value `v` in `column`. None has a missing value. -/
def row? (b : Bag) (column : String) (v : Value) : Option Row :=
  b.rows.find? fun r => r.read column = v ∧ v ≠ .null

@[simp] theorem row?_null (b : Bag) (column : String) : b.row? column .null = none := by
  rw [row?, List.find?_eq_none]
  simp

/-- The row of `b` with the value `v` in `column`, or else the missing row. -/
def follow (b : Bag) (column : String) (v : Value) : Row := (b.row? column v).getD b.nulls

end Bag

theorem filter_eq_toList_find? {α : Type} {p : α → Bool} {as : List α}
    (h : as.Pairwise fun a b => p a = true → p b = true → False) :
    as.filter p = (as.find? p).toList := by
  induction as with
  | nil => rfl
  | cons a as ih =>
      rw [List.pairwise_cons] at h
      cases hp : p a with
      | false =>
          rw [List.filter_cons_of_neg (by simp [hp]), List.find?_cons_of_neg (by simp [hp]), ih h.2]
      | true =>
          -- no member behind the first one that is found passes as well
          have hrest : as.filter p = [] := by
            rw [List.filter_eq_nil_iff]
            exact fun b hb hpb => h.1 b hb hp hpb
          rw [List.filter_cons_of_pos hp, List.find?_cons_of_pos hp, hrest, Option.toList_some]

/-- The rows with the value `v` in `column` are the one row `b.row? column v`, or none. -/
theorem Bag.UniqueAt.filter_eq {b : Bag} {column : String} {v : Value} (h : b.UniqueAt column v) :
    (b.rows.filter fun r => r.read column = v ∧ v ≠ .null) = (b.row? column v).toList := by
  refine filter_eq_toList_find? (h.imp ?_)
  intro r r' hunique hr hr'
  simp only [decide_eq_true_eq] at hr hr'
  exact hr.2 (hunique hr.1 hr'.1)

theorem Bag.UniqueOn.eq_of_mem {b : Bag} {column : String} (h : b.UniqueOn column) {r r' : Row}
    (hr : r ∈ b.rows) (hr' : r' ∈ b.rows) (hread : r.read column = r'.read column)
    (hnull : r.read column ≠ .null) : r = r' := by
  -- both rows are the one that is found for the value
  have hmem : ∀ x ∈ b.rows, x.read column = r.read column →
      b.row? column (r.read column) = some x := by
    intro x hx hsame
    have hfilter : x ∈ b.rows.filter fun r' =>
        r'.read column = r.read column ∧ r.read column ≠ .null :=
      List.mem_filter.2 ⟨hx, by simpa using ⟨hsame, hnull⟩⟩
    rw [(h.at _).filter_eq] at hfilter
    exact Option.mem_toList.1 hfilter
  exact Option.some.inj ((hmem r hr rfl).symm.trans (hmem r' hr' hread.symm))

namespace Frame

variable (F : Functions)

theorem envs_filter (frame : Frame) (condition : Option Expr) :
    (frame.filter F condition).envs =
      frame.envs.filter fun env => condition.all fun e => (e.value F [env]).holds := by
  cases condition with
  | none => simp [filter]
  | some e => rfl

/-- A left join puts a `row` behind each row that it keeps. -/
theorem exists_of_mem_leftJoin {frame : Frame} {qualifier : Option String} {b : Bag}
    {matching : Expr} {env : Env} (h : env ∈ (frame.leftJoin F qualifier b matching).envs) :
    ∃ first ∈ frame.envs, ∃ row, env = first ++ [(qualifier, row)] := by
  rcases List.mem_flatMap.1 h with ⟨first, hfirst, henv⟩
  rcases List.mem_map.1 henv with ⟨row, -, rfl⟩
  exact ⟨first, hfirst, row, rfl⟩

/-- A left join whose condition asks for the value `key env` in `column`, which only one row of `b`
has, puts the row that `follow` leads to behind every row. -/
theorem envs_leftJoin {frame : Frame} {qualifier : Option String} {b : Bag} {matching : Expr}
    {column : String} (key : Env → Value)
    (hunique : ∀ env ∈ frame.envs, b.UniqueAt column (key env))
    (hmatch : ∀ env ∈ frame.envs, ∀ r, (matching.value F [env ++ [(qualifier, r)]]).holds =
      decide (r.read column = key env ∧ key env ≠ .null)) :
    (frame.leftJoin F qualifier b matching).envs =
      frame.envs.map fun env => env ++ [(qualifier, b.follow column (key env))] := by
  rw [← List.flatMap_pure_eq_map, leftJoin]
  refine List.flatMap_congr fun env henv => ?_
  -- what is found is one row or none, and the missing row stands in for none
  have hfound : (b.rows.filter fun r => (matching.value F [env ++ [(qualifier, r)]]).holds) =
      (b.row? column (key env)).toList := by
    rw [← (hunique env henv).filter_eq]
    exact List.filter_congr fun r _ => hmatch env henv r
  simp only [hfound, Function.comp_apply, Bag.follow]
  cases b.row? column (key env) with
  | none => rfl
  | some r => rfl

end Frame

/-! ## Any number of joins -/

/-- A query whose rows are joined under `label`, by a column, to the id of a record. -/
structure KeyJoin where
  label : String
  query : Query
  column : String
deriving Inhabited

namespace KeyJoin

/-- The join to the record in the source `base`, whose id is in the column `id`. -/
def join (k : KeyJoin) (base id : String) : Join Query :=
  ⟨.derivedAs k.query k.label, (Expr.of k.label k.column).equals (.of base id)⟩

variable (F : Functions) (db : Database)

/-- The row joined to the record whose id is `v`. -/
def row (k : KeyJoin) (v : Value) : Row := (k.query.run F db).follow k.column v

variable {F db} {base : String}

/-- One join by `k` puts one row behind every record: the one that its id leads to. -/
theorem envs_leftJoin (id : String) {k : KeyJoin} {frame : Frame} {rows : List Row}
    {tail : Row → Env}
    (hunique : ∀ r ∈ rows, (k.query.run F db).UniqueAt k.column (r.read id))
    (hbase : k.label ≠ base)
    (hframe : frame.envs = rows.map fun r => (some base, r) :: tail r)
    (htail : ∀ r, some k.label ∉ (tail r).map (·.1)) :
    (frame.leftJoin F (some k.label) (k.query.run F db) (k.join base id).matching).envs =
      rows.map fun r =>
        (some base, r) :: (tail r ++ [(some k.label, k.row F db (r.read id))]) := by
  rw [Frame.envs_leftJoin F fun env => (env.row base).read id, hframe, List.map_map]
  · refine List.map_congr_left fun r _ => ?_
    rw [Function.comp_apply, Env.row_cons, if_pos rfl]
    rfl
  · intro env henv
    rw [hframe] at henv
    rcases List.mem_map.1 henv with ⟨r, hr, rfl⟩
    rw [Env.row_cons, if_pos rfl]
    exact hunique r hr
  · intro env henv r'
    rw [hframe] at henv
    rcases List.mem_map.1 henv with ⟨r, -, rfl⟩
    have hbase' : some base ≠ some k.label := fun h => hbase (Option.some.inj h).symm
    rw [join, List.cons_append, Expr.value_equals, Value.holds_equals, Expr.value_of,
      Expr.value_of, Env.row_cons, if_neg hbase', Env.row_append (htail r), Env.row_cons,
      if_pos rfl, Env.row_cons, if_pos rfl, Env.row_cons, if_pos rfl]
    -- the two sides are the same, so one is missing if the other is
    exact decide_eq_decide.2 (and_congr_right fun h => by rw [h])

/-- Any number of joins `ks` put one row each behind every record, in the order of the joins. -/
theorem envs_runJoins (id : String) {ks : List KeyJoin} {frame : Frame} {rows : List Row}
    {tail : Row → Env}
    (hunique : ∀ k ∈ ks, ∀ r ∈ rows, (k.query.run F db).UniqueAt k.column (r.read id))
    (hlabels : (base :: ks.map (·.label)).Nodup)
    (hframe : frame.envs = rows.map fun r => (some base, r) :: tail r)
    (htail : ∀ r, ∀ k ∈ ks, some k.label ∉ (tail r).map (·.1)) :
    (Query.runJoins F db (ks.map (·.join base id)) frame).envs =
      rows.map fun r =>
        (some base, r) ::
          (tail r ++ ks.map fun k => (some k.label, k.row F db (r.read id))) := by
  -- each join lengthens the rows behind the record, so the induction is over every tail
  induction ks generalizing frame tail with
  | nil => simpa [Query.runJoins] using hframe
  | cons k ks ih =>
      rw [List.map_cons, List.nodup_cons, List.mem_cons, not_or, List.nodup_cons] at hlabels
      rcases hlabels with ⟨⟨hbase, hbases⟩, hlabel, hlabels⟩
      have hfirst := envs_leftJoin id (hunique k List.mem_cons_self) (Ne.symm hbase) hframe
        fun r => htail r k List.mem_cons_self
      have hrest := ih (fun k' hk' => hunique k' (List.mem_cons_of_mem k hk'))
        (List.nodup_cons.2 ⟨hbases, hlabels⟩) hfirst
        (by
          intro r k' hk' hin
          rw [List.map_append, List.mem_append] at hin
          rcases hin with hin | hin
          · exact htail r k' (List.mem_cons_of_mem k hk') hin
          · have hsame : k'.label = k.label := by simpa using hin
            exact hlabel (hsame ▸ List.mem_map_of_mem hk'))
      rw [List.map_cons]
      refine hrest.trans (List.map_congr_left fun r _ => ?_)
      rw [List.append_assoc]
      rfl

end KeyJoin

/-! ## Queries that are read from -/

namespace Query

/-- A query `p` that is joined is read from, and so is what `p` reads from. -/
theorem subqueries_of_join {q : Query} {join : Join Query} (h : join ∈ q.joins) {p : Query}
    {label : String} (htarget : join.target = .derivedAs p label) :
    ∀ p' ∈ p :: p.subqueries, p' ∈ q.subqueries := by
  intro p' hp'
  have hjoins : ∀ joins : List (Join Query), join ∈ joins → p' ∈ joinSubqueries joins := by
    intro joins hmem
    -- the join may stand at any place of the list
    induction joins with
    | nil => cases hmem
    | cons first joins ih =>
        rcases first with ⟨target, matching⟩
        rw [joinSubqueries, List.mem_append]
        rcases List.mem_cons.1 hmem with rfl | hmem
        · refine .inl ?_
          rw [show target = .derivedAs p label from htarget]
          exact hp'
        · exact .inr (ih hmem)
  cases q
  exact List.mem_append_right _ (hjoins _ h)

end Query

end LinkedRecords.Sql
