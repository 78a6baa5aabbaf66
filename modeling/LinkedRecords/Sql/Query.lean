import LinkedRecords.Sql.Expr

/-! # Queries

A query selects items from one source and the tables left-joined to it, under a condition, by
groups. Sources may be queries themselves. Every join is a left join: what a record is linked to
may be missing, the record may not.
-/

namespace LinkedRecords.Sql

/-- One item of a selection. -/
structure SelectItem where
  expr : Expr
  label : Option String := none
deriving DecidableEq, Repr

namespace SelectItem

/-- The expression under a name. -/
def named (expr : Expr) (name : String) : SelectItem := ⟨expr, some name⟩

/-- The name of the column that the item yields: its alias, or else the name of a plain column. -/
def outputName? (item : SelectItem) : Option String :=
  match item.label, item.expr with
  | some name, _ => some name
  | none, .column _ name => some name
  | none, _ => none

/-- The tokens of an item. -/
def tokens (item : SelectItem) : List Token :=
  item.expr.tokens ++ (item.label.map Token.aliasTokens).getD []

end SelectItem

/-- What rows are read from: a table, or a query of type `Q`. -/
inductive Source (Q : Type) where
  | table (name : String)
  | derived (query : Q)
deriving DecidableEq, Repr

/-- A source and the alias that it is read under. -/
structure TableRef (Q : Type) where
  source : Source Q
  label : Option String := none
deriving DecidableEq, Repr

namespace TableRef

variable {Q : Type}

/-- A table under its own name. -/
def table (name : String) : TableRef Q := ⟨.table name, none⟩

/-- A table under an alias. -/
def tableAs (name label : String) : TableRef Q := ⟨.table name, some label⟩

/-- A derived table. -/
def derivedAs (query : Q) (label : String) : TableRef Q := ⟨.derived query, some label⟩

/-- The name that columns are qualified with: the alias, or else the name of the table. -/
def qualifier? (ref : TableRef Q) : Option String :=
  match ref.label, ref.source with
  | some name, _ => some name
  | none, .table name => some name
  | none, .derived _ => none

end TableRef

/-- A left join and its condition. -/
structure Join (Q : Type) where
  target : TableRef Q
  matching : Expr
deriving DecidableEq, Repr

/-- A query. -/
structure Query where
  items : List SelectItem := []
  source : Option (TableRef Query) := none
  joins : List (Join Query) := []
  condition : Option Expr := none
  groups : List Expr := []
deriving Repr, Inhabited

namespace Query

/-! ## Equality -/

mutual

/-- Equality of queries is decided by structure. -/
def decEq : (a b : Query) → Decidable (a = b)
  | ⟨i, s, j, c, g⟩, ⟨i', s', j', c', g'⟩ =>
    match decEqSource s s', decEqJoins j j' with
    | .isTrue hs, .isTrue hj => decidable_of_iff (i = i' ∧ c = c' ∧ g = g') (by simp [hs, hj])
    | .isFalse h, _ => .isFalse (by simp [h])
    | _, .isFalse h => .isFalse (by simp [h])
termination_by structural a => a

/-- Equality of what is read from, if anything is. -/
def decEqSource : (a b : Option (TableRef Query)) → Decidable (a = b)
  | none, none => .isTrue rfl
  | none, some _ => .isFalse (by simp)
  | some _, none => .isFalse (by simp)
  | some r, some r' =>
    match decEqRef r r' with
    | .isTrue h => .isTrue (by rw [h])
    | .isFalse h => .isFalse (by simp [h])
termination_by structural a => a

/-- Equality of aliased sources. -/
def decEqRef : (a b : TableRef Query) → Decidable (a = b)
  | ⟨.table n, a⟩, ⟨.table m, b⟩ => decidable_of_iff (n = m ∧ a = b) (by simp)
  | ⟨.derived p, a⟩, ⟨.derived q, b⟩ =>
    match decEq p q with
    | .isTrue h => decidable_of_iff (a = b) (by simp [h])
    | .isFalse h => .isFalse (by simp [h])
  | ⟨.table _, _⟩, ⟨.derived _, _⟩ => .isFalse (by simp)
  | ⟨.derived _, _⟩, ⟨.table _, _⟩ => .isFalse (by simp)
termination_by structural a => a

/-- Equality of lists of joins. -/
def decEqJoins : (a b : List (Join Query)) → Decidable (a = b)
  | [], [] => .isTrue rfl
  | [], _ :: _ => .isFalse (by simp)
  | _ :: _, [] => .isFalse (by simp)
  | ⟨r, o⟩ :: js, ⟨r', o'⟩ :: js' =>
    match decEqRef r r', decEqJoins js js' with
    | .isTrue h, .isTrue k => decidable_of_iff (o = o') (by simp [h, k])
    | .isFalse h, _ => .isFalse (by simp [h])
    | _, .isFalse h => .isFalse (by simp [h])
termination_by structural a => a

end

instance : DecidableEq Query := decEq

/-! ## Building -/

/-- The query that selects these items instead. -/
def select (q : Query) (items : List SelectItem) : Query := { q with items }

/-- The query that selects every column of one source instead. -/
def selectAll (q : Query) (qualifier : String) : Query :=
  { q with items := [⟨.star (some qualifier), none⟩] }

/-- The query that reads from this source instead. -/
def readFrom (q : Query) (ref : TableRef Query) : Query := { q with source := some ref }

/-- The query with one more left join. -/
def leftJoin (q : Query) (target : TableRef Query) (matching : Expr) : Query :=
  { q with joins := q.joins ++ [⟨target, matching⟩] }

/-- The query under one more condition. -/
def filter (q : Query) (condition : Expr) : Query :=
  match q.condition with
  | some existing => { q with condition := some (existing.and condition) }
  | none => { q with condition := some condition }

/-- The query grouped by these expressions instead. -/
def groupBy (q : Query) (groups : List Expr) : Query := { q with groups }

/-- The query that selects one more item. -/
def addItem (q : Query) (item : SelectItem) : Query := { q with items := q.items ++ [item] }

/-- The query with one more join. -/
def addJoin (q : Query) (join : Join Query) : Query := { q with joins := q.joins ++ [join] }

/-- The query grouped by one more expression, unless it groups by it already. -/
def addGroup (q : Query) (e : Expr) : Query :=
  if e ∈ q.groups then q else { q with groups := q.groups ++ [e] }

/-! ## Tokens -/

/-- The selected items, each on a line of its own. -/
def itemTokens : List SelectItem → List Token
  | [] => []
  | [item] => [.newline, .indent 1] ++ item.tokens
  | item :: items => [.newline, .indent 1] ++ item.tokens ++ [.comma] ++ itemTokens items

/-- The condition, on a line of its own. -/
def conditionTokens : Option Expr → List Token
  | some e => [.newline, .whereKw, .space] ++ e.tokens
  | none => []

/-- The groups, on a line of their own. -/
def groupTokens : List Expr → List Token
  | [] => []
  | groups => [.newline, .groupByKw, .space] ++ Token.commaSeparated (groups.map Expr.tokens)

mutual

/-- The tokens of a query, one clause to a line. -/
def tokens : Query → List Token
  | ⟨items, source, joins, condition, groups⟩ =>
    [.selectKw] ++ itemTokens items ++ sourceTokens source ++ joinsTokens joins ++
      conditionTokens condition ++ groupTokens groups

/-- The source of a query, on a line of its own. -/
def sourceTokens : Option (TableRef Query) → List Token
  | some ref => [.newline, .fromKw, .space] ++ refTokens ref
  | none => []

/-- A source and its alias; a derived table stands in parentheses on lines of its own. -/
def refTokens : TableRef Query → List Token
  | ⟨.table name, label⟩ => [.ident name] ++ (label.map Token.aliasTokens).getD []
  | ⟨.derived query, label⟩ =>
    [.openParen, .newline] ++ query.tokens ++ [.newline, .closeParen] ++
      (label.map Token.aliasTokens).getD []

/-- The joins of a query, each on a line of its own. -/
def joinsTokens : List (Join Query) → List Token
  | [] => []
  | ⟨target, matching⟩ :: joins =>
    [.newline, .leftKw, .space, .joinKw, .space] ++ refTokens target ++
      [.space, .onKw, .space] ++ matching.tokens ++ joinsTokens joins

end

/-- The query in an engine's SQL. -/
def render (d : Dialect) (q : Query) : String :=
  Token.render d q.tokens

end Query

end LinkedRecords.Sql
