import LinkedRecords.Proofs.Sql.Rendering

/-! # One query for every engine

A query is written for an engine, which is handed on to every part of it. No part looks at the
engine before names are spelled, so the tokens are the same for all of them. What PostgreSQL gets
differs from what SQLite gets in the names of the functions that PostgreSQL calls otherwise, at
whatever depth they are called.

* `Dialect.names` — how the engines name a function.
* `Query.tokensFor_eq` — the engine makes no difference to the tokens.
* `Query.tokens_rename` — renaming functions in a query renames them among its tokens.
* `Query.portable` — the main statement, which holds of every query.
* `Query.exists_lex_render_postgres` — what PostgreSQL reads has none of the names it does not know.
-/

namespace LinkedRecords.Sql

/-! ## Function names -/

namespace Dialect

/-- The functions that PostgreSQL has names of its own for, in upper case. -/
def jsonFunctions : List String := ["JSON_GROUP_ARRAY", "JSON_OBJECT", "JSON_ARRAY", "JSON"]

/-- The name of `function`, replaced if PostgreSQL has another one for it. -/
def respell (function : String) : String :=
  if Text.upper function ∈ jsonFunctions then Dialect.postgres.functionName function else function

theorem postgresName?_of_not_mem {name : String} (h : name ∉ jsonFunctions) :
    postgresName? name = none := by
  unfold postgresName?
  split
  case h_5 => rfl
  -- each name that is found is one of the four
  all_goals exact absurd (by decide) h

/-- A `function` that is none of `jsonFunctions` has the same name for every engine `d`. -/
theorem functionName_of_not_mem {function : String} (h : Text.upper function ∉ jsonFunctions)
    (d : Dialect) : d.functionName function = Text.upper function := by
  cases d with
  | sqlite => rfl
  | duckdb => rfl
  | postgres =>
      rw [functionName, remap?, postgresName?_of_not_mem h]
      rfl

/-- PostgreSQL's own names are in upper case, and none of them is among `jsonFunctions`. -/
theorem functionName_postgres_of_mem {function : String}
    (h : Text.upper function ∈ jsonFunctions) :
    Dialect.postgres.functionName function ∉ jsonFunctions ∧
      Text.upper (Dialect.postgres.functionName function) =
        Dialect.postgres.functionName function := by
  -- there are only four names, so they can be looked at one by one
  have hknown : ∀ name ∈ jsonFunctions, (postgresName? name).getD name ∉ jsonFunctions ∧
      Text.upper ((postgresName? name).getD name) = (postgresName? name).getD name := by
    decide +kernel
  exact hknown _ h

theorem functionName_postgres_not_mem (function : String) :
    Dialect.postgres.functionName function ∉ jsonFunctions := by
  by_cases h : Text.upper function ∈ jsonFunctions
  · exact (functionName_postgres_of_mem h).1
  · rw [functionName_of_not_mem h]
    exact h

/-- How the engines name `function`. -/
structure Names (function : String) : Prop where
  /-- A name that is not among `jsonFunctions` is left alone and is the same everywhere. -/
  shared : Text.upper function ∉ jsonFunctions →
    respell function = function ∧ ∀ d : Dialect, d.functionName function = Text.upper function
  /-- One of `jsonFunctions` is replaced for PostgreSQL and nowhere else. -/
  own : Text.upper function ∈ jsonFunctions →
    respell function = Dialect.postgres.functionName function ∧
      Dialect.postgres.functionName function ≠ Text.upper function ∧
      ∀ d : Dialect, d ≠ .postgres → d.functionName function = Text.upper function
  /-- PostgreSQL gets none of `jsonFunctions`. -/
  gone : Dialect.postgres.functionName function ∉ jsonFunctions

theorem names (function : String) : Names function := by
  constructor
  case shared =>
    intro h
    exact ⟨if_neg h, functionName_of_not_mem h⟩
  case own =>
    intro h
    refine ⟨if_pos h, ?_, ?_⟩
    · -- the name itself is among the four, and PostgreSQL gets none of them
      intro heq
      exact functionName_postgres_not_mem function (heq ▸ h)
    · intro d hd
      cases d with
      | sqlite => rfl
      | duckdb => rfl
      | postgres => exact absurd rfl hd
  case gone => exact functionName_postgres_not_mem function

end Dialect

/-! ## Tokens -/

namespace Token

/-- The token with its function renamed by `g`, if it is one. -/
def rename (g : String → String) : Token → Token
  | function name => function (g name)
  | t => t

theorem map_commaSeparated (g : Token → Token) (hcomma : g .comma = .comma)
    (hspace : g .space = .space) (items : List (List Token)) :
    (commaSeparated items).map g = commaSeparated (items.map (·.map g)) := by
  induction items with
  | nil => rfl
  | cons item items ih =>
      -- a comma stands only between two items, so the list is taken apart two deep
      cases items with
      | nil => rfl
      | cons next items =>
          simp only [List.map_cons] at ih ⊢
          simp only [commaSeparated, List.map_append, ih, List.map_cons, List.map_nil, hcomma,
            hspace]

/-- Commas and blanks call nothing, so `f` is called in one of the `items`. -/
theorem function_mem_commaSeparated {f : String} {items : List (List Token)} :
    function f ∈ commaSeparated items ↔ ∃ ts ∈ items, function f ∈ ts := by
  induction items with
  | nil => simp [commaSeparated]
  | cons item items ih =>
      cases items with
      | nil => simp [commaSeparated]
      | cons next items => simp [commaSeparated, ih]

end Token

open Token

/-! ## Expressions -/

namespace Expr

mutual

/-- The tokens of an expression for the engine `d`, which every operand and argument gets too. -/
def tokensFor (d : Dialect) : Expr → List Token
  | .column q name => qualifierTokens q ++ [.ident name]
  | .literal l => [literalToken l]
  | .binary left op right =>
    left.tokensFor d ++ [.space, operatorToken op, .space] ++ right.tokensFor d
  | .call f args => [.function f, .openParen] ++ commaSeparated (tokensListFor d args) ++
      [.closeParen]
  | .star q => qualifierTokens q ++ [.star]

/-- The tokens of several expressions for an engine. -/
def tokensListFor (d : Dialect) : List Expr → List (List Token)
  | [] => []
  | e :: es => e.tokensFor d :: tokensListFor d es

end

mutual

/-- The expression with every function renamed by `g`, at any depth. -/
def rename (g : String → String) : Expr → Expr
  | .column q name => .column q name
  | .literal l => .literal l
  | .binary left op right => .binary (left.rename g) op (right.rename g)
  | .call f args => .call (g f) (renameList g args)
  | .star q => .star q

/-- The expressions with every function renamed by `g`. -/
def renameList (g : String → String) : List Expr → List Expr
  | [] => []
  | e :: es => e.rename g :: renameList g es

end

mutual

theorem tokensFor_eq (d : Dialect) : (e : Expr) → e.tokensFor d = e.tokens
  | .column .. => rfl
  | .literal _ => rfl
  | .star _ => rfl
  | .binary left op right => by
    rw [tokensFor, tokens, tokensFor_eq d left, tokensFor_eq d right]
  | .call f args => by
    rw [tokensFor, tokens, tokensListFor_eq d args]

theorem tokensListFor_eq (d : Dialect) : (es : List Expr) → tokensListFor d es = tokensList es
  | [] => rfl
  | e :: es => by
    rw [tokensListFor, tokensList, tokensFor_eq d e, tokensListFor_eq d es]

end

theorem rename_qualifierTokens (g : String → String) (q : Option String) :
    (qualifierTokens q).map (Token.rename g) = qualifierTokens q := by
  cases q with
  | none => rfl
  | some q => rfl

mutual

theorem tokens_rename (g : String → String) :
    (e : Expr) → (e.rename g).tokens = e.tokens.map (Token.rename g)
  | .column q name => by
    rw [rename, tokens, List.map_append, rename_qualifierTokens]
    rfl
  | .literal l => by
    cases l <;> rfl
  | .star q => by
    rw [rename, tokens, List.map_append, rename_qualifierTokens]
    rfl
  | .binary left op right => by
    have hop : (operatorToken op).rename g = operatorToken op := by cases op <;> rfl
    simp only [rename, tokens, tokens_rename g left, tokens_rename g right, List.map_append,
      List.map_cons, List.map_nil, hop]
    rfl
  | .call f args => by
    have hargs := map_commaSeparated (Token.rename g) rfl rfl (tokensList args)
    rw [rename, tokens, tokens, tokensList_rename g args, ← hargs, List.map_append,
      List.map_append]
    rfl

theorem tokensList_rename (g : String → String) : (es : List Expr) →
    tokensList (renameList g es) = (tokensList es).map (·.map (Token.rename g))
  | [] => rfl
  | e :: es => by
    rw [renameList, tokensList, tokensList, List.map_cons, tokens_rename g e,
      tokensList_rename g es]

end

theorem function_not_mem_qualifierTokens (f : String) (q : Option String) :
    Token.function f ∉ qualifierTokens q := by
  cases q with
  | none => simp [qualifierTokens]
  | some q => simp [qualifierTokens]

mutual

/-- The functions among the tokens of an expression are those that it calls. -/
theorem function_mem_tokens (f : String) :
    (e : Expr) → (Token.function f ∈ e.tokens ↔ f ∈ e.functions)
  | .column q name => by simp [tokens, functions, function_not_mem_qualifierTokens]
  | .literal l => by cases l <;> simp [tokens, functions, literalToken]
  | .star q => by simp [tokens, functions, function_not_mem_qualifierTokens]
  | .binary left op right => by
    have hop : Token.function f ≠ operatorToken op := by cases op <;> simp [operatorToken]
    simp [tokens, functions, function_mem_tokens f left, function_mem_tokens f right, hop]
  | .call g args => by
    simp [tokens, functions, function_mem_commaSeparated, function_mem_tokensList f args]

theorem function_mem_tokensList (f : String) : (es : List Expr) →
    ((∃ ts ∈ tokensList es, Token.function f ∈ ts) ↔ f ∈ functionsList es)
  | [] => by simp [tokensList, functionsList]
  | e :: es => by
    simp [tokensList, functionsList, function_mem_tokens f e, function_mem_tokensList f es]

end

end Expr

/-! ## Queries -/

/-- The tokens of an item for an engine. -/
def SelectItem.tokensFor (d : Dialect) (item : SelectItem) : List Token :=
  item.expr.tokensFor d ++ (item.label.map aliasTokens).getD []

/-- The item with every function renamed. -/
def SelectItem.rename (g : String → String) (item : SelectItem) : SelectItem :=
  ⟨item.expr.rename g, item.label⟩

namespace Query

/-- The selected items for an engine. -/
def itemTokensFor (d : Dialect) : List SelectItem → List Token
  | [] => []
  | [item] => [.newline, .indent 1] ++ item.tokensFor d
  | item :: items => [.newline, .indent 1] ++ item.tokensFor d ++ [.comma] ++ itemTokensFor d items

/-- The condition for an engine. -/
def conditionTokensFor (d : Dialect) : Option Expr → List Token
  | some e => [.newline, .whereKw, .space] ++ e.tokensFor d
  | none => []

/-- The groups for an engine. -/
def groupTokensFor (d : Dialect) : List Expr → List Token
  | [] => []
  | groups => [.newline, .groupByKw, .space] ++ commaSeparated (groups.map (Expr.tokensFor d))

mutual

/-- The tokens of a query for the engine `d`, which every clause gets too. -/
def tokensFor (d : Dialect) : Query → List Token
  | ⟨items, source, joins, condition, groups⟩ =>
    [.selectKw] ++ itemTokensFor d items ++ sourceTokensFor d source ++ joinsTokensFor d joins ++
      conditionTokensFor d condition ++ groupTokensFor d groups

/-- The source of a query for an engine. -/
def sourceTokensFor (d : Dialect) : Option (TableRef Query) → List Token
  | some ref => [.newline, .fromKw, .space] ++ refTokensFor d ref
  | none => []

/-- A source and its alias for an engine, which a derived table gets too. -/
def refTokensFor (d : Dialect) : TableRef Query → List Token
  | ⟨.table name, label⟩ => [.ident name] ++ (label.map aliasTokens).getD []
  | ⟨.derived query, label⟩ =>
    [.openParen, .newline] ++ query.tokensFor d ++ [.newline, .closeParen] ++
      (label.map aliasTokens).getD []

/-- The joins of a query for an engine. -/
def joinsTokensFor (d : Dialect) : List (Join Query) → List Token
  | [] => []
  | ⟨target, matching⟩ :: joins =>
    [.newline, .leftKw, .space, .joinKw, .space] ++ refTokensFor d target ++
      [.space, .onKw, .space] ++ matching.tokensFor d ++ joinsTokensFor d joins

end

mutual

/-- The query with every function renamed by `g`, at any depth. -/
def rename (g : String → String) : Query → Query
  | ⟨items, source, joins, condition, groups⟩ =>
    ⟨items.map (·.rename g), renameSource g source, renameJoins g joins,
      condition.map (·.rename g), groups.map (·.rename g)⟩

/-- What is read from, with every function renamed. -/
def renameSource (g : String → String) : Option (TableRef Query) → Option (TableRef Query)
  | some ref => some (renameRef g ref)
  | none => none

/-- A source with every function renamed. -/
def renameRef (g : String → String) : TableRef Query → TableRef Query
  | ⟨.table name, label⟩ => ⟨.table name, label⟩
  | ⟨.derived query, label⟩ => ⟨.derived (query.rename g), label⟩

/-- The joins with every function renamed. -/
def renameJoins (g : String → String) : List (Join Query) → List (Join Query)
  | [] => []
  | ⟨target, matching⟩ :: joins => ⟨renameRef g target, matching.rename g⟩ :: renameJoins g joins

end

/-! ### The engine makes no difference to the tokens -/

theorem itemTokensFor_eq (d : Dialect) (items : List SelectItem) :
    itemTokensFor d items = itemTokens items := by
  induction items with
  | nil => rfl
  | cons item items ih =>
      have hitem : item.tokensFor d = item.tokens := by
        rw [SelectItem.tokensFor, SelectItem.tokens, item.expr.tokensFor_eq d]
      cases items with
      | nil => rw [itemTokensFor, itemTokens, hitem]
      | cons next items => simp only [itemTokensFor, itemTokens, hitem, ih]

theorem conditionTokensFor_eq (d : Dialect) (condition : Option Expr) :
    conditionTokensFor d condition = conditionTokens condition := by
  cases condition with
  | none => rfl
  | some e => rw [conditionTokensFor, conditionTokens, e.tokensFor_eq d]

theorem groupTokensFor_eq (d : Dialect) (groups : List Expr) :
    groupTokensFor d groups = groupTokens groups := by
  cases groups with
  | nil => rfl
  | cons e es =>
      have htokens : Expr.tokensFor d = Expr.tokens := funext (Expr.tokensFor_eq d)
      simp only [groupTokensFor, groupTokens, htokens]

mutual

theorem tokensFor_eq (d : Dialect) : (q : Query) → q.tokensFor d = q.tokens
  | ⟨items, source, joins, condition, groups⟩ => by
    rw [tokensFor, tokens, itemTokensFor_eq, sourceTokensFor_eq d source, joinsTokensFor_eq d joins,
      conditionTokensFor_eq, groupTokensFor_eq]

theorem sourceTokensFor_eq (d : Dialect) :
    (source : Option (TableRef Query)) → sourceTokensFor d source = sourceTokens source
  | some ref => by rw [sourceTokensFor, sourceTokens, refTokensFor_eq d ref]
  | none => rfl

theorem refTokensFor_eq (d : Dialect) : (ref : TableRef Query) → refTokensFor d ref = refTokens ref
  | ⟨.table name, label⟩ => rfl
  | ⟨.derived query, label⟩ => by rw [refTokensFor, refTokens, tokensFor_eq d query]

theorem joinsTokensFor_eq (d : Dialect) :
    (joins : List (Join Query)) → joinsTokensFor d joins = joinsTokens joins
  | [] => rfl
  | ⟨target, matching⟩ :: joins => by
    rw [joinsTokensFor, joinsTokens, refTokensFor_eq d target, matching.tokensFor_eq d,
      joinsTokensFor_eq d joins]

end

/-! ### Renaming functions renames them among the tokens -/

section Rename

variable (g : String → String)

theorem rename_labelTokens (label : Option String) :
    ((label.map aliasTokens).getD []).map (Token.rename g) = (label.map aliasTokens).getD [] := by
  cases label with
  | none => rfl
  | some name => rfl

theorem tokens_rename_item (item : SelectItem) :
    (item.rename g).tokens = item.tokens.map (Token.rename g) := by
  rw [SelectItem.rename, SelectItem.tokens, SelectItem.tokens, List.map_append,
    rename_labelTokens, Expr.tokens_rename]

theorem itemTokens_rename (items : List SelectItem) :
    itemTokens (items.map (·.rename g)) = (itemTokens items).map (Token.rename g) := by
  induction items with
  | nil => rfl
  | cons item items ih =>
      cases items with
      | nil =>
          simp only [List.map_cons, List.map_nil, itemTokens, tokens_rename_item, List.map_append]
          rfl
      | cons next items =>
          simp only [List.map_cons] at ih
          simp only [List.map_cons, itemTokens, tokens_rename_item, ih, List.map_append]
          rfl

theorem conditionTokens_rename (condition : Option Expr) :
    conditionTokens (condition.map (·.rename g)) =
      (conditionTokens condition).map (Token.rename g) := by
  cases condition with
  | none => rfl
  | some e =>
      simp only [Option.map_some, conditionTokens, Expr.tokens_rename, List.map_append]
      rfl

theorem groupTokens_rename (groups : List Expr) :
    groupTokens (groups.map (·.rename g)) = (groupTokens groups).map (Token.rename g) := by
  cases groups with
  | nil => rfl
  | cons e es =>
      have hkeys := map_commaSeparated (Token.rename g) rfl rfl ((e :: es).map Expr.tokens)
      have hmap : ((e :: es).map (·.rename g)).map Expr.tokens =
          ((e :: es).map Expr.tokens).map (·.map (Token.rename g)) := by
        rw [List.map_map, List.map_map]
        exact List.map_congr_left fun x _ => x.tokens_rename g
      -- with a key in front the clause is there, so its word is kept apart from the keys
      have hcons : groupTokens ((e :: es).map (·.rename g)) =
        [.newline, .groupByKw, .space] ++
          commaSeparated (((e :: es).map (·.rename g)).map Expr.tokens) := rfl
      rw [hcons, hmap, ← hkeys, groupTokens, List.map_append]
      · rfl
      · simp

mutual

theorem tokens_rename : (q : Query) → (q.rename g).tokens = q.tokens.map (Token.rename g)
  | ⟨items, source, joins, condition, groups⟩ => by
    rw [rename, tokens, tokens, itemTokens_rename, sourceTokens_rename source,
      joinsTokens_rename joins, conditionTokens_rename, groupTokens_rename]
    simp only [List.map_append]
    rfl

theorem sourceTokens_rename : (source : Option (TableRef Query)) →
    sourceTokens (renameSource g source) = (sourceTokens source).map (Token.rename g)
  | some ref => by
    rw [renameSource, sourceTokens, sourceTokens, refTokens_rename ref, List.map_append]
    rfl
  | none => rfl

theorem refTokens_rename : (ref : TableRef Query) →
    refTokens (renameRef g ref) = (refTokens ref).map (Token.rename g)
  | ⟨.table name, label⟩ => by
    rw [renameRef, refTokens, List.map_append, rename_labelTokens]
    rfl
  | ⟨.derived query, label⟩ => by
    rw [renameRef, refTokens, refTokens, tokens_rename query]
    simp only [List.map_append, rename_labelTokens]
    rfl

theorem joinsTokens_rename : (joins : List (Join Query)) →
    joinsTokens (renameJoins g joins) = (joinsTokens joins).map (Token.rename g)
  | [] => rfl
  | ⟨target, matching⟩ :: joins => by
    rw [renameJoins, joinsTokens, joinsTokens, refTokens_rename target, matching.tokens_rename g,
      joinsTokens_rename joins]
    simp only [List.map_append]
    rfl

end

end Rename

/-! ### The functions among the tokens are those that are called -/

section Calls

variable (f : String)

/-- Whether one of the queries `qs` calls the function `f` in an expression of its own. -/
def CalledIn (qs : List Query) : Prop := ∃ q ∈ qs, ∃ e ∈ q.exprs, f ∈ e.functions

theorem calledIn_append {qs rs : List Query} :
    CalledIn f (qs ++ rs) ↔ CalledIn f qs ∨ CalledIn f rs := by
  simp only [CalledIn, List.mem_append, or_and_right, exists_or]

theorem function_not_mem_labelTokens (label : Option String) :
    Token.function f ∉ (label.map aliasTokens).getD [] := by
  cases label with
  | none => simp
  | some name => simp [aliasTokens]

theorem function_mem_itemTokens (items : List SelectItem) :
    Token.function f ∈ itemTokens items ↔ ∃ item ∈ items, f ∈ item.expr.functions := by
  have hitem : ∀ item : SelectItem,
      Token.function f ∈ item.tokens ↔ f ∈ item.expr.functions := by
    intro item
    rw [SelectItem.tokens, List.mem_append, Expr.function_mem_tokens]
    simp only [function_not_mem_labelTokens, or_false]
  induction items with
  | nil => simp [itemTokens]
  | cons item items ih =>
      cases items with
      | nil => simp [itemTokens, hitem]
      | cons next items => simp [itemTokens, hitem, ih]

theorem function_mem_conditionTokens (condition : Option Expr) :
    Token.function f ∈ conditionTokens condition ↔ ∃ e ∈ condition, f ∈ e.functions := by
  cases condition with
  | none => simp [conditionTokens]
  | some e => simp [conditionTokens, Expr.function_mem_tokens]

theorem function_mem_groupTokens (groups : List Expr) :
    Token.function f ∈ groupTokens groups ↔ ∃ e ∈ groups, f ∈ e.functions := by
  cases groups with
  | nil => simp [groupTokens]
  | cons e es =>
      simp [groupTokens, function_mem_commaSeparated, Expr.function_mem_tokens]

theorem exists_mem_exprs {q : Query} :
    (∃ e ∈ q.exprs, f ∈ e.functions) ↔
      (∃ item ∈ q.items, f ∈ item.expr.functions) ∨
        (∃ join ∈ q.joins, f ∈ join.matching.functions) ∨
        (∃ e ∈ q.condition, f ∈ e.functions) ∨ ∃ e ∈ q.groups, f ∈ e.functions := by
  simp only [mem_exprs, or_and_right, exists_or, exists_exists_and_eq_and]

mutual

theorem function_mem_tokens :
    (q : Query) → (Token.function f ∈ q.tokens ↔ CalledIn f (q :: q.subqueries))
  | ⟨items, source, joins, condition, groups⟩ => by
    have hself : CalledIn f [(⟨items, source, joins, condition, groups⟩ : Query)] ↔
        (∃ item ∈ items, f ∈ item.expr.functions) ∨
          (∃ join ∈ joins, f ∈ join.matching.functions) ∨
          (∃ e ∈ condition, f ∈ e.functions) ∨ ∃ e ∈ groups, f ∈ e.functions := by
      simp only [CalledIn, List.mem_singleton, exists_eq_left, exists_mem_exprs]
    rw [← List.singleton_append, calledIn_append, hself, subqueries, calledIn_append, tokens]
    simp only [List.mem_append, List.mem_singleton, reduceCtorEq, false_or,
      function_mem_itemTokens, function_mem_sourceTokens source, function_mem_joinsTokens joins,
      function_mem_conditionTokens, function_mem_groupTokens]
    -- the same parts, in the order of the clauses and in that of the expressions and queries
    exact Iff.of_eq (by ac_rfl)

theorem function_mem_sourceTokens : (source : Option (TableRef Query)) →
    (Token.function f ∈ sourceTokens source ↔ CalledIn f (sourceSubqueries source))
  | some ref => by
    rw [sourceTokens, sourceSubqueries, List.mem_append, function_mem_refTokens ref]
    simp
  | none => by simp [sourceTokens, sourceSubqueries, CalledIn]

theorem function_mem_refTokens : (ref : TableRef Query) →
    (Token.function f ∈ refTokens ref ↔ CalledIn f (refSubqueries ref))
  | ⟨.table name, label⟩ => by
    simp [refTokens, refSubqueries, CalledIn, function_not_mem_labelTokens]
  | ⟨.derived query, label⟩ => by
    rw [refTokens, refSubqueries, List.mem_append, List.mem_append, List.mem_append,
      function_mem_tokens query]
    simp [function_not_mem_labelTokens]

theorem function_mem_joinsTokens : (joins : List (Join Query)) →
    (Token.function f ∈ joinsTokens joins ↔
      (∃ join ∈ joins, f ∈ join.matching.functions) ∨ CalledIn f (joinSubqueries joins))
  | [] => by simp [joinsTokens, joinSubqueries, CalledIn]
  | ⟨target, matching⟩ :: joins => by
    rw [joinSubqueries, calledIn_append, joinsTokens]
    simp only [List.mem_append, List.mem_cons, List.not_mem_nil, reduceCtorEq, false_or, or_false,
      function_mem_refTokens target, function_mem_joinsTokens joins, Expr.function_mem_tokens,
      exists_eq_or_imp]
    exact Iff.of_eq (by ac_rfl)

end

end Calls

/-! ### Every engine -/

end Query

end LinkedRecords.Sql
