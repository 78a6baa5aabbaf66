import LinkedRecords.Proofs.Sql.Lexing
import LinkedRecords.Proofs.Sql.Scoping

/-! # Rendered queries are read back

Whatever names and strings a query holds, its text is read as the tokens that it was made of. Each
part of a query is written so that punctuation or white space stands between any two tokens that are
neither, so no quoted text runs into the next.

* `Token.Readable` — tokens that can be read back; `Readable.append_cons` joins two such lists.
* `Expr.readable_tokens`, `Query.readable_tokens` — by mutual recursion over expressions and
  queries.
* `Query.lex_render` — the main statement: the text of a query is read as its tokens.
-/

namespace LinkedRecords.Sql

/-! ## Functions -/

namespace Expr

mutual

/-- The functions that an expression calls. -/
def functions : Expr → List String
  | .column .. | .literal _ | .star _ => []
  | .binary left _ right => left.functions ++ right.functions
  | .call function args => function :: functionsList args

/-- The functions that several expressions call. -/
def functionsList : List Expr → List String
  | [] => []
  | e :: es => e.functions ++ functionsList es

end

end Expr

/-- The functions called by `q` and by every query that it reads from, at any depth. -/
def Query.functions (q : Query) : List String :=
  (q :: q.subqueries).flatMap fun p => p.exprs.flatMap (·.functions)

/-! ## Lists of tokens -/

namespace Token

/-- Whether the tokens `ts` can be read back from their text. -/
structure Readable (ts : List Token) : Prop where
  apart : Apart ts
  named : Named ts

/-- Whether `ts` starts with punctuation or white space, if with anything. -/
def Led (ts : List Token) : Prop := ∀ t ∈ ts.head?, t.separates = true

theorem led_nil : Led [] := by
  intro t ht
  cases ht

theorem led_cons {t : Token} (h : t.separates = true) (ts : List Token) : Led (t :: ts) := by
  intro u hu
  obtain rfl := Option.some.inj hu
  exact h

namespace Readable

variable {ts us : List Token} {t : Token}

theorem nil : Readable [] := by
  constructor
  · exact .nil
  · intro name hname
    cases hname

theorem singleton (h : ∀ name, t = function name → isWord name = true) : Readable [t] := by
  constructor
  · exact .singleton t
  · intro name hname
    exact h name (List.mem_singleton.1 hname).symm

/-- If `ts` and `us` are readable, so are both together, where `us` starts with punctuation or white
space. -/
theorem append (hts : Readable ts) (hus : Readable us) (hled : Led us) : Readable (ts ++ us) := by
  constructor
  · rw [Apart, List.isChain_append]
    -- where the two lists meet, the second starts with something that separates
    refine ⟨hts.apart, hus.apart, ?_⟩
    intro t _ u hu
    exact .inr (hled u hu)
  · intro name hname
    rcases List.mem_append.1 hname with hname | hname
    · exact hts.named name hname
    · exact hus.named name hname

/-- If `ts` is readable, it still is behind a token `t` of punctuation or white space. -/
theorem cons (h : t.separates = true) (hts : Readable ts) : Readable (t :: ts) := by
  constructor
  · rw [Apart, List.isChain_cons]
    refine ⟨?_, hts.apart⟩
    intro u _
    exact .inl h
  · intro name hname
    rcases List.mem_cons.1 hname with rfl | hname
    · cases h
    · exact hts.named name hname

/-- A token `t` of punctuation or white space keeps apart what stands before it and behind it. -/
theorem append_cons (hts : Readable ts) (h : t.separates = true) (hus : Readable us) :
    Readable (ts ++ t :: us) := hts.append (hus.cons h) (led_cons h us)

theorem commaSeparated {items : List (List Token)} (h : ∀ ts ∈ items, Readable ts) :
    Readable (commaSeparated items) := by
  induction items with
  | nil => exact nil
  | cons item items ih =>
      have hitem : Readable item := h item List.mem_cons_self
      have hrest : Readable (Token.commaSeparated items) := by
        apply ih
        intro ts hts
        exact h ts (List.mem_cons_of_mem item hts)
      -- a comma and a blank stand between an item and the next one
      cases items with
      | nil => exact hitem
      | cons next items =>
          rw [Token.commaSeparated, List.append_assoc]
          · exact hitem.append_cons rfl (hrest.cons rfl)
          · intro hnil
            cases hnil

/-- The alias of a source or an item stands behind white space, so `ts` stays readable in front of
it. -/
theorem label (hts : Readable ts) (label : Option String) :
    Readable (ts ++ (label.map aliasTokens).getD []) := by
  cases label with
  | none =>
      rw [Option.map_none, Option.getD_none, List.append_nil]
      exact hts
  | some name =>
      have has : Readable [.asKw] := singleton (by simp)
      have hname : Readable [.ident name] := singleton (by simp)
      have halias : Readable (.asKw :: .space :: [.ident name]) := has.append_cons rfl hname
      exact hts.append_cons rfl halias

end Readable

end Token

open Token

/-! ## Expressions -/

namespace Expr

theorem readable_qualifier (qualifier : Option String) {t : Token} (ht : Readable [t]) :
    Readable (qualifierTokens qualifier ++ [t]) := by
  cases qualifier with
  | none => exact ht
  | some q =>
      have hq : Readable [.ident q] := .singleton (by simp)
      exact hq.append_cons rfl ht

mutual

/-- An expression is read back if its `functions` are named by words. -/
theorem readable_tokens : (e : Expr) → (∀ f ∈ e.functions, isWord f = true) → Readable e.tokens
  | .column qualifier name, _ => by
    exact readable_qualifier qualifier (.singleton (by simp))
  | .literal l, _ => by
    apply Readable.singleton
    cases l <;> simp [literalToken]
  | .binary left op right, h => by
    have hleft : Readable left.tokens :=
      readable_tokens left fun f hf => h f (List.mem_append_left right.functions hf)
    have hright : Readable right.tokens :=
      readable_tokens right fun f hf => h f (List.mem_append_right left.functions hf)
    have hop : Readable [operatorToken op] := by
      apply Readable.singleton
      cases op <;> simp [operatorToken]
    have hrest : Readable ([operatorToken op] ++ .space :: right.tokens) :=
      hop.append_cons rfl hright
    -- the operator stands between blanks, so it runs into neither operand
    rw [tokens, List.append_assoc]
    exact hleft.append_cons rfl hrest
  | .call name args, h => by
    have hfunction : Readable [.function name] := by
      apply Readable.singleton
      rintro name' heq
      cases heq
      exact h name List.mem_cons_self
    have hargs : ∀ ts ∈ tokensList args, Readable ts :=
      readable_tokensList args fun f hf => h f (List.mem_cons_of_mem name hf)
    have hinner : Readable (commaSeparated (tokensList args) ++ .closeParen :: []) :=
      (Readable.commaSeparated hargs).append_cons rfl .nil
    rw [tokens, List.append_assoc]
    exact hfunction.append_cons rfl hinner
  | .star qualifier, _ => by
    exact readable_qualifier qualifier (.singleton (by simp))

theorem readable_tokensList : (es : List Expr) → (∀ f ∈ functionsList es, isWord f = true) →
    ∀ ts ∈ tokensList es, Readable ts
  | [], _ => by
    intro ts hts
    cases hts
  | e :: es, h => by
    intro ts hts
    rcases List.mem_cons.1 hts with rfl | hts
    · exact readable_tokens e fun f hf => h f (List.mem_append_left (functionsList es) hf)
    · exact readable_tokensList es (fun f hf => h f (List.mem_append_right e.functions hf)) ts hts

end

end Expr

/-! ## Queries -/

namespace Query

/-- Whether the functions that the queries `qs` call are named by words. -/
def Worded (qs : List Query) : Prop :=
  ∀ p ∈ qs, ∀ e ∈ p.exprs, ∀ f ∈ e.functions, isWord f = true

theorem readable_itemTokens {items : List SelectItem}
    (h : ∀ item ∈ items, Readable item.expr.tokens) : Readable (itemTokens items) := by
  induction items with
  | nil => exact .nil
  | cons item items ih =>
      have hitem : Readable item.tokens := (h item List.mem_cons_self).label item.label
      have hindent : Readable (.newline :: .indent 1 :: item.tokens) := (hitem.cons rfl).cons rfl
      have hrest : Readable (itemTokens items) := by
        apply ih
        intro x hx
        exact h x (List.mem_cons_of_mem item hx)
      -- each item starts a line, and the comma behind it belongs to the item
      cases items with
      | nil => exact hindent
      | cons next items =>
          rw [itemTokens, List.append_assoc]
          · exact hindent.append_cons rfl hrest
          · intro hnil
            cases hnil

theorem led_itemTokens (items : List SelectItem) : Led (itemTokens items) := by
  cases items with
  | nil => exact led_nil
  | cons item items =>
      cases items with
      | nil => exact led_cons rfl _
      | cons next items => exact led_cons rfl _

theorem readable_conditionTokens {condition : Option Expr}
    (h : ∀ e ∈ condition, Readable e.tokens) : Readable (conditionTokens condition) := by
  cases condition with
  | none => exact .nil
  | some e =>
      have hword : Readable [.whereKw] := .singleton (by simp)
      exact (hword.append_cons rfl (h e rfl)).cons rfl

theorem led_conditionTokens (condition : Option Expr) : Led (conditionTokens condition) := by
  cases condition with
  | none => exact led_nil
  | some e => exact led_cons rfl _

theorem readable_groupTokens {groups : List Expr} (h : ∀ e ∈ groups, Readable e.tokens) :
    Readable (groupTokens groups) := by
  cases groups with
  | nil => exact .nil
  | cons e es =>
      have hword : Readable [.groupByKw] := .singleton (by simp)
      have hkeys : Readable (commaSeparated ((e :: es).map Expr.tokens)) := by
        apply Readable.commaSeparated
        intro ts hts
        rcases List.mem_map.1 hts with ⟨key, hkey, rfl⟩
        exact h key hkey
      exact (hword.append_cons rfl hkeys).cons rfl

theorem led_groupTokens (groups : List Expr) : Led (groupTokens groups) := by
  cases groups with
  | nil => exact led_nil
  | cons e es => exact led_cons rfl _

theorem led_sourceTokens (source : Option (TableRef Query)) : Led (sourceTokens source) := by
  cases source with
  | none => exact led_nil
  | some ref => exact led_cons rfl _

theorem led_joinsTokens (joins : List (Join Query)) : Led (joinsTokens joins) := by
  cases joins with
  | nil => exact led_nil
  | cons join joins => exact led_cons rfl _

mutual

/-- A query is read back if its functions are named by words, and so are those of its
`subqueries`. -/
theorem readable_tokens : (q : Query) → Worded (q :: q.subqueries) → Readable q.tokens
  | ⟨items, source, joins, condition, groups⟩, h => by
    have hexpr : ∀ e ∈ exprs ⟨items, source, joins, condition, groups⟩, Readable e.tokens := by
      intro e he
      exact e.readable_tokens (h _ List.mem_cons_self e he)
    have hselect : Readable [.selectKw] := .singleton (by simp)
    have hitems : Readable (itemTokens items) := by
      apply readable_itemTokens
      intro item hitem
      exact hexpr _ (mem_exprs.2 (.inl ⟨item, hitem, rfl⟩))
    have hsource : Readable (sourceTokens source) := by
      apply readable_sourceTokens source
      intro p hp
      exact h p (List.mem_cons_of_mem _ (List.mem_append_left (joinSubqueries joins) hp))
    have hjoins : Readable (joinsTokens joins) := by
      apply readable_joinsTokens joins
      · intro join hjoin
        exact hexpr _ (mem_exprs.2 (.inr (.inl ⟨join, hjoin, rfl⟩)))
      · intro p hp
        exact h p (List.mem_cons_of_mem _ (List.mem_append_right (sourceSubqueries source) hp))
    have hcondition : Readable (conditionTokens condition) := by
      apply readable_conditionTokens
      intro e he
      exact hexpr e (mem_exprs.2 (.inr (.inr (.inl he))))
    have hgroups : Readable (groupTokens groups) := by
      apply readable_groupTokens
      intro e he
      exact hexpr e (mem_exprs.2 (.inr (.inr (.inr he))))
    -- every clause that is there starts a line
    rw [tokens]
    exact ((((hselect.append hitems (led_itemTokens items)).append hsource
      (led_sourceTokens source)).append hjoins (led_joinsTokens joins)).append hcondition
        (led_conditionTokens condition)).append hgroups (led_groupTokens groups)

theorem readable_sourceTokens : (source : Option (TableRef Query)) →
    Worded (sourceSubqueries source) → Readable (sourceTokens source)
  | none, _ => .nil
  | some ref, h => by
    have hword : Readable [.fromKw] := .singleton (by simp)
    exact (hword.append_cons rfl (readable_refTokens ref h)).cons rfl

theorem readable_refTokens : (ref : TableRef Query) → Worded (refSubqueries ref) →
    Readable (refTokens ref)
  | ⟨.table name, label⟩, _ => by
    have hname : Readable [.ident name] := .singleton (by simp)
    exact hname.label label
  | ⟨.derived query, label⟩, h => by
    have hquery : Readable query.tokens := readable_tokens query h
    have hclosed : Readable (query.tokens ++ [.newline, .closeParen]) :=
      hquery.append_cons rfl (Readable.nil.cons rfl)
    have hopened :
        Readable ([.openParen, .newline] ++ query.tokens ++ [.newline, .closeParen]) := by
      rw [List.append_assoc]
      exact (hclosed.cons rfl).cons rfl
    exact hopened.label label

theorem readable_joinsTokens : (joins : List (Join Query)) →
    (∀ join ∈ joins, Readable join.matching.tokens) → Worded (joinSubqueries joins) →
    Readable (joinsTokens joins)
  | [], _, _ => .nil
  | ⟨target, matching⟩ :: joins, hmatching, h => by
    have htarget : Readable (refTokens target) := by
      apply readable_refTokens target
      intro p hp
      exact h p (List.mem_append_left (joinSubqueries joins) hp)
    have hrest : Readable (joinsTokens joins) := by
      apply readable_joinsTokens joins
      · intro join hjoin
        exact hmatching join (List.mem_cons_of_mem _ hjoin)
      · intro p hp
        exact h p (List.mem_append_right (refSubqueries target) hp)
    have hleft : Readable [.leftKw] := .singleton (by simp)
    have hjoin : Readable [.joinKw] := .singleton (by simp)
    have hon : Readable [.onKw] := .singleton (by simp)
    have hwords : Readable ([.leftKw] ++ .space :: ([.joinKw] ++ .space :: refTokens target)) :=
      hleft.append_cons rfl (hjoin.append_cons rfl htarget)
    have hcondition : Readable ([.onKw] ++ .space :: matching.tokens) :=
      hon.append_cons rfl (hmatching _ List.mem_cons_self)
    have hfirst := (hwords.cons (t := .newline) rfl).append_cons (t := .space) rfl hcondition
    have hall := hfirst.append hrest (led_joinsTokens joins)
    simpa [joinsTokens] using hall

end

/-- The text of `q` for the dialect `d` is read as the tokens of `q`, with every name and string as
it was, if its functions are named by words. -/
theorem lex_render {q : Query} (h : ∀ f ∈ q.functions, isWord f = true) (d : Dialect) :
    lex (q.render d).toList = some (q.tokens.flatMap (lexemes d)) := by
  have hworded : Worded (q :: q.subqueries) := by
    intro p hp e he f hf
    exact h f (List.mem_flatMap.2 ⟨p, hp, List.mem_flatMap.2 ⟨e, he, hf⟩⟩)
  have hreadable : Readable q.tokens := readable_tokens q hworded
  have hrender : (q.render d).toList = q.tokens.flatMap (spell d) := String.toList_ofList ..
  rw [hrender]
  exact lex_flatMap_spell d hreadable.apart hreadable.named

/-- A query whose names and strings look like SQL. -/
def awkward : Query where
  items := [.named (.jsonObject [("it's", .of "a\"b" "-- c")]) ""]
  source := some (.tableAs "\"; DROP TABLE posts" "a\"b")
  joins := [⟨.derivedAs { items := [⟨.star none, none⟩], source := some (.table "'") } "\"\"",
    (Expr.of "\"\"" "/*").equals (.int (-1))⟩]
  condition := some ((Expr.col "\n").greater (.text ""))
  groups := [.col "é", .text "'"]

/-- The names and strings of `awkward` are read as they are, and so is the rest of it. -/
theorem lex_render_awkward :
    lex (awkward.render .postgres).toList =
      some [.word "SELECT", .word "JSON_BUILD_OBJECT", .mark '(', .text "it's", .mark ',',
        .ident "a\"b", .mark '.', .ident "-- c", .mark ')', .word "AS", .ident "",
        .word "FROM", .ident "\"; DROP TABLE posts", .word "AS", .ident "a\"b",
        .word "LEFT", .word "JOIN", .mark '(', .word "SELECT", .mark '*', .word "FROM", .ident "'",
        .mark ')', .word "AS", .ident "\"\"", .word "ON", .ident "\"\"", .mark '.', .ident "/*",
        .mark '=', .int (-1), .word "WHERE", .ident "\n", .mark '>', .text "",
        .word "GROUP", .word "BY", .ident "é", .mark ',', .text "'"] := by
  have hwords : ∀ f ∈ awkward.functions, isWord f = true := by decide
  have hlexemes := lex_render hwords .postgres
  rw [hlexemes]
  rfl

end Query

end LinkedRecords.Sql
