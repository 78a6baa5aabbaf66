import LinkedRecords.Proofs.Sql.Joins
import Mathlib.Order.Fin.Basic

/-! # Rendered expressions are parsed

The tokens of an expression are parsed as SQL reads them: comparisons bind tighter than AND, and
operators of one level associate to the left. Operands are rendered without parentheses, so an
expression is parsed as it was built, up to the association of conjunctions, just if no operand of a
comparison binds weaker than the comparison does. A condition that is added to a query stands behind
an AND, where it is parsed as it is on its own.

* `Parsing.step`, `Expr.parse` — a parser with a stack of open parentheses, one token at a time.
* `Expr.passes_tokens`, `Expr.parse_tokens` — what the tokens of an expression are parsed as.
* `Expr.reassociated_parsed_iff` — an expression is parsed as it was built just if it is graded.
* `Expr.parsed_and` — behind an AND, an expression is parsed as on its own.
* `parse_rendered` — the main statement, about expressions and about the condition of a query.
-/

namespace LinkedRecords.Sql

/-! ## Phrases -/

/-- What is parsed of an expression: the conjunction `before` the last AND, if there is one, and the
comparison `last` behind it. -/
structure Phrase where
  before : Option Expr
  last : Expr

namespace Phrase

/-- The expression parsed so far. -/
def expr (p : Phrase) : Expr :=
  match p.before with
  | some before => before.and p.last
  | none => p.last

/-- The phrase `p` with one more operand `e`. A comparison takes what stands behind the last AND as
its left operand, and AND takes the whole phrase. -/
def extend (p : Phrase) (op : Operator) (e : Expr) : Phrase :=
  match op with
  | .equals => ⟨p.before, p.last.equals e⟩
  | .greater => ⟨p.before, p.last.greater e⟩
  | .and => ⟨some p.expr, e⟩

end Phrase

/-- What stands in front of an operand. -/
inductive Front where
  | nothing
  | operator (p : Phrase) (op : Operator)

/-- The phrase that the operand `e` ends. -/
def Front.add : Front → Expr → Phrase
  | nothing, e => ⟨none, e⟩
  | operator p op, e => p.extend op e

/-! ## The parser -/

/-- An open parenthesis: what stands in front of it, and the function that is called with the
arguments parsed so far, unless it only groups. -/
structure Opened where
  front : Front
  call : Option (String × List Expr)

/-- What the parenthesis `o` is once it is closed behind an expression, or behind none. -/
def Opened.close (o : Opened) (last : Option Expr) : Option Expr :=
  match o.call, last with
  | some (function, args), some e => some (.call function (args ++ [e]))
  | some (function, []), none => some (.call function [])
  | none, some e => some e
  | some (_, _ :: _), none | none, none => none

/-- The parenthesis `o` with `e` as one more argument, if it holds any. -/
def Opened.argument (o : Opened) (e : Expr) : Option Opened :=
  o.call.map fun call => ⟨o.front, some (call.1, call.2 ++ [e])⟩

/-- Where the parser is among the tokens, with what it needs to go on. -/
inductive Spot where
  | before (f : Front)
  /-- Behind a name, which may be a column or a qualifier. -/
  | named (f : Front) (name : String)
  /-- Behind a qualifier and its dot. -/
  | qualified (f : Front) (qualifier : String)
  /-- Behind the name of a function. -/
  | function (f : Front) (name : String)
  | behind (p : Phrase)

namespace Spot

/-- The phrase that ends here, if one does. -/
def phrase? : Spot → Option Phrase
  | named f name => some (f.add (.col name))
  | behind p => some p
  | before _ | qualified .. | function .. => none

/-- What may stand in front of a closing parenthesis: nothing, or an expression. -/
def last? : Spot → Option (Option Expr)
  | before .nothing => some none
  | spot => spot.phrase?.map fun p => some p.expr

end Spot

/-- A parser among the tokens, within the parentheses that are open, the innermost first. -/
structure Parsing where
  spot : Spot
  opened : List Opened

namespace Parsing

/-- A parser in front of an expression. -/
def start : Parsing := ⟨.before .nothing, []⟩

/-- The parser behind the operator `op`. -/
def operator (s : Parsing) (op : Operator) : Option Parsing :=
  s.spot.phrase?.map fun p => ⟨.before (.operator p op), s.opened⟩

/-- The parser behind one more token `t`. White space means nothing. -/
def step (s : Parsing) (t : Token) : Option Parsing :=
  match t, s.spot, s.opened with
  | .space, _, _ | .newline, _, _ | .indent _, _, _ => some s
  | .ident name, .before f, opened => some ⟨.named f name, opened⟩
  | .ident name, .qualified f q, opened => some ⟨.behind (f.add (.of q name)), opened⟩
  | .dot, .named f name, opened => some ⟨.qualified f name, opened⟩
  | .star, .before f, opened => some ⟨.behind (f.add (.star none)), opened⟩
  | .star, .qualified f q, opened => some ⟨.behind (f.add (.star (some q))), opened⟩
  | .int n, .before f, opened => some ⟨.behind (f.add (.int n)), opened⟩
  | .text v, .before f, opened => some ⟨.behind (f.add (.text v)), opened⟩
  | .null, .before f, opened => some ⟨.behind (f.add .null), opened⟩
  | .function name, .before f, opened => some ⟨.function f name, opened⟩
  | .openParen, .function f name, opened =>
    some ⟨.before .nothing, ⟨f, some (name, [])⟩ :: opened⟩
  | .openParen, .before f, opened => some ⟨.before .nothing, ⟨f, none⟩ :: opened⟩
  | .comma, spot, o :: opened => do
    let p ← spot.phrase?
    let o ← o.argument p.expr
    return ⟨.before .nothing, o :: opened⟩
  | .closeParen, spot, o :: opened => do
    let e ← o.close (← spot.last?)
    return ⟨.behind (o.front.add e), opened⟩
  | .equals, _, _ => s.operator .equals
  | .greater, _, _ => s.operator .greater
  | .andKw, _, _ => s.operator .and
  | _, _, _ => none

/-- The parser behind the tokens `ts`. -/
def run (s : Parsing) (ts : List Token) : Option Parsing := ts.foldlM step s

/-- The expression that ends here outside every parenthesis, if one does. -/
def finish (s : Parsing) : Option Expr :=
  if s.opened.isEmpty then s.spot.phrase?.map (·.expr) else none

end Parsing

/-- The expression that the tokens `ts` are parsed as, if they are one. -/
def Expr.parse (ts : List Token) : Option Expr := do
  (← Parsing.start.run ts).finish

/-- The condition that the tokens of a `WHERE` clause are parsed as, if they are one; without tokens
there is none. -/
def Query.parseCondition : List Token → Option (Option Expr)
  | [] => some none
  | .newline :: .whereKw :: ts => (Expr.parse ts).map some
  | _ => none

/-! ## What is parsed -/

namespace Expr

mutual

/-- The phrase that the tokens of an expression are parsed as behind what stands in front, a
`Front`. -/
def phrase : Expr → Front → Phrase
  | .binary left op right, f => right.phrase (.operator (left.phrase f) op)
  | .call function args, f => f.add (.call function (parsedList args))
  | .column q name, f => f.add (.column q name)
  | .literal l, f => f.add (.literal l)
  | .star q, f => f.add (.star q)

/-- What each of several expressions is parsed as. -/
def parsedList : List Expr → List Expr
  | [] => []
  | e :: es => (e.phrase .nothing).expr :: parsedList es

end

/-- What the tokens of `e` are parsed as. -/
def parsed (e : Expr) : Expr := (e.phrase .nothing).expr

end Expr

namespace Parsing

/-- Behind the tokens `ts` of an expression, the parser has its phrase and is within the same
parentheses. -/
def Passes (ts : List Token) (phrase : Front → Phrase) : Prop :=
  ∀ f opened, ∃ spot, run ⟨.before f, opened⟩ ts = some ⟨spot, opened⟩ ∧
    spot.phrase? = some (phrase f)

theorem run_append (s : Parsing) (ts us : List Token) :
    s.run (ts ++ us) = (s.run ts).bind (·.run us) :=
  List.foldlM_append

theorem run_singleton (s : Parsing) (t : Token) : s.run [t] = s.step t := by
  cases h : s.step t with
  | none | some => simp [run, h]

variable {ts us : List Token} {f : Front} {opened : List Opened} {spot : Spot} {p : Phrase}

theorem run_operator (h : spot.phrase? = some p) (op : Operator) :
    run ⟨spot, opened⟩ [.space, Expr.operatorToken op, .space] =
      some ⟨.before (.operator p op), opened⟩ := by
  cases op with
  | _ => simp [run, step, operator, Expr.operatorToken, h]

theorem step_comma (h : spot.phrase? = some p) {function : String} {args : List Expr} :
    step ⟨spot, ⟨f, some (function, args)⟩ :: opened⟩ .comma =
      some ⟨.before .nothing, ⟨f, some (function, args ++ [p.expr])⟩ :: opened⟩ := by
  simp [step, h, Opened.argument]

theorem step_closeParen (h : spot.phrase? = some p) {function : String} {args : List Expr} :
    step ⟨spot, ⟨f, some (function, args)⟩ :: opened⟩ .closeParen =
      some ⟨.behind (f.add (.call function (args ++ [p.expr]))), opened⟩ := by
  -- where a phrase ends, it ends behind a name or behind an operand
  cases spot with
  | named | behind => simp_all [step, Spot.last?, Opened.close]
  | before | qualified | function => cases h

/-- The operator `op` and what stands behind it extend the phrase in front. -/
theorem Passes.operator {left right : Front → Phrase} (hleft : Passes ts left)
    (hright : Passes us right) (op : Operator) :
    Passes (ts ++ [.space, Expr.operatorToken op, .space] ++ us)
      fun f => right (.operator (left f) op) := by
  intro f opened
  obtain ⟨spot, hrun, hspot⟩ := hleft f opened
  obtain ⟨spot', hrun', hspot'⟩ := hright (.operator (left f) op) opened
  refine ⟨spot', ?_, hspot'⟩
  rw [run_append, run_append, hrun, Option.bind_some, run_operator hspot, Option.bind_some, hrun']

end Parsing

namespace Expr

open Parsing

mutual

theorem passes_tokens : (e : Expr) → Passes e.tokens e.phrase
  | .column none name => by
    intro f opened
    -- the parser stops at the name, which a dot might follow
    exact ⟨.named f name, rfl, rfl⟩
  | .column (some q) name => by
    intro f opened
    exact ⟨.behind (f.add (.of q name)), rfl, rfl⟩
  | .literal l => by
    intro f opened
    refine ⟨.behind (f.add (.literal l)), ?_, rfl⟩
    cases l with
    | _ => rfl
  | .star none => by
    intro f opened
    exact ⟨.behind (f.add (.star none)), rfl, rfl⟩
  | .star (some q) => by
    intro f opened
    exact ⟨.behind (f.add (.star (some q))), rfl, rfl⟩
  -- the induction is on the expression, and what stands in front of it is arbitrary
  | .binary left op right => left.passes_tokens.operator right.passes_tokens op
  | .call function args => by
    intro f opened
    refine ⟨.behind (f.add (.call function (parsedList args))), ?_, rfl⟩
    rw [tokens, List.append_assoc, run_append]
    exact run_args args f opened function [] fun _ => rfl

/-- Behind the arguments `args` and the closing parenthesis stands the call, with the arguments
`done` before them. -/
theorem run_args : (args : List Expr) → (f : Front) → (opened : List Opened) →
    (function : String) → (done : List Expr) → (args = [] → done = []) →
    run ⟨.before .nothing, ⟨f, some (function, done)⟩ :: opened⟩
      (Token.commaSeparated (tokensList args) ++ [.closeParen]) =
        some ⟨.behind (f.add (.call function (done ++ parsedList args))), opened⟩
  -- a call without arguments has none in front either
  | [], f, opened, function, done, hdone => by
    rw [hdone rfl]
    rfl
  | [e], f, opened, function, done, _ => by
    obtain ⟨spot, hrun, hspot⟩ :=
      e.passes_tokens .nothing (⟨f, some (function, done)⟩ :: opened)
    rw [tokensList, tokensList, Token.commaSeparated, run_append, hrun, Option.bind_some,
      run_singleton, step_closeParen hspot]
    rfl
  | e :: e' :: es, f, opened, function, done, _ => by
    obtain ⟨spot, hrun, hspot⟩ :=
      e.passes_tokens .nothing (⟨f, some (function, done)⟩ :: opened)
    -- behind the comma, the argument is kept with those in front of it
    have hrest := run_args (e' :: es) f opened function (done ++ [e.parsed]) nofun
    have hcomma : run ⟨spot, ⟨f, some (function, done)⟩ :: opened⟩ [.comma, .space] =
        some ⟨.before .nothing, ⟨f, some (function, done ++ [e.parsed])⟩ :: opened⟩ := by
      rw [run, List.foldlM_cons, step_comma hspot]
      rfl
    have htokens : Token.commaSeparated (tokensList (e :: e' :: es)) ++ [.closeParen] =
        e.tokens ++ ([.comma, .space] ++
          (Token.commaSeparated (tokensList (e' :: es)) ++ [.closeParen])) := by
      simp [tokensList, Token.commaSeparated]
    rw [htokens, run_append, hrun, Option.bind_some, run_append, hcomma, Option.bind_some, hrest,
      parsedList, List.append_assoc]
    rfl

end

theorem parse_tokens (e : Expr) : parse e.tokens = some e.parsed := by
  obtain ⟨spot, hrun, hspot⟩ := e.passes_tokens .nothing []
  rw [parse, start, hrun]
  exact congrArg (Option.map Phrase.expr) hspot

/-! ## Association -/

/-- Whether two expressions are the same up to the association of conjunctions, at any depth. -/
inductive Reassociated : Expr → Expr → Prop where
  | assoc (a b c : Expr) : Reassociated ((a.and b).and c) (a.and (b.and c))
  | refl (a : Expr) : Reassociated a a
  | symm {a b : Expr} : Reassociated a b → Reassociated b a
  | trans {a b c : Expr} : Reassociated a b → Reassociated b c → Reassociated a c
  | binary {a a' b b' : Expr} (op : Operator) : Reassociated a a' → Reassociated b b' →
      Reassociated (.binary a op b) (.binary a' op b')
  | arg {a a' : Expr} (function : String) (before after : List Expr) : Reassociated a a' →
      Reassociated (.call function (before ++ a :: after)) (.call function (before ++ a' :: after))

/-- Whether an expression is a conjunction, which binds weaker than any comparison. -/
def isConjunction : Expr → Bool
  | .binary _ op _ => op = .and
  | .column .. | .literal _ | .call .. | .star _ => false

/-- Whether an expression is neither a comparison nor a conjunction. -/
def isOperand : Expr → Bool
  | .binary .. => false
  | .column .. | .literal _ | .call .. | .star _ => true

mutual

/-- Whether the operands of every comparison bind as they stand: the left one is no conjunction, and
the right one is neither a conjunction nor a comparison. -/
def isGraded : Expr → Bool
  | .column .. | .literal _ | .star _ => true
  | .binary left op right =>
    left.isGraded && right.isGraded && (op = .and || !left.isConjunction && right.isOperand)
  | .call _ args => isGradedList args

/-- Whether several expressions are all graded. -/
def isGradedList : List Expr → Bool
  | [] => true
  | e :: es => e.isGraded && isGradedList es

end

theorem isGradedList_append (es fs : List Expr) :
    isGradedList (es ++ fs) = (isGradedList es && isGradedList fs) := by
  induction es with
  | nil => rfl
  | cons e es ih => simp [isGradedList, ih, Bool.and_assoc]

variable {a b c : Expr}

theorem Reassociated.isOperand_eq (h : Reassociated a b) : a.isOperand = b.isOperand := by
  induction h with
  -- no step changes the operator at the top
  | assoc | refl | binary | arg => rfl
  | symm _ ih => exact ih.symm
  | trans _ _ ih ih' => exact ih.trans ih'

theorem Reassociated.isConjunction_eq (h : Reassociated a b) :
    a.isConjunction = b.isConjunction := by
  induction h with
  | assoc | refl | binary | arg => rfl
  | symm _ ih => exact ih.symm
  | trans _ _ ih ih' => exact ih.trans ih'

theorem Reassociated.isGraded_eq (h : Reassociated a b) : a.isGraded = b.isGraded := by
  induction h with
  -- conjunctions ask nothing of their operands, so their association does not matter
  | assoc a b c => simp [isGraded, Expr.and, Bool.and_assoc]
  | refl => rfl
  | symm _ ih => exact ih.symm
  | trans _ _ ih ih' => exact ih.trans ih'
  | binary op ha hb iha ihb =>
      rw [isGraded, isGraded, iha, ihb, ha.isConjunction_eq, hb.isOperand_eq]
  | arg function before after _ ih =>
      simp only [isGraded, isGradedList_append, isGradedList, ih]

theorem Reassociated.call {as bs : List Expr} (h : List.Forall₂ Reassociated as bs)
    (function : String) : Reassociated (.call function as) (.call function bs) := by
  -- one argument is exchanged after the other, so those that are done stand in front
  suffices hbehind : ∀ done, Reassociated (.call function (done ++ as))
      (.call function (done ++ bs)) by
    exact hbehind []
  induction h with
  | nil =>
      intro done
      exact .refl _
  | @cons a b as bs hab _ ih =>
      intro done
      have hrest := ih (done ++ [b])
      rw [List.append_assoc, List.append_assoc] at hrest
      exact (Reassociated.arg function done as hab).trans hrest

end Expr

/-! ## What is parsed is graded -/

theorem Expr.not_isConjunction {e : Expr} (h : e.isOperand = true) : e.isConjunction = false := by
  cases e with
  | binary => cases h
  | column | literal | call | star => rfl

/-- Whether the phrase `p` is of graded expressions and no conjunction ends it. -/
structure Phrase.Graded (p : Phrase) : Prop where
  before : ∀ e ∈ p.before, e.isGraded = true
  last : p.last.isGraded = true
  comparison : p.last.isConjunction = false

/-- Whether every graded operand behind `f` ends a graded phrase. -/
def Front.Graded (f : Front) : Prop :=
  ∀ e : Expr, e.isGraded = true → e.isOperand = true → (f.add e).Graded

theorem Front.Graded.nothing : Front.nothing.Graded := by
  intro e he hoperand
  exact ⟨nofun, he, Expr.not_isConjunction hoperand⟩

namespace Phrase.Graded

variable {p : Phrase}

theorem expr (h : p.Graded) : p.expr.isGraded = true := by
  rcases p with ⟨_ | before, last⟩
  case none => exact h.last
  case some => simp [Phrase.expr, Expr.and, Expr.isGraded, h.before before rfl, h.last]

theorem operator (h : p.Graded) (op : Operator) : (Front.operator p op).Graded := by
  intro e he hoperand
  -- a comparison takes the last one as its left operand, so the conjunction stays in front
  have hcomparison : ∀ op : Operator, (Expr.binary p.last op e).isGraded = true := by
    intro op
    simp [Expr.isGraded, h.last, h.comparison, he, hoperand]
  cases op with
  | and =>
      refine ⟨?_, he, Expr.not_isConjunction hoperand⟩
      intro before hbefore
      obtain rfl := Option.some.inj hbefore
      exact h.expr
  | equals => exact ⟨h.before, hcomparison .equals, rfl⟩
  | greater => exact ⟨h.before, hcomparison .greater, rfl⟩

end Phrase.Graded

namespace Expr

mutual

theorem graded_phrase : (e : Expr) → (f : Front) → f.Graded → (e.phrase f).Graded
  | .binary left op right, f, hf =>
    right.graded_phrase _ ((left.graded_phrase f hf).operator op)
  | .call function args, _, hf =>
    hf (.call function (parsedList args)) (isGraded_parsedList args) rfl
  | .column q name, _, hf => hf (.column q name) rfl rfl
  | .literal l, _, hf => hf (.literal l) rfl rfl
  | .star q, _, hf => hf (.star q) rfl rfl

theorem isGraded_parsedList : (es : List Expr) → isGradedList (parsedList es) = true
  | [] => rfl
  | e :: es => by
    rw [parsedList, isGradedList, (e.graded_phrase .nothing .nothing).expr, isGraded_parsedList es]
    rfl

end

theorem isGraded_parsed (e : Expr) : e.parsed.isGraded = true :=
  (e.graded_phrase .nothing .nothing).expr

end Expr

/-! ## Behind a conjunction -/

/-- Whether two phrases are of the same tokens, with the conjunction `front` in front of the second
one. -/
inductive Phrase.Behind (front : Expr) : Phrase → Phrase → Prop where
  | first (e : Expr) : Behind front ⟨none, e⟩ ⟨some front, e⟩
  | later {a b : Expr} (e : Expr) : Expr.Reassociated b (front.and a) →
    Behind front ⟨some a, e⟩ ⟨some b, e⟩

namespace Phrase.Behind

variable {front : Expr} {p p' : Phrase}

theorem expr (h : Behind front p p') : Expr.Reassociated p'.expr (front.and p.expr) := by
  cases h with
  | first e => exact .refl _
  | @later a b e hba => exact (Expr.Reassociated.binary .and hba (.refl e)).trans (.assoc front a e)

theorem extend (h : Behind front p p') (op : Operator) (e : Expr) :
    Behind front (p.extend op e) (p'.extend op e) := by
  have hexpr := h.expr
  cases h with
  | first last =>
      cases op with
      | and => exact .later e hexpr
      | equals | greater => exact .first _
  | later last hba =>
      cases op with
      | and => exact .later e hexpr
      | equals | greater => exact .later _ hba

end Phrase.Behind

namespace Expr

theorem behind_phrase {front : Expr} : (e : Expr) → (f f' : Front) →
    (∀ e, Phrase.Behind front (f.add e) (f'.add e)) →
    Phrase.Behind front (e.phrase f) (e.phrase f')
  | .binary left op right, f, f', h =>
    behind_phrase right (.operator (left.phrase f) op) (.operator (left.phrase f') op)
      ((behind_phrase left f f' h).extend op)
  | .call function args, _, _, h => h (.call function (parsedList args))
  | .column q name, _, _, h => h (.column q name)
  | .literal l, _, _, h => h (.literal l)
  | .star q, _, _, h => h (.star q)

/-- Behind AND, `right` is parsed as it is on its own. -/
theorem parsed_and (left right : Expr) :
    Reassociated (left.and right).parsed (left.parsed.and right.parsed) :=
  -- in front of `right` stands nothing, or the whole of `left` and an AND
  (behind_phrase right .nothing (.operator (left.phrase .nothing) .and) .first).expr

/-! ## What is graded is parsed as it was built -/

theorem phrase_of_isOperand {e : Expr} (h : e.isOperand = true) (f : Front) :
    e.phrase f = f.add e.parsed := by
  cases e with
  | binary => cases h
  | column | literal | call | star => rfl

variable {left right : Expr} {op : Operator}

theorem phrase_comparison (hop : op ≠ .and) (hleft : left.phrase .nothing = ⟨none, left.parsed⟩)
    (hright : right.isOperand = true) :
    (binary left op right).phrase .nothing = ⟨none, .binary left.parsed op right.parsed⟩ := by
  rw [phrase, phrase_of_isOperand hright, hleft]
  -- the left operand is the last comparison, as nothing stands in front of it
  cases op with
  | equals | greater => rfl
  | and => exact absurd rfl hop

theorem isGraded_binary (h : (binary left op right).isGraded = true) :
    left.isGraded = true ∧ right.isGraded = true ∧
      (op ≠ .and → left.isConjunction = false ∧ right.isOperand = true) := by
  simp only [isGraded, Bool.and_eq_true, Bool.or_eq_true, decide_eq_true_eq,
    Bool.not_eq_true'] at h
  refine ⟨h.1.1, h.1.2, ?_⟩
  intro hop
  exact h.2.resolve_left hop

/-- The phrase of a graded expression that is no conjunction has nothing in front of its last
AND. -/
theorem phrase_nothing : (e : Expr) → e.isGraded = true → e.isConjunction = false →
    e.phrase .nothing = ⟨none, e.parsed⟩
  | .binary left op right, h, hcomparison => by
    have hop : op ≠ .and := of_decide_eq_false hcomparison
    obtain ⟨hleft, -, hoperands⟩ := isGraded_binary h
    have hphrase := phrase_comparison hop
      (left.phrase_nothing hleft (hoperands hop).1) (hoperands hop).2
    rw [parsed, hphrase]
    rfl
  | .column .., _, _ | .literal _, _, _ | .call .., _, _ | .star _, _, _ => rfl

mutual

theorem reassociated_parsed : (e : Expr) → e.isGraded = true → Reassociated e.parsed e
  | .binary left op right, h => by
    obtain ⟨hleft, hright, hoperands⟩ := isGraded_binary h
    have hparsed := Reassociated.binary op (left.reassociated_parsed hleft)
      (right.reassociated_parsed hright)
    by_cases hop : op = .and
    · subst hop
      exact (parsed_and left right).trans hparsed
    · -- a comparison keeps its operands, as neither reaches beyond it
      have hphrase := phrase_comparison hop
        (left.phrase_nothing hleft (hoperands hop).1) (hoperands hop).2
      rw [parsed, hphrase]
      exact hparsed
  | .call function args, h => .call (reassociated_parsedList args h) function
  | .column .., _ | .literal _, _ | .star _, _ => .refl _

theorem reassociated_parsedList : (es : List Expr) → isGradedList es = true →
    List.Forall₂ Reassociated (parsedList es) es
  | [], _ => .nil
  | e :: es, h => by
    rw [isGradedList, Bool.and_eq_true] at h
    exact .cons (e.reassociated_parsed h.1) (reassociated_parsedList es h.2)

end

theorem reassociated_parsed_iff (e : Expr) : Reassociated e.parsed e ↔ e.isGraded = true := by
  constructor
  · intro h
    -- what is parsed is graded, and association does not change that
    exact h.isGraded_eq ▸ e.isGraded_parsed
  · exact e.reassociated_parsed

end Expr

/-! ## Meaning -/

namespace Value

/-- How far the condition `v` is from being false: unknown is between false and true. -/
def truth (v : Value) : Fin 3 :=
  if v = null then 1 else if v.holds then 2 else 0

/-- The condition whose `truth` is `n`. -/
def ofTruth (n : Fin 3) : Value :=
  if n = 1 then null else ofBool (n = 2)

theorem truth_ofTruth (n : Fin 3) : (ofTruth n).truth = n := by
  match n with
  | 0 | 1 | 2 => rfl

theorem holds_eq_truth (v : Value) : v.holds = decide (v.truth = 2) := by
  cases v with
  | null | text => rfl
  | number q => by_cases hq : q = 0 <;> simp [truth, holds, hq]

/-- The conjunction of `a` and `b` is as true as the less true one of them. -/
theorem and_eq_ofTruth (a b : Value) : a.and b = ofTruth (min a.truth b.truth) := by
  -- the cases are those of the definition: which side is unknown, and which one holds
  by_cases ha : a = null
  · by_cases hb : b = null
    · simp [Value.and, ha, hb, truth, ofTruth]
    · cases hholds : b.holds <;> simp [Value.and, ha, hb, truth, ofTruth, hholds]
  · by_cases hb : b = null
    · cases hholds : a.holds <;> simp [Value.and, ha, hb, truth, ofTruth, hholds]
    · cases hholds : a.holds <;> cases hholds' : b.holds <;> 
        simp [Value.and, ha, hb, truth, ofTruth, hholds, hholds']

theorem and_assoc (a b c : Value) : (a.and b).and c = a.and (b.and c) := by
  simp only [and_eq_ofTruth, truth_ofTruth, min_assoc]

theorem holds_and (a b : Value) : (a.and b).holds = (a.holds && b.holds) := by
  rw [and_eq_ofTruth, holds_eq_truth, truth_ofTruth, holds_eq_truth a, holds_eq_truth b,
    ← Bool.decide_and]
  -- the minimum is the greatest truth just if both are
  have htop : ∀ n m : Fin 3, min n m = 2 ↔ n = 2 ∧ m = 2 := by decide
  exact decide_eq_decide.2 (htop a.truth b.truth)

end Value

namespace Expr

variable (F : Functions)

theorem Reassociated.value_eq {a b : Expr} (h : Reassociated a b) (group : List Env) :
    a.value F group = b.value F group := by
  induction h generalizing group with
  | assoc a b c => exact Value.and_assoc ..
  | refl => rfl
  | symm _ ih => exact (ih group).symm
  | trans _ _ ih ih' => exact (ih group).trans (ih' group)
  | binary op _ _ iha ihb => rw [value, value, iha, ihb]
  | arg function before after _ ih =>
      simp only [value, values_eq_map, List.map_append, List.map_cons, ih]

theorem holds_parsed_and (left right : Expr) (group : List Env) :
    ((left.and right).parsed.value F group).holds =
      ((left.parsed.value F group).holds && (right.parsed.value F group).holds) := by
  rw [(parsed_and left right).value_eq F group]
  exact Value.holds_and ..

end Expr

namespace Query

theorem parseCondition_conditionTokens (condition : Option Expr) :
    parseCondition (conditionTokens condition) = some (condition.map Expr.parsed) := by
  cases condition with
  | none => rfl
  | some e => exact congrArg (Option.map some) e.parse_tokens

variable (F : Functions) (group : List Env)

/-- Whether the condition `e` holds of `group`. -/
def holds (e : Expr) : Bool := (e.value F group).holds

theorem holds_parsed_of_isGraded {e : Expr} (h : e.isGraded = true) :
    holds F group e.parsed = holds F group e := by
  rw [holds, (e.reassociated_parsed h).value_eq F group, holds]

theorem holds_condition_filter (q : Query) (c : Expr) :
    ((q.filter c).condition.map Expr.parsed).all (holds F group) =
      ((q.condition.map Expr.parsed).all (holds F group) && holds F group c.parsed) := by
  rw [filter]
  cases q.condition with
  | none => rfl
  -- the added condition stands behind the existing one and an AND
  | some existing => exact Expr.holds_parsed_and F existing c group

theorem holds_condition_foldl (q : Query) (cs : List Expr) :
    ((cs.foldl filter q).condition.map Expr.parsed).all (holds F group) =
      ((q.condition.map Expr.parsed).all (holds F group) &&
        (cs.map Expr.parsed).all (holds F group)) := by
  -- the condition of the query grows with every step, so the query stays arbitrary
  induction cs generalizing q with
  | nil => simp
  | cons c cs ih =>
      rw [List.foldl_cons, ih, holds_condition_filter, Bool.and_assoc]
      rfl

/-- Graded conditions hold as they are parsed: the one of `q` and all of `cs`. -/
theorem holds_parsed {q : Query} {cs : List Expr} (hq : ∀ e ∈ q.condition, e.isGraded = true)
    (hcs : ∀ e ∈ cs, e.isGraded = true) :
    ((q.condition.map Expr.parsed).all (holds F group) &&
        (cs.map Expr.parsed).all (holds F group)) =
      (q.condition.all (holds F group) && cs.all (holds F group)) := by
  congr 1
  · cases hcondition : q.condition with
    | none => rfl
    | some e => exact holds_parsed_of_isGraded F group (hq e hcondition)
  · rw [List.all_map, Bool.eq_iff_iff, List.all_eq_true, List.all_eq_true]
    apply forall₂_congr
    intro e he
    rw [Function.comp_apply, holds_parsed_of_isGraded F group (hcs e he)]

end Query

/-- An expression `e` is parsed as it was built, up to the association of conjunctions, just if it
is graded. The condition of `q` with the conditions `cs` added is parsed as one that holds where all
of them hold as they are parsed, so where all of them hold if they are graded. -/
theorem parse_rendered :
    (∀ e : Expr, Expr.parse e.tokens = some e.parsed ∧
      (Expr.Reassociated e.parsed e ↔ e.isGraded = true)) ∧
    ∀ (q : Query) (cs : List Expr), ∃ condition,
      Query.parseCondition (Query.conditionTokens (cs.foldl Query.filter q).condition) =
        some condition ∧
      ∀ (F : Functions) (group : List Env),
        condition.all (Query.holds F group) =
          ((q.condition.map Expr.parsed).all (Query.holds F group) &&
            (cs.map Expr.parsed).all (Query.holds F group)) ∧
        ((∀ e ∈ q.condition, e.isGraded = true) → (∀ e ∈ cs, e.isGraded = true) →
          condition.all (Query.holds F group) =
            (q.condition.all (Query.holds F group) && cs.all (Query.holds F group))) := by
  constructor
  · intro e
    exact ⟨e.parse_tokens, e.reassociated_parsed_iff⟩
  · intro q cs
    refine ⟨_, Query.parseCondition_conditionTokens _, ?_⟩
    intro F group
    have hcondition := Query.holds_condition_foldl F group q cs
    constructor
    · exact hcondition
    · intro hq hcs
      exact hcondition.trans (Query.holds_parsed F group hq hcs)

/-- Two conditions of a query, of which the `second` is a conjunction. -/
theorem parse_rendered_conjunction :
    let first := (Expr.col "a").equals (.int 1)
    let second := ((Expr.col "b").greater (.int 2)).and ((Expr.col "c").equals (.text "x"))
    (∀ e ∈ [first, second], e.isGraded = true) ∧
    ∃ condition,
      Query.parseCondition
        (Query.conditionTokens ([first, second].foldl Query.filter {}).condition) =
          some condition ∧
      ∀ F group, condition.all (Query.holds F group) =
        [first, second].all (Query.holds F group) := by
  intro first second
  have hgraded : ∀ e ∈ [first, second], e.isGraded = true := by decide
  obtain ⟨condition, hparse, hmeans⟩ := parse_rendered.2 {} [first, second]
  refine ⟨hgraded, condition, hparse, ?_⟩
  intro F group
  exact (hmeans F group).2 nofun hgraded

/-- A comparison with a conjunction is parsed as a conjunction with a comparison, unless it stands
in parentheses; the `parsed` condition does not hold where the one that was `built` does. -/
theorem parse_rendered_comparison :
    let built := ((Expr.col "a").and (.col "b")).equals (.col "c")
    let parsed := (Expr.col "a").and ((Expr.col "b").equals (.col "c"))
    let row : Row := [("a", .number 0), ("b", .number 1), ("c", .number 0)]
    Expr.parse built.tokens = some parsed ∧ ¬Expr.Reassociated parsed built ∧
    Expr.parse ([.openParen] ++ ((Expr.col "a").and (.col "b")).tokens ++ [.closeParen, .space,
      .equals, .space] ++ (Expr.col "c").tokens) = some built ∧
    Query.parseCondition (Query.conditionTokens (Query.filter {} built).condition) =
      some (some parsed) ∧
    ∀ F : Functions, Query.holds F [[(none, row)]] parsed = false ∧
      Query.holds F [[(none, row)]] built = true := by
  intro built parsed row
  refine ⟨rfl, ?_, rfl, rfl, ?_⟩
  · intro h
    -- the one is graded and the other is not, so they are no reassociation of each other
    have hgraded := h.isGraded_eq
    cases hgraded
  · intro F
    exact ⟨rfl, rfl⟩

end LinkedRecords.Sql
