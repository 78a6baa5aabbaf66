import LinkedRecords.Sql.Token

/-! # Expressions

Columns, literals, comparisons, conjunctions and function calls: all that a compiled query needs.
There is no raw text among them, so every name is quoted and every function name is respelled.
-/

namespace LinkedRecords.Sql

/-- A constant. -/
inductive Literal where
  | int (n : Int)
  | text (s : String)
  | null
deriving DecidableEq, Repr

/-- A binary operator. -/
inductive Operator where
  | equals
  | greater
  | and
deriving DecidableEq, Repr

/-- An SQL expression. -/
inductive Expr where
  /-- A column, named alone or with the table or alias that it is read from. -/
  | column (qualifier : Option String) (name : String)
  | literal (value : Literal)
  | binary (left : Expr) (op : Operator) (right : Expr)
  | call (function : String) (args : List Expr)
  /-- All columns, of every source or of one. -/
  | star (qualifier : Option String)
deriving Repr, Inhabited

namespace Expr

/-! ## Equality -/

mutual

/-- Equality of expressions is decided by structure. -/
def decEq : (a b : Expr) → Decidable (a = b)
  | .column q n, .column r m => decidable_of_iff (q = r ∧ n = m) (by simp)
  | .literal l, .literal k => decidable_of_iff (l = k) (by simp)
  | .binary a o b, .binary c p d =>
    match decEq a c, decEq b d with
    | .isTrue hl, .isTrue hr => decidable_of_iff (o = p) (by simp [hl, hr])
    | .isFalse h, _ => .isFalse (by simp [h])
    | _, .isFalse h => .isFalse (by simp [h])
  | .call f as, .call g bs =>
    match decEqList as bs with
    | .isTrue h => decidable_of_iff (f = g) (by simp [h])
    | .isFalse h => .isFalse (by simp [h])
  | .star q, .star r => decidable_of_iff (q = r) (by simp)
  | .column .., .literal .. | .column .., .binary .. | .column .., .call .. | .column .., .star ..
  | .literal .., .column .. | .literal .., .binary .. | .literal .., .call ..
  | .literal .., .star ..
  | .binary .., .column .. | .binary .., .literal .. | .binary .., .call .. | .binary .., .star ..
  | .call .., .column .. | .call .., .literal .. | .call .., .binary .. | .call .., .star ..
  | .star .., .column .. | .star .., .literal .. | .star .., .binary .. | .star .., .call .. =>
    .isFalse (by simp)
termination_by structural a => a

/-- Equality of argument lists, decided together with that of expressions. -/
def decEqList : (as bs : List Expr) → Decidable (as = bs)
  | [], [] => .isTrue rfl
  | [], _ :: _ => .isFalse (by simp)
  | _ :: _, [] => .isFalse (by simp)
  | a :: as, b :: bs =>
    match decEq a b, decEqList as bs with
    | .isTrue h, .isTrue k => .isTrue (by rw [h, k])
    | .isFalse h, _ => .isFalse (by simp [h])
    | _, .isFalse h => .isFalse (by simp [h])
termination_by structural as => as

end

instance : DecidableEq Expr := decEq

/-! ## Building -/

/-- A column read from the source of that name. -/
def of (qualifier name : String) : Expr := .column (some qualifier) name

/-- A column named alone. -/
def col (name : String) : Expr := .column none name

/-- An integer. -/
def int (n : Int) : Expr := .literal (.int n)

/-- A string. -/
def text (s : String) : Expr := .literal (.text s)

/-- The missing value. -/
def null : Expr := .literal .null

/-- `left = right`. -/
def equals (left right : Expr) : Expr := .binary left .equals right

/-- `left > right`. -/
def greater (left right : Expr) : Expr := .binary left .greater right

/-- `left AND right`. -/
def and (left right : Expr) : Expr := .binary left .and right

/-- The number of rows in a group. -/
def countRows : Expr := .call "COUNT" [.star none]

/-- The sum of a value over a group. -/
def sum (e : Expr) : Expr := .call "SUM" [e]

/-- The mean of a value over a group. -/
def average (e : Expr) : Expr := .call "AVG" [e]

/-- The first value that is not missing. -/
def coalesce (args : List Expr) : Expr := .call "COALESCE" args

/-- The values of a group as a JSON array. -/
def jsonGroupArray (e : Expr) : Expr := .call "JSON_GROUP_ARRAY" [e]

/-- The values of one row as a JSON array. -/
def jsonArray (args : List Expr) : Expr := .call "JSON_ARRAY" args

/-- A text read again as JSON, so that it nests as a value and not as a string. -/
def json (e : Expr) : Expr := .call "JSON" [e]

/-- The arguments that make an object of these members: each key as a string, then its value. -/
def objectArgs (members : List (String × Expr)) : List Expr :=
  members.flatMap fun m => [text m.1, m.2]

/-- A JSON object of these members, in order. -/
def jsonObject (members : List (String × Expr)) : Expr := .call "JSON_OBJECT" (objectArgs members)

/-! ## Tokens -/

/-- `qualifier.`, if there is one. -/
def qualifierTokens : Option String → List Token
  | some q => [.ident q, .dot]
  | none => []

/-- The token of a constant. -/
def literalToken : Literal → Token
  | .int n => .int n
  | .text s => .text s
  | .null => .null

/-- The token of an operator. -/
def operatorToken : Operator → Token
  | .equals => .equals
  | .greater => .greater
  | .and => .andKw

mutual

/-- The tokens of an expression; operands stand without parentheses. -/
def tokens : Expr → List Token
  | .column q name => qualifierTokens q ++ [.ident name]
  | .literal l => [literalToken l]
  | .binary left op right => left.tokens ++ [.space, operatorToken op, .space] ++ right.tokens
  | .call f args =>
    [.function f, .openParen] ++ Token.commaSeparated (tokensList args) ++ [.closeParen]
  | .star q => qualifierTokens q ++ [.star]

/-- The tokens of each of several expressions. -/
def tokensList : List Expr → List (List Token)
  | [] => []
  | e :: es => e.tokens :: tokensList es

end

/-- The expression in an engine's SQL. -/
def render (d : Dialect) (e : Expr) : String :=
  Token.render d e.tokens

end Expr

end LinkedRecords.Sql
