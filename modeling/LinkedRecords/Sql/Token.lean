import LinkedRecords.Sql.Dialect

/-! # Tokens of SQL text

Statements are lowered to a list of tokens that is the same for every engine; only the spelling
of a token looks at the engine.
-/

namespace LinkedRecords.Sql

/-- One piece of SQL text. -/
inductive Token where
  | selectKw
  | fromKw
  | whereKw
  | andKw
  | asKw
  | leftKw
  | joinKw
  | onKw
  | groupByKw
  | comma
  | dot
  | star
  | openParen
  | closeParen
  | equals
  | greater
  | space
  | newline
  /-- Two blanks for each level. -/
  | indent (depth : Nat)
  /-- The name of a table, a column or an alias. -/
  | ident (name : String)
  | int (n : Int)
  | text (s : String)
  | null
  /-- The name of a function, as SQLite calls it. -/
  | function (name : String)
deriving DecidableEq, Repr

namespace Token

/-- The characters of a token in an engine's SQL. -/
def spell (d : Dialect) : Token → List Char
  | selectKw => "SELECT".toList
  | fromKw => "FROM".toList
  | whereKw => "WHERE".toList
  | andKw => "AND".toList
  | asKw => "AS".toList
  | leftKw => "LEFT".toList
  | joinKw => "JOIN".toList
  | onKw => "ON".toList
  | groupByKw => "GROUP BY".toList
  | comma => [',']
  | dot => ['.']
  | star => ['*']
  | openParen => ['(']
  | closeParen => [')']
  | equals => ['=']
  | greater => ['>']
  | space => [' ']
  | newline => ['\n']
  | indent depth => List.replicate (2 * depth) ' '
  | ident name => quoteIdentifier name
  | int n => (toString n).toList
  | text s => quoteString s
  | null => "NULL".toList
  | function name => (d.functionName name).toList

/-- The SQL text of a list of tokens. -/
def render (d : Dialect) (tokens : List Token) : String :=
  .ofList (tokens.flatMap (spell d))

/-- ` AS "name"`, behind what is named. -/
def aliasTokens (name : String) : List Token :=
  [.space, .asKw, .space, .ident name]

/-- The tokens of several items, with a comma and a blank between neighbours. -/
def commaSeparated : List (List Token) → List Token
  | [] => []
  | [item] => item
  | item :: items => item ++ [.comma, .space] ++ commaSeparated items

end Token

end LinkedRecords.Sql
