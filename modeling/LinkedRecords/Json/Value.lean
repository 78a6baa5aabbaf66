import LinkedRecords.Decimal.Reading
import LinkedRecords.Decimal.Shortest

/-! # JSON values

Values of any shape, and their compact text. The members of an object that was read stand in the
order of their keys, each key once; of a repeated key the last value counts.
-/

namespace LinkedRecords.Json

/-- A JSON value. -/
inductive Value where
  | null
  | bool (b : Bool)
  | number (n : Decimal.Number)
  | string (s : String)
  | array (items : List Value)
  | object (members : List (String × Value))
deriving Inhabited

/-- The members with the value put under the key, at its place in the order of keys. -/
def putMember (key : String) (value : Value) : List (String × Value) → List (String × Value)
  | [] => [(key, value)]
  | (k, v) :: rest =>
    if key < k then (key, value) :: (k, v) :: rest
    else if key = k then (key, value) :: rest
    else (k, v) :: putMember key value rest

/-- Members given in any order, put in the order of their keys. -/
def sortMembers (members : List (String × Value)) : List (String × Value) :=
  members.foldl (fun done m => putMember m.1 m.2 done) []

namespace Value

/-- An integer. -/
def int (n : Int) : Value := .number (.integer n)

/-- The string, or `null` for none. -/
def ofOption : Option String → Value
  | some s => .string s
  | none => .null

/-- An array of strings. -/
def strings (ss : List String) : Value := .array (ss.map .string)

end Value

/-! ## Text -/

/-- The spelling of one character of a string. -/
def escapedChar (c : Char) : List Char :=
  if c = '"' then ['\\', '"']
  else if c = '\\' then ['\\', '\\']
  else if c = '\x08' then ['\\', 'b']
  else if c = '\x0c' then ['\\', 'f']
  else if c = '\n' then ['\\', 'n']
  else if c = '\r' then ['\\', 'r']
  else if c = '\t' then ['\\', 't']
  else if c.toNat < 0x20 then
    let n := c.toNat
    ['\\', 'u', '0', '0', Nat.digitChar (n / 16), Nat.digitChar (n % 16)]
  else [c]

/-- A string in double quotes. -/
def stringText (s : String) : List Char :=
  '"' :: s.toList.flatMap escapedChar ++ ['"']

/-- The text of a number. -/
def numberText : Decimal.Number → List Char
  | .integer n => (toString n).toList
  | .fraction x => (Decimal.text x).toList

namespace Value

mutual

/-- The text of a value, without blanks. -/
def chars : Value → List Char
  | .null => "null".toList
  | .bool true => "true".toList
  | .bool false => "false".toList
  | .number n => numberText n
  | .string s => stringText s
  | .array items => '[' :: itemChars items ++ [']']
  | .object members => '\x7b' :: memberChars members ++ ['\x7d']

/-- The texts of items, with commas between. -/
def itemChars : List Value → List Char
  | [] => []
  | [v] => v.chars
  | v :: vs => v.chars ++ ',' :: itemChars vs

/-- The texts of members, with commas between. -/
def memberChars : List (String × Value) → List Char
  | [] => []
  | [(k, v)] => stringText k ++ ':' :: v.chars
  | (k, v) :: ms => stringText k ++ ':' :: v.chars ++ ',' :: memberChars ms

end

/-- The text of a value, without blanks. -/
def text (v : Value) : String := .ofList v.chars

end Value

end LinkedRecords.Json
