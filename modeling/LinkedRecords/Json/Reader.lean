import LinkedRecords.Json.Fault
import LinkedRecords.Json.Scan
import LinkedRecords.Json.Value

/-! # Reading JSON from left to right

A reader takes a value of a wanted type from the front of a text. The first thing wrong, from left
to right, decides the fault: a value of the wrong type is reported even if the text breaks off
behind it.
-/

namespace LinkedRecords.Json

/-- Reads a value from the front of a text. -/
abbrev Reader := StateT (List Char) (Except Fault)

namespace Reader

variable {α : Type}

/-- Containers may be nested this deep. -/
def nestingLimit : Nat := 127

/-- Fails because the text is not JSON. -/
def malformed : Reader α := throw .malformed

/-- Fails because the document has the wrong shape. -/
def mismatch (m : Mismatch) : Reader α := throw (.mismatch m)

/-- Takes what a scan finds, if it finds anything. -/
def ofScan (scan : List Char → Option (α × List Char)) : Reader α := fun cs =>
  match scan cs with
  | some r => .ok r
  | none => .error .malformed

/-- Passes a text that a scan skips. -/
def ofSkip (scan : List Char → Option (List Char)) : Reader Unit :=
  ofScan fun cs => (scan cs).map ((), ·)

/-- The next character that is not blank, which stays in the text; `none` at the end. -/
def peek : Reader (Option Char) := fun cs =>
  let rest := skipBlanks cs
  .ok (rest.head?, rest)

/-- Passes one character. -/
def advance : Reader Unit := modify List.tail

/-- Passes one character, which must be this one, and blanks before it. -/
def expect (c : Char) : Reader Unit := do
  if (← peek) = some c then advance else malformed

/-- A string, at its opening quote. -/
def quotedString : Reader String := do
  advance
  return .ofList (← ofScan stringBody?)

/-- What kind of value comes next. A container is told by its bracket, anything else is read. -/
def found : Reader Found := do
  match ← peek with
  | some 'n' => ofSkip (word? "null"); return .null
  | some 't' => ofSkip (word? "true"); return .bool true
  | some 'f' => ofSkip (word? "false"); return .bool false
  | some '"' => return .string (← quotedString)
  | some '[' => return .sequence
  | some '\x7b' => return .map
  | some c => if c = '-' ∨ c.isDigit then return .number (← ofScan number?) else malformed
  | none => malformed

/-- Fails because the next value is of another type than the expected one. -/
def unexpected (expected : String) : Reader α := do
  mismatch (.invalidType (← found) expected)

/-! ## Scalars -/

/-- A string. -/
def string : Reader String := do
  if (← peek) = some '"' then quotedString else unexpected "a string"

/-- A boolean. -/
def bool : Reader Bool := do
  match ← peek with
  | some 't' => ofSkip (word? "true"); return true
  | some 'f' => ofSkip (word? "false"); return false
  | _ => unexpected "a boolean"

/-- Passes any value. -/
def skip : Reader Unit := ofSkip skipValue?

/-! ## Containers -/

/-- Whether another item of an array follows; `first` at the first item. Passes the comma. -/
def hasItem (first : Bool) : Reader Bool := do
  match ← peek with
  | some ']' => return false
  | some ',' =>
    if first then return true
    else
      advance
      match ← peek with
      | some ']' => malformed
      | some _ => return true
      | none => malformed
  | some _ => if first then return true else malformed
  | none => malformed

/-- Whether another member of an object follows; `first` at the first member. Passes the comma;
the key's quote is next. -/
def hasMember (first : Bool) : Reader Bool := do
  match ← peek with
  | some '\x7d' => return false
  | some ',' =>
    if first then malformed
    else
      advance
      if (← peek) = some '"' then return true else malformed
  | some '"' => if first then return true else malformed
  | _ => malformed

/-- The items of an array up to its closing bracket, which stays. -/
def itemsFrom (item : Reader α) (first : Bool) : (fuel : Nat) → Reader (List α)
  | 0 => malformed
  | fuel + 1 => do
    if ← hasItem first then
      let x ← item
      return x :: (← itemsFrom item false fuel)
    else return []

/-- A bound on the number of items in the text that is left. -/
def fuel : Reader Nat := return (← get).length + 1

/-- The items of an array, at its opening bracket. -/
def array (item : Reader α) : Reader (List α) := do
  advance
  let xs ← itemsFrom item true (← fuel)
  expect ']'
  return xs

/-- A list of items. -/
def list (item : Reader α) : Reader (List α) := do
  if (← peek) = some '[' then array item else unexpected "a sequence"

/-- Folds over the members of an object, up to its closing brace, which stays. -/
def membersFrom (member : String → α → Reader α) (first : Bool) (a : α) :
    (fuel : Nat) → Reader α
  | 0 => malformed
  | fuel + 1 => do
    if ← hasMember first then
      let key ← quotedString
      membersFrom member false (← member key a) fuel
    else return a

/-- Folds over the members of an object, at its opening brace. -/
def object (member : String → α → Reader α) (a : α) : Reader α := do
  advance
  let a ← membersFrom member true a (← fuel)
  return a

/-- Any value, with at most `depth` containers in each other. -/
def value : (depth : Nat) → Reader Value
  | 0 => do
    match ← peek with
    | some '[' | some '\x7b' => malformed
    | _ => scalar
  | depth + 1 => do
    match ← peek with
    | some '[' => return .array (← array (value depth))
    | some '\x7b' =>
      let members ← object (fun key done => do
        expect ':'
        return putMember key (← value depth) done) []
      expect '\x7d'
      return .object members
    | _ => scalar
where
  /-- Any value that is no container. -/
  scalar : Reader Value := do
    match ← found with
    | .null => return .null
    | .bool b => return .bool b
    | .number n => return .number n
    | .string s => return .string s
    | .sequence | .map => malformed

/-- Reads a whole text: behind the value only blanks may follow. -/
def run (r : Reader α) (text : String) : Except Fault α := do
  let (a, rest) ← StateT.run r text.toList
  if (skipBlanks rest).isEmpty then return a else throw .malformed

end Reader

/-- The value that a text stands for. -/
def Value.ofText (text : String) : Except Fault Value :=
  (Reader.value Reader.nestingLimit).run text

end LinkedRecords.Json
