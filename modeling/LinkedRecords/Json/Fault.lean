import LinkedRecords.Decimal.Shortest
import LinkedRecords.Decimal.Reading
import LinkedRecords.Text.Quoted

/-! # What can be wrong with a JSON document

A document may fail to be JSON at all, or be JSON of the wrong shape. The second kind is
explained in words.
-/

namespace LinkedRecords.Json

/-- What stands where something else was wanted. -/
inductive Found where
  | null
  | bool (b : Bool)
  | number (n : Decimal.Number)
  | string (s : String)
  | sequence
  | map

/-- What was found, in words. -/
def Found.describe : Found → String
  | .null => "null"
  | .bool b => "boolean `" ++ toString b ++ "`"
  | .number (.integer n) => "integer `" ++ toString n ++ "`"
  | .number (.fraction x) => "floating point `" ++ Decimal.text x ++ "`"
  | .string s => "string " ++ Text.quoted s
  | .sequence => "sequence"
  | .map => "map"

/-- A way in which a document has the wrong shape. -/
inductive Mismatch where
  | missingField (name : String)
  | duplicateField (name : String)
  | invalidType (found : Found) (expected : String)
  | invalidLength (length : Nat) (expected : String)
  | unknownVariant (name : String) (known : List String)
  /-- The shape is right, but what it stands for is refused with this message. -/
  | refused (message : String)

/-- A name between backticks. -/
def ticked (name : String) : String := "`" ++ name ++ "`"

/-- The mismatch in words. -/
def Mismatch.message : Mismatch → String
  | .missingField name => "missing field " ++ ticked name
  | .duplicateField name => "duplicate field " ++ ticked name
  | .invalidType found expected => "invalid type: " ++ found.describe ++ ", expected " ++ expected
  | .invalidLength n expected => "invalid length " ++ toString n ++ ", expected " ++ expected
  | .unknownVariant name known =>
    "unknown variant " ++ ticked name ++ ", expected one of " ++
      ", ".intercalate (known.map ticked)
  | .refused message => message

/-- Why a document cannot be read. -/
inductive Fault where
  /-- The text is not JSON. -/
  | malformed
  | mismatch (m : Mismatch)

/-! ## Positions in messages

A message that ends in a position is taken to report it, so the position is not part of what the
message says.
-/

/-- A line and a column, counted from one. -/
structure Position where
  line : Nat
  column : Nat
deriving DecidableEq, Repr

/-- The text after `start`, if the text begins with it. -/
def dropStart? (start : List Char) (cs : List Char) : Option (List Char) :=
  if start.isPrefixOf cs then some (cs.drop start.length) else none

/-- A number at the front of a text, and the text after it. -/
def takeNumber? (cs : List Char) : Option (Nat × List Char) :=
  let digits := cs.takeWhile Char.isDigit
  if digits.isEmpty then none
  else
    some (digits.foldl (fun n c => n * 10 + (c.toNat - '0'.toNat)) 0, cs.dropWhile Char.isDigit)

/-- The position that a whole text ` at line N column M` tells. -/
def Position.ofText? (cs : List Char) : Option Position := do
  let (line, cs) ← takeNumber? (← dropStart? " at line ".toList cs)
  let (column, cs) ← takeNumber? (← dropStart? " column ".toList cs)
  if cs.isEmpty then return ⟨line, column⟩ else none

/-- The text before a position at its end, and that position. -/
def splitPosition : List Char → List Char × Option Position
  | [] => ([], none)
  | c :: cs =>
    match Position.ofText? (c :: cs) with
    | some p => ([], some p)
    | none =>
      let (text, p) := splitPosition cs
      (c :: text, p)

/-- The text without the position at its end. A position in line zero, with a column of 64 bits,
stands for none, and then the text before it may still end in one. -/
def dropPosition (cs : List Char) : List Char :=
  match splitPosition cs with
  | (text, some p) => if p.line = 0 ∧ p.column < Nat.pow 2 64 then (splitPosition text).1 else text
  | (text, none) => text

/-- The fault of refusing what a document stands for. -/
def Fault.refuse (message : String) : Fault :=
  .mismatch (.refused (.ofList (dropPosition message.toList)))

end LinkedRecords.Json
