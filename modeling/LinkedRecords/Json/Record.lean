import LinkedRecords.Json.Reader
import LinkedRecords.Record

/-! # Records in JSON

A record is written as an object, with members in any order, or as an array of the members in the
order of the slots. It is read from text, where the first thing wrong on the way decides the
fault, or from a value, whose members come in the order of their keys.
-/

namespace LinkedRecords.Json

/-- A record type with the number of its members, as messages about arrays name it. -/
def sizedTitle {S : Type → Type} (r : Record S) : String :=
  let n := r.slots.length
  r.title ++ " with " ++ toString n ++ (if n = 1 then " element" else " elements")

/-! ## From text -/

namespace Reader

/-- A member of an object: decoded into its slot, or passed if no slot has the key. -/
def member (slots : List (Slot Reader)) (key : String) (draft : Draft slots) :
    Reader (Draft slots) := do
  match draft.put key with
  | .place decode => expect ':'; decode
  | .repeated => mismatch (.duplicateField key)
  | .unknown => expect ':'; skip; return draft

/-- The members of an array, by position. -/
def positions (expected : String) :
    (slots : List (Slot Reader)) → (index : Nat) → (first : Bool) → Reader (Filled slots)
  | [], _, _ => return ()
  | s :: slots, index, first => do
    if ← hasItem first then
      let x ← s.decode
      return (x, ← positions expected slots (index + 1) false)
    else
      match s.absent with
      | some x => return (x, ← positions expected slots (index + 1) first)
      | none => mismatch (.invalidLength index expected)

/-- A record, as an object or as an array. -/
def record (r : Record Reader) : Reader (Filled r.slots) := do
  match ← peek with
  | some '[' =>
    advance
    let members ← positions (sizedTitle r) r.slots 0 true
    expect ']'
    return members
  | some '\x7b' =>
    let draft ← object (member r.slots) (Draft.empty r.slots)
    match draft.complete with
    | .ok members => expect '\x7d'; return members
    | .error name => mismatch (.missingField name)
  | _ => unexpected r.title

end Reader

/-! ## From a value -/

/-- Decodes a value. -/
abbrev Decoder := ReaderT Value (Except Mismatch)

/-- What a value is, for a message. -/
def Value.found : Value → Found
  | .null => .null
  | .bool b => .bool b
  | .number n => .number n
  | .string s => .string s
  | .array _ => .sequence
  | .object _ => .map

namespace Decoder

/-- A string. -/
def string : Decoder String
  | .string s => .ok s
  | v => .error (.invalidType v.found "a string")

/-- A boolean. -/
def bool : Decoder Bool
  | .bool b => .ok b
  | v => .error (.invalidType v.found "a boolean")

/-- `null`, or a value. -/
def optional {α : Type} (decode : Decoder α) : Decoder (Option α)
  | .null => .ok none
  | v => (decode v).map some

/-- A list of items. -/
def list {α : Type} (decode : Decoder α) : Decoder (List α)
  | .array items => items.mapM decode
  | v => .error (.invalidType v.found "a sequence")

/-- The members of an object, in the order of their keys. -/
def members (slots : List (Slot Decoder)) (members : List (String × Value)) :
    Except Mismatch (Draft slots) :=
  members.foldlM (fun draft (key, value) =>
    match Draft.put key slots draft with
    | .place decode => decode value
    | .repeated => .error (.duplicateField key)
    | .unknown => .ok draft) (Draft.empty slots)

/-- The members of an array, by position, and the items left over. -/
def positions (expected : String) :
    (slots : List (Slot Decoder)) → (index : Nat) → List Value →
      Except Mismatch (Filled slots × List Value)
  | [], _, items => .ok ((), items)
  | s :: slots, index, item :: items => do
    let x ← s.decode item
    let (rest, left) ← positions expected slots (index + 1) items
    return ((x, rest), left)
  | s :: slots, index, [] =>
    match s.absent with
    | some x => do
      let (rest, left) ← positions expected slots (index + 1) []
      return ((x, rest), left)
    | none => .error (.invalidLength index expected)

/-- A record, as an object or as an array. -/
def record (r : Record Decoder) : Decoder (Filled r.slots)
  | .object ms => do ((← members r.slots ms).complete).mapError .missingField
  | .array items => do
    let (filled, left) ← positions (sizedTitle r) r.slots 0 items
    if left.isEmpty then return filled
    else throw (.invalidLength items.length "fewer elements in array")
  | v => .error (.invalidType v.found r.title)

end Decoder

end LinkedRecords.Json
