import LinkedRecords.Json.Reader
import LinkedRecords.Sql.Dialect

/-! # Dialects in JSON

A dialect is written as its name, or as an object with that name as its one key and nothing under
it.
-/

namespace LinkedRecords.Sql

open Json

namespace Dialect

/-- The dialect of that name. -/
def named (name : String) : Reader Dialect :=
  match ofName? name with
  | some d => return d
  | none => Reader.mismatch (.unknownVariant name knownNames)

/-- Reads a name between quotes. -/
def key : Reader Dialect := do
  if (← Reader.peek) = some '"' then named (← Reader.quotedString) else Reader.malformed

/-- Reads nothing, which is written `null`. -/
def unit : Reader Unit := do
  if (← Reader.peek) = some 'n' then Reader.ofSkip (word? "null") else Reader.unexpected "unit"

/-- Reads a dialect. -/
def reader : Reader Dialect := do
  match ← Reader.peek with
  | some '"' => key
  | some '\x7b' =>
    Reader.advance
    let d ← key
    Reader.expect ':'
    unit
    Reader.expect '\x7d'
    return d
  | _ => Reader.malformed

end Dialect

end LinkedRecords.Sql
