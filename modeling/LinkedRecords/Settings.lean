import LinkedRecords.Compile.Options
import LinkedRecords.Record
import LinkedRecords.Text.Blank
import LinkedRecords.Toml.Document

/-! # Settings

The options of a compilation, read from a TOML document. Every key may be missing, and unknown
keys mean nothing; but a name that a query is made of must not be blank.
-/

namespace LinkedRecords

/-- Why settings cannot be used. -/
inductive SettingsError where
  | fileNotFound (path : String)
  /-- The file cannot be read as text. -/
  | unreadable
  /-- The text is no document, or a value has the wrong type. -/
  | unparsable
  /-- The name under this key is blank. -/
  | blankName (key : String)
deriving DecidableEq, Repr

/-- The error in words; nothing more is said of what the system or the parser reports. -/
def SettingsError.message : SettingsError → String
  | fileNotFound path => "Config file not found: " ++ path
  | unreadable => "Failed to read config file"
  | unparsable => "Failed to parse config file"
  | blankName key => "Invalid configuration: " ++ key ++ " must not be empty"

namespace Settings

open Sql

/-! ## Values -/

/-- Decodes a TOML value, if it has the right type. -/
abbrev Decoder := ReaderT Toml.Value Option

/-- A string. -/
def string : Decoder String
  | .string s => some s
  | _ => none

/-- A boolean. -/
def bool : Decoder Bool
  | .bool b => some b
  | _ => none

/-- Whether a value holds nothing. -/
def isUnit (v : Toml.Value) : Bool :=
  match v.items?, v.entries? with
  | some items, _ => items.isEmpty
  | _, some entries => entries.isEmpty
  | none, none => false

/-- A dialect: its name, or a table with that name as its one key and nothing under it. -/
def dialect : Decoder Dialect
  | .string name => Dialect.ofName? name
  | v =>
    match v.entries? with
    | some [(name, unit)] => if isUnit unit then Dialect.ofName? name else none
    | _ => none

/-- The members of a table. Of an unknown key, only the numbers must be in range. -/
def members (slots : List (Slot Decoder)) (entries : Toml.Entries) : Option (Draft slots) :=
  entries.foldlM (fun draft (key, v) =>
    match Draft.put key slots draft with
    | .place decode => decode v
    | .repeated => none
    | .unknown => if v.inRange then some draft else none) (Draft.empty slots)

/-- The members of an array, by position; what is left over means nothing. -/
def positions : (slots : List (Slot Decoder)) → List Toml.Value → Option (Draft slots)
  | [], _ => some ()
  | _ :: slots, [] => return (none, ← positions slots [])
  | s :: slots, v :: vs => do return (some (← s.decode v), ← positions slots vs)

/-- A section, as a table or as an array. A moment is taken for a table of unknown keys. -/
def record (slots : List (Slot Decoder)) : Decoder (Filled slots) := fun v => do
  let draft ← match v, v.items?, v.entries? with
    | .moment, _, _ => some (Draft.empty slots)
    | _, some items, _ => positions slots items
    | _, _, some entries => members slots entries
    | _, none, none => none
  match draft.complete with
  | .ok members => some members
  | .error _ => none

/-! ## Sections -/

/-- The default options. -/
def defaults : Options := {}

/-- The keys of the section about queries. -/
def querySlots : List (Slot Decoder) := [
  ⟨Dialect, "dialect", dialect, some defaults.dialect⟩,
  ⟨String, "base_alias", string, some defaults.baseAlias⟩,
  ⟨String, "id_column", string, some defaults.idColumn⟩,
  ⟨String, "expand_suffix", string, some defaults.expandSuffix⟩,
  ⟨Bool, "coalesce_counts", bool, some defaults.coalesceCounts⟩]

/-- The section about queries: the default options with what it says. -/
def querySection : Decoder Options := do
  let (dialect, baseAlias, idColumn, expandSuffix, coalesceCounts, ()) ← record querySlots
  return { dialect, baseAlias, idColumn, expandSuffix, coalesceCounts }

/-- The keys of the section about files. -/
def fileSlots : List (Slot Decoder) := [
  ⟨String, "table", string, some defaults.files.table⟩,
  ⟨String, "record_id_column", string, some defaults.files.recordColumn⟩,
  ⟨String, "field_id_column", string, some defaults.files.fieldColumn⟩]

/-- The section about files. -/
def fileSection : Decoder FileOptions := do
  let (table, recordColumn, fieldColumn, ()) ← record fileSlots
  return ⟨table, recordColumn, fieldColumn⟩

/-- The two sections of a document. -/
def sectionSlots : List (Slot Decoder) := [
  ⟨Options, "compiler", querySection, some defaults⟩,
  ⟨FileOptions, "attachment", fileSection, some defaults.files⟩]

/-- The options of a document. -/
def document : Decoder Options := do
  let (options, files, ()) ← record sectionSlots
  return { options with files }

/-! ## Names -/

/-- The names that a query cannot do without, with their keys. -/
def requiredNames (o : Options) : List (String × String) := [
  ("compiler.base_alias", o.baseAlias),
  ("compiler.id_column", o.idColumn),
  ("attachment.table", o.files.table),
  ("attachment.record_id_column", o.files.recordColumn),
  ("attachment.field_id_column", o.files.fieldColumn)]

/-- The options, unless a name is blank. -/
def checked (o : Options) : Except SettingsError Options :=
  match (requiredNames o).find? fun (_, name) => Text.isBlank name with
  | some (key, _) => .error (.blankName key)
  | none => .ok o

end Settings

/-- The options that a text sets. -/
def Options.ofToml (text : String) : Except SettingsError Options :=
  match (Toml.parse? text).bind fun entries => Settings.document (.table .header entries) with
  | some o => Settings.checked o
  | none => .error .unparsable

end LinkedRecords
