/-! # TOML values

A document is a table of values. Tables remember how they came about, because that decides which
later lines may still add to them.
-/

namespace LinkedRecords.Toml

/-- How a table came about. -/
inductive Origin where
  /-- As the middle of a header. -/
  | implied
  /-- As the middle of a dotted key. -/
  | dotted
  /-- By a header of its own. -/
  | header
deriving DecidableEq, Repr

/-- A TOML value. -/
inductive Value where
  | string (s : String)
  /-- An integer; `none` if what its digits should be is unreadable. -/
  | integer (n : Option Int)
  /-- A number with a point or an exponent; `finite` unless it is too large. -/
  | float (finite : Bool)
  | bool (b : Bool)
  /-- A date, a time of day, or both. -/
  | moment
  | array (items : List Value)
  /-- A table written as a value, which nothing can be added to. -/
  | inlined (entries : List (String × Value))
  | table (origin : Origin) (entries : List (String × Value))
  /-- The tables of a repeated header, last one first. -/
  | tables (reversed : List (List (String × Value)))
deriving Repr, Inhabited

/-- The entries of a table. -/
abbrev Entries := List (String × Value)

/-- The entries with the value under the key, in place of an old one or at the end. -/
def Entries.put (key : String) (v : Value) : Entries → Entries
  | [] => [(key, v)]
  | (k, w) :: rest => if k = key then (key, v) :: rest else (k, w) :: Entries.put key v rest

/-- The entries without a key. -/
def Entries.remove (key : String) (es : Entries) : Entries := es.filter (·.1 ≠ key)

namespace Value

/-- The least integer that can be read. -/
def leastInteger : Int := -Int.pow 2 127

/-- The greatest integer that can be read. -/
def greatestInteger : Int := Int.pow 2 128 - 1

mutual

/-- Whether all numbers in a value are readable and in range. -/
def inRange : Value → Bool
  | integer n => n.any fun n => leastInteger ≤ n && n ≤ greatestInteger
  | float finite => finite
  | string _ | bool _ | moment => true
  | array items => itemsInRange items
  | inlined entries | table _ entries => entriesInRange entries
  | tables ts => tablesInRange ts

/-- Whether all numbers in the items are readable and in range. -/
def itemsInRange : List Value → Bool
  | [] => true
  | v :: vs => v.inRange && itemsInRange vs

/-- Whether all numbers in the entries are readable and in range. -/
def entriesInRange : List (String × Value) → Bool
  | [] => true
  | (_, v) :: es => v.inRange && entriesInRange es

/-- Whether all numbers in the tables are readable and in range. -/
def tablesInRange : List (List (String × Value)) → Bool
  | [] => true
  | es :: ts => entriesInRange es && tablesInRange ts

end

/-- The items of an array, written as one or by a repeated header. -/
def items? : Value → Option (List Value)
  | array items => some items
  | tables reversed => some (reversed.reverse.map (.table .header))
  | _ => none

/-- The entries of a table, however it is written. -/
def entries? : Value → Option Entries
  | inlined entries | table _ entries => some entries
  | _ => none

end Value

/-! ## Building tables -/

namespace Entries

/-- Adds a value under a dotted key. The table that it lands in must have been made by dotted keys
too, unless the key has no dots; `fits` says that for the table at hand. No key is set twice. -/
def addDotted (fits : Bool) (key : String) (v : Value) :
    (path : List String) → Entries → Option Entries
  | [], es => if fits && (es.lookup key).isNone then some (es ++ [(key, v)]) else none
  | p :: path, es =>
    match es.lookup p with
    | none => (addDotted true key v path []).map fun t => es ++ [(p, .table .dotted t)]
    | some (.table .header _) => none
    | some (.table origin t) =>
      (addDotted (origin = .dotted) key v path t).map fun t => put p (.table origin t) es
    | some (.tables (t :: ts)) =>
      (addDotted false key v path t).map fun t => put p (.tables (t :: ts)) es
    | some _ => none

/-- Changes the table that a header's path leads to, making tables on the way. Of a repeated header
the last table is meant. -/
def atPath (change : Entries → Option Entries) : (path : List String) → Entries → Option Entries
  | [], es => change es
  | p :: path, es =>
    match es.lookup p with
    | none => (atPath change path []).map fun t => es ++ [(p, .table .implied t)]
    | some (.table origin t) => (atPath change path t).map fun t => put p (.table origin t) es
    | some (.tables (t :: ts)) =>
      (atPath change path t).map fun t => put p (.tables (t :: ts)) es
    | some _ => none

/-- The entries that a header starts with: those of a table that was only implied so far, or none.
A table has one header. -/
def opened (key : String) (es : Entries) : Option Entries :=
  match es.lookup key with
  | none => some []
  | some (.table .implied t) => some t
  | some _ => none

/-- The entries that a header with this path starts with. -/
def openedAt (key : String) : (path : List String) → Entries → Option Entries
  | [], es => es.opened key
  | p :: path, es =>
    match es.lookup p with
    | none => some []
    | some (.table _ t) => openedAt key path t
    | some (.tables (t :: _)) => openedAt key path t
    | some _ => none

/-- The entries with a finished table under its header. -/
def close (key : String) (t : Entries) (es : Entries) : Entries := put key (.table .header t) es

/-- The entries with a finished table of a repeated header. -/
def closeRepeated (key : String) (t : Entries) (es : Entries) : Option Entries :=
  match es.lookup key with
  | none => some (es ++ [(key, .tables [t])])
  | some (.tables ts) => some (put key (.tables (t :: ts)) es)
  | some _ => none

end Entries

end LinkedRecords.Toml
