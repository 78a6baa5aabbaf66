import LinkedRecords.Toml.Scalar

/-! # TOML documents

A document is read line by line: a header opens a table, a key and a value add to it. Nothing is
told about what is wrong with a text that is no document.
-/

namespace LinkedRecords.Toml

/-- Reads something from the front of a text, if it is there. -/
abbrev Scanner := StateT (List Char) Option

namespace Scanner

/-- The next character, which stays in the text. -/
def peek : Scanner (Option Char) := return (← get).head?

/-- Passes some characters. -/
def advance (n : Nat) : Scanner Unit := modify (List.drop n)

/-- Whether the text goes on with these characters, which are passed then. -/
def pass (start : String) : Scanner Bool := do
  if start.toList.isPrefixOf (← get) then
    advance start.length
    return true
  else return false

/-- Passes these characters, which must be there. -/
def expect (start : String) : Scanner Unit := do
  if ← pass start then return () else failure

/-- The characters up to the first that fails the test, which are passed. -/
def takeWhile (p : Char → Bool) : Scanner (List Char) := do
  let cs ← get
  set (cs.dropWhile p)
  return cs.takeWhile p

/-- A bound on the number of steps that the text that is left allows. -/
def fuel : Scanner Nat := return (← get).length + 1

end Scanner

open Scanner

/-! ## Blanks and comments -/

/-- A blank within a line. -/
def isBlank (c : Char) : Bool := c = ' ' || c = '\t'

/-- A character that may stand in a comment or in a literal string. -/
def isPlain (c : Char) : Bool := c = '\t' || (0x20 ≤ c.toNat && c.toNat ≠ 0x7F)

/-- Passes blanks. -/
def blanks : Scanner Unit := discard (takeWhile isBlank)

/-- Passes a line's end, if it comes next. -/
def newline : Scanner Bool := do
  if ← pass "\n" then return true else pass "\r\n"

/-- Passes a comment, if one comes next. -/
def comment : Scanner Unit := do
  if ← pass "#" then discard (takeWhile isPlain)

/-- Passes the rest of a line that holds nothing any more. -/
def endLine : Scanner Unit := do
  blanks
  comment
  if (← get).isEmpty then return ()
  if ← newline then return () else failure

/-- The text behind blanks, comments and the ends of lines; `inComment` says whether the text starts
within a comment. -/
def afterBlankLines (inComment : Bool) : List Char → List Char
  | [] => []
  | '\r' :: '\n' :: cs => afterBlankLines false cs
  | c :: cs =>
    if c = '\n' then afterBlankLines false cs
    else if inComment then if isPlain c then afterBlankLines true cs else c :: cs
    else if c = '#' then afterBlankLines true cs
    else if isBlank c then afterBlankLines false cs
    else c :: cs

/-- Passes blanks, comments and the ends of lines. -/
def blankLines : Scanner Unit := modify (afterBlankLines false)

/-! ## Strings -/

/-- The character of a number written with so many hexadecimal digits. -/
def escapedNumber (count : Nat) : Scanner Char := do
  let cs ← get
  let digits := cs.take count
  advance count
  if digits.length = count ∧ digits.all isHexDigit then
    let n := digits.foldl (fun n c => 16 * n + (digitIn? 16 c).getD 0) 0
    if n.isValidChar then return .ofNat n else failure
  else failure

/-- The character of an escape, behind its backslash. -/
def escaped : Scanner Char := do
  let c ← peek
  advance 1
  match c with
  | some 'b' => return '\x08'
  | some 't' => return '\t'
  | some 'n' => return '\n'
  | some 'f' => return '\x0c'
  | some 'r' => return '\r'
  | some 'e' => return '\x1b'
  | some '"' => return '"'
  | some '\\' => return '\\'
  | some 'x' => escapedNumber 2
  | some 'u' => escapedNumber 4
  | some 'U' => escapedNumber 8
  | _ => failure

/-- The rest of a string in one line between double quotes; what was read so far is reversed. -/
def basicFrom (done : List Char) : (steps : Nat) → Scanner String
  | 0 => failure
  | steps + 1 => do
    match ← peek with
    | some '"' => advance 1; return .ofList done.reverse
    | some '\\' => advance 1; basicFrom ((← escaped) :: done) steps
    | some c => if isPlain c then do advance 1; basicFrom (c :: done) steps else failure
    | none => failure

/-- A string in one line between single quotes, behind the first of them. -/
def literalString : Scanner String := do
  let cs ← takeWhile fun c => isPlain c && c ≠ '\''
  expect "'"
  return .ofList cs

/-- The text behind blanks and the ends of lines. -/
def afterEmptyLines : List Char → List Char
  | [] => []
  | '\r' :: '\n' :: cs => afterEmptyLines cs
  | c :: cs => if isBlank c || c = '\n' then afterEmptyLines cs else c :: cs

/-- Passes the blanks and lines behind a backslash that ends a line. -/
def continuedLine : Scanner Unit := do
  blanks
  if ← newline then modify afterEmptyLines else failure

/-- The end of a string of several lines: up to two more quotes belong to the string. -/
def closeQuotes (quote : Char) (done : List Char) : Scanner (Option String) := do
  let quotes := (← get).takeWhile (· = quote)
  if quotes.length < 3 then return none
  else if quotes.length ≤ 5 then
    advance quotes.length
    return some (.ofList (done.reverse ++ quotes.drop 3))
  else
    advance 5
    return some (.ofList (done.reverse ++ [quote, quote]))

/-- The rest of a string of several lines; what was read so far is reversed. -/
def linesFrom (quote : Char) (escapes : Bool) (done : List Char) : (steps : Nat) → Scanner String
  | 0 => failure
  | steps + 1 => do
    if let some s ← closeQuotes quote done then return s
    match ← get with
    | '\\' :: _ =>
      advance 1
      if !escapes then linesFrom quote escapes ('\\' :: done) steps
      else
        match ← peek with
        | some c =>
          if isBlank c ∨ c = '\n' ∨ c = '\r' then
            continuedLine
            linesFrom quote escapes done steps
          else linesFrom quote escapes ((← escaped) :: done) steps
        | none => failure
    | '\r' :: '\n' :: _ => advance 2; linesFrom quote escapes ('\n' :: '\r' :: done) steps
    | c :: _ =>
      if isPlain c ∨ c = '\n' then
        advance 1
        linesFrom quote escapes (c :: done) steps
      else failure
    | [] => failure

/-- A string, if one comes next; `lines` allows several lines. -/
def string? (lines : Bool) : Scanner (Option String) := do
  let several (quote : Char) (escapes : Bool) : Scanner (Option String) := do
    discard newline
    return some (← linesFrom quote escapes [] (← fuel))
  if ← (if lines then pass "\"\"\"" else return false) then several '"' true
  else if ← (if lines then pass "'''" else return false) then several '\'' false
  else if ← pass "\"" then return some (← basicFrom [] (← fuel))
  else if ← pass "'" then return some (← literalString)
  else return none

/-! ## Keys -/

/-- A character of a key without quotes. -/
def isBareKeyChar (c : Char) : Bool := c.isAlphanum || c = '_' || c = '-'

/-- One part of a key. -/
def simpleKey : Scanner String := do
  match ← string? false with
  | some s => return s
  | none =>
    let cs ← takeWhile isBareKeyChar
    if cs.isEmpty then failure else return .ofList cs

/-- The parts of a key, with dots between; blanks around them are passed. -/
def keyParts : (steps : Nat) → Scanner (List String)
  | 0 => failure
  | steps + 1 => do
    blanks
    let part ← simpleKey
    blanks
    if ← pass "." then return part :: (← keyParts steps) else return [part]

/-- Arrays and tables may be nested this deep, and a key may have so many parts. -/
def nestingLimit : Nat := 80

/-- A key: the path to its table, and its last part. -/
def key : Scanner (List String × String) := do
  let parts ← keyParts (← fuel)
  match parts.getLast? with
  | some last => if parts.length ≤ nestingLimit then return (parts.dropLast, last) else failure
  | none => failure

/-! ## Values -/

/-- A character of an unquoted value: any but blanks, ends of lines and the marks of arrays, tables
and comments. -/
def isWordChar (c : Char) : Bool :=
  c ∉ [' ', '\t', '\n', '\r', '#', '=', ',', '[', ']', '\x7b', '\x7d']

/-- Whether an unquoted value that was left at a blank goes on behind the blanks: anything but a
string, a point and what ends such a value continues it. -/
def goesOn (cs : List Char) : Bool :=
  match cs.dropWhile isBlank with
  | c :: _ => isWordChar c && c ∉ ['"', '\'', '.']
  | [] => false

/-- An unquoted value at the front of a text, with the blanks within it, and the text behind it. -/
def splitWord : List Char → List Char × List Char
  | [] => ([], [])
  | c :: cs =>
    if isWordChar c || isBlank c && goesOn cs then
      let (w, rest) := splitWord cs
      (c :: w, rest)
    else ([], c :: cs)

/-- An unquoted value. -/
def word : Scanner Value := do
  let (w, rest) := splitWord (← get)
  set rest
  match scalar? w with
  | some v => return v
  | none => failure

/-- The items of an array up to its closing bracket, over several lines. -/
def arrayItems (value : Scanner Value) : (steps : Nat) → Scanner (List Value)
  | 0 => failure
  | steps + 1 => do
    blankLines
    if ← pass "]" then return []
    let v ← value
    blankLines
    if ← pass "," then return v :: (← arrayItems value steps)
    expect "]"
    return [v]

/-- The entries of a table written as a value, behind `es`, up to its closing brace, over several
lines. -/
def inlinedEntries (value : Scanner Value) (es : Entries) : (steps : Nat) → Scanner Entries
  | 0 => failure
  | steps + 1 => do
    blankLines
    if ← pass "\x7d" then return es
    let (path, k) ← key
    blankLines
    expect "="
    blankLines
    let v ← value
    blankLines
    match es.addDotted path.isEmpty k v path with
    | none => failure
    | some es =>
      if ← pass "," then inlinedEntries value es steps
      else
        expect "\x7d"
        return es

/-- A value, whose parts are read by `part` if it may have any. -/
def valueOf (part : Option (Scanner Value)) : Scanner Value := do
  match ← string? true, part with
  | some s, _ => return .string s
  | none, none => word
  | none, some part =>
    if ← pass "[" then return .array (← arrayItems part (← fuel))
    else if ← pass "\x7b" then return .inlined (← inlinedEntries part [] (← fuel))
    else word

/-- A value, with at most `depth` arrays and tables in each other. -/
def value : (depth : Nat) → Scanner Value
  | 0 => valueOf none
  | depth + 1 => valueOf (some (value depth))

/-! ## Lines -/

/-- A header: the path to its table, the last part, and whether it may come again. -/
structure Header where
  path : List String
  key : String
  repeats : Bool
deriving Repr

/-- A document being read: the tables that are finished, and the one that lines add to. -/
structure Building where
  finished : Entries := []
  header : Option Header := none
  current : Entries := []

namespace Building

/-- All tables, with the current one put in its place. -/
def close (b : Building) : Option Entries :=
  match b.header with
  | none => some b.current
  | some h =>
    if h.repeats then b.finished.atPath (Entries.closeRepeated h.key b.current) h.path
    else b.finished.atPath (fun es => some (Entries.close h.key b.current es)) h.path

/-- The document with a new current table. For a header that may come again, the place must be free
or hold tables of the same header. -/
def start (b : Building) (h : Header) : Option Building := do
  let finished ← b.close
  if h.repeats then
    let _ ← finished.atPath (Entries.closeRepeated h.key []) h.path
    return ⟨finished, some h, []⟩
  else return ⟨finished, some h, ← finished.openedAt h.key h.path⟩

/-- The document with one more value in its current table. -/
def add (b : Building) (path : List String) (key : String) (v : Value) : Option Building := do
  return { b with current := ← b.current.addDotted path.isEmpty key v path }

end Building

/-- Takes a result that may be missing. -/
def ofOption {α : Type} (a : Option α) : Scanner α :=
  match a with
  | some a => return a
  | none => failure

/-- The rest of a header's line, behind its opening brackets. -/
def headerLine (repeats : Bool) : Scanner Header := do
  let (path, k) ← key
  expect (if repeats then "]]" else "]")
  endLine
  return ⟨path, k, repeats⟩

/-- The lines of a document. -/
def linesOf (b : Building) : (steps : Nat) → Scanner Building
  | 0 => failure
  | steps + 1 => do
    blankLines
    if (← get).isEmpty then return b
    if ← pass "[[" then linesOf (← ofOption (b.start (← headerLine true))) steps
    else if ← pass "[" then linesOf (← ofOption (b.start (← headerLine false))) steps
    else
      let (path, k) ← key
      expect "="
      blanks
      let v ← value nestingLimit
      endLine
      linesOf (← ofOption (b.add path k v)) steps

/-- The entries of a text that is a document. A byte order mark at its start is passed. -/
def parse? (text : String) : Option Entries := do
  let cs := match text.toList with
    | '\uFEFF' :: rest => rest
    | cs => cs
  let (b, _) ← (linesOf {} (cs.length + 1)).run cs
  b.close

end LinkedRecords.Toml
