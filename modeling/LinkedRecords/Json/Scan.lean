import LinkedRecords.Decimal.Reading

/-! # The characters of JSON

Blanks, words, strings and numbers at the front of a text, and whole values that are only to be
skipped. Each function returns what it read and the text behind it, or nothing if the text does
not follow the grammar there.
-/

namespace LinkedRecords.Json

/-- The four blanks of JSON. -/
def isBlankChar (c : Char) : Bool :=
  c = ' ' || c = '\t' || c = '\n' || c = '\r'

/-- The text behind its leading blanks. -/
def skipBlanks (cs : List Char) : List Char := cs.dropWhile isBlankChar

/-- The text behind the word, if it begins with it. -/
def word? (word : String) (cs : List Char) : Option (List Char) :=
  if word.toList.isPrefixOf cs then some (cs.drop word.length) else none

/-! ## Strings -/

/-- The value of a hexadecimal digit. -/
def hexValue? (c : Char) : Option Nat :=
  if '0' ≤ c ∧ c ≤ '9' then some (c.toNat - '0'.toNat)
  else if 'a' ≤ c ∧ c ≤ 'f' then some (c.toNat - 'a'.toNat + 10)
  else if 'A' ≤ c ∧ c ≤ 'F' then some (c.toNat - 'A'.toNat + 10)
  else none

/-- The value of four hexadecimal digits. -/
def hexUnit? (a b c d : Char) : Option Nat := do
  return 4096 * (← hexValue? a) + 256 * (← hexValue? b) + 16 * (← hexValue? c) + (← hexValue? d)

/-- The character that a backslash and this letter stand for. -/
def simpleEscape? : Char → Option Char
  | '"' => some '"'
  | '\\' => some '\\'
  | '/' => some '/'
  | 'b' => some '\x08'
  | 'f' => some '\x0c'
  | 'n' => some '\n'
  | 'r' => some '\r'
  | 't' => some '\t'
  | _ => none

/-- Whether a unit is the first half of a surrogate pair. -/
def isHighSurrogate (n : Nat) : Bool := 0xD800 ≤ n && n ≤ 0xDBFF

/-- Whether a unit is the second half of a surrogate pair. -/
def isLowSurrogate (n : Nat) : Bool := 0xDC00 ≤ n && n ≤ 0xDFFF

/-- The character of a surrogate pair. -/
def pairChar (high low : Nat) : Char :=
  .ofNat (0x10000 + (high - 0xD800) * 0x400 + (low - 0xDC00))

/-- The character put in front of what a string holds. -/
def consChar (c : Char) (r : Option (List Char × List Char)) : Option (List Char × List Char) :=
  r.map fun (s, rest) => (c :: s, rest)

/-- The rest of a string, up to its closing quote. A half of a surrogate pair must not stand
alone. -/
def stringBody? : List Char → Option (List Char × List Char)
  | [] => none
  | '"' :: rest => some ([], rest)
  | '\\' :: 'u' :: a :: b :: c :: d :: rest =>
    match hexUnit? a b c d with
    | none => none
    | some n =>
      if isLowSurrogate n then none
      else if isHighSurrogate n then
        match rest with
        | '\\' :: 'u' :: a' :: b' :: c' :: d' :: rest' =>
          match hexUnit? a' b' c' d' with
          | none => none
          | some m =>
            if isLowSurrogate m then consChar (pairChar n m) (stringBody? rest') else none
        | _ => none
      else consChar (.ofNat n) (stringBody? rest)
  | '\\' :: e :: rest =>
    match simpleEscape? e with
    | some c => consChar c (stringBody? rest)
    | none => none
  | c :: rest => if c.toNat < 0x20 then none else consChar c (stringBody? rest)

/-- The text behind the closing quote of a string that is not wanted; its surrogates are not
looked at. -/
def skipString? : List Char → Option (List Char)
  | [] => none
  | '"' :: rest => some rest
  | '\\' :: 'u' :: a :: b :: c :: d :: rest =>
    if (hexUnit? a b c d).isSome then skipString? rest else none
  | '\\' :: e :: rest => if (simpleEscape? e).isSome then skipString? rest else none
  | c :: rest => if c.toNat < 0x20 then none else skipString? rest

/-! ## Numbers -/

/-- The decimal digits at the front of a text. -/
def digits (cs : List Char) : List Nat × List Char :=
  ((cs.takeWhile Char.isDigit).map fun c => c.toNat - '0'.toNat, cs.dropWhile Char.isDigit)

/-- The digits before the point: a zero alone, or digits that do not start with one. -/
def wholePart? (cs : List Char) : Option (List Nat × List Char) :=
  match digits cs with
  | ([], _) => none
  | (0 :: _ :: _, _) => none
  | (ds, rest) => some (ds, rest)

/-- A point and the digits behind it, if there is a point. -/
def fractionPart? : List Char → Option (Option (List Nat) × List Char)
  | '.' :: cs =>
    match digits cs with
    | ([], _) => none
    | (ds, rest) => some (some ds, rest)
  | cs => some (none, cs)

/-- The digits of an exponent, whose sign is known. -/
def exponentDigits? (negative : Bool) (cs : List Char) :
    Option (Option (Bool × List Nat) × List Char) :=
  match digits cs with
  | ([], _) => none
  | (ds, rest) => some (some (negative, ds), rest)

/-- An exponent, if there is one. -/
def exponentPart? : List Char → Option (Option (Bool × List Nat) × List Char)
  | c :: cs =>
    if c = 'e' ∨ c = 'E' then
      match cs with
      | '-' :: rest => exponentDigits? true rest
      | '+' :: rest => exponentDigits? false rest
      | rest => exponentDigits? false rest
    else some (none, c :: cs)
  | [] => some (none, [])

/-- A number as written. -/
def written? (cs : List Char) : Option (Decimal.Written × List Char) := do
  let (negative, cs) := match cs with
    | '-' :: rest => (true, rest)
    | rest => (false, rest)
  let (whole, cs) ← wholePart? cs
  let (fraction, cs) ← fractionPart? cs
  let (exponent, cs) ← exponentPart? cs
  return (⟨negative, whole, fraction, exponent⟩, cs)

/-- A number that is not too large. -/
def number? (cs : List Char) : Option (Decimal.Number × List Char) := do
  let (w, rest) ← written? cs
  return (← w.number?, rest)

/-! ## Values that are not wanted -/

/-- A container that is being skipped. -/
inductive Container where
  | array
  | object
deriving DecidableEq, Repr

/-- The text behind a word, a string or a number. -/
def skipScalar? : List Char → Option (List Char)
  | '"' :: cs => skipString? cs
  | 'n' :: cs => word? "ull" cs
  | 't' :: cs => word? "rue" cs
  | 'f' :: cs => word? "alse" cs
  | cs => (written? cs).map (·.2)

/-- The text behind a key and its colon. -/
def skipKey? (cs : List Char) : Option (List Char) :=
  match skipBlanks cs with
  | '"' :: cs =>
    match (skipString? cs).map skipBlanks with
    | some (':' :: rest) => some rest
    | _ => none
  | _ => none

/-- What comes next in a value that is being skipped. -/
inductive SkipState where
  | value
  /-- Behind the opening bracket. -/
  | opened
  /-- Behind a value. -/
  | closed
deriving DecidableEq, Repr

/-- Skips to the end of the outermost value, with the open containers kept innermost first.
Containers may be nested to any depth. -/
def skipOpen? : (fuel : Nat) → SkipState → List Container → List Char → Option (List Char)
  | 0, _, _, _ => none
  | _ + 1, .closed, [], cs => some cs
  | fuel + 1, .closed, c :: stack, cs =>
    match c, skipBlanks cs with
    | .array, ']' :: rest => skipOpen? fuel .closed stack rest
    | .object, '\x7d' :: rest => skipOpen? fuel .closed stack rest
    | .array, ',' :: rest => skipOpen? fuel .value (c :: stack) rest
    | .object, ',' :: rest =>
      match skipKey? rest with
      | some rest => skipOpen? fuel .value (c :: stack) rest
      | none => none
    | _, _ => none
  | fuel + 1, .value, stack, cs =>
    match skipBlanks cs with
    | '[' :: rest => skipOpen? fuel .opened (.array :: stack) rest
    | '\x7b' :: rest => skipOpen? fuel .opened (.object :: stack) rest
    | rest =>
      match skipScalar? rest with
      | some rest => skipOpen? fuel .closed stack rest
      | none => none
  | _ + 1, .opened, [], _ => none
  | fuel + 1, .opened, .array :: stack, cs =>
    match skipBlanks cs with
    | ']' :: rest => skipOpen? fuel .closed stack rest
    | rest => skipOpen? fuel .value (.array :: stack) rest
  | fuel + 1, .opened, .object :: stack, cs =>
    match skipBlanks cs with
    | '\x7d' :: rest => skipOpen? fuel .closed stack rest
    | rest =>
      match skipKey? rest with
      | some rest => skipOpen? fuel .value (.object :: stack) rest
      | none => none

/-- The text behind a value. Every second step at least takes a character. -/
def skipValue? (cs : List Char) : Option (List Char) :=
  skipOpen? (2 * cs.length + 2) .value [] cs

end LinkedRecords.Json
