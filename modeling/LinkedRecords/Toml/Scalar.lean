import LinkedRecords.Toml.Value

/-! # Unquoted TOML values

Booleans, numbers, dates and times, each recognised as a whole word. A word may hold blanks.
-/

namespace LinkedRecords.Toml

/-- A digit in a base up to 16. -/
def digitIn? (base : Nat) (c : Char) : Option Nat :=
  let value? :=
    if '0' ≤ c ∧ c ≤ '9' then some (c.toNat - '0'.toNat)
    else if 'a' ≤ c ∧ c ≤ 'f' then some (c.toNat - 'a'.toNat + 10)
    else if 'A' ≤ c ∧ c ≤ 'F' then some (c.toNat - 'A'.toNat + 10)
    else none
  value?.filter (· < base)

/-- Whether each underscore stands between two digits; `afterDigit` says whether a digit comes just
before. -/
def separates (isDigit : Char → Bool) (afterDigit : Bool) : List Char → Bool
  | [] => true
  | ['_'] => false
  | '_' :: c :: cs => afterDigit && isDigit c && separates isDigit true cs
  | c :: cs => separates isDigit (isDigit c) cs

/-- A digit of a base up to 16. -/
def isHexDigit (c : Char) : Bool := (digitIn? 16 c).isSome

/-- The number written by the digits of a word; `none` if there are none, or if the word holds
anything but digits and underscores. -/
def number? (base : Nat) (word : List Char) : Option Nat :=
  match word.filter (· ≠ '_') with
  | [] => none
  | digits => digits.foldlM (fun n c => (digitIn? base c).map (n * base + ·)) 0

/-- The value of a word of decimal digits and underscores between them. -/
def digits? (word : List Char) : Option Nat :=
  if separates Char.isDigit false word then number? 10 word else none

/-- The value of a word of decimal digits without a leading zero. -/
def decimal? : List Char → Option Nat
  | ['0'] => some 0
  | '0' :: _ => none
  | word => digits? word

/-- The sign of a number, and what stands behind it. -/
def signed : List Char → Bool × List Char
  | '-' :: rest => (true, rest)
  | '+' :: rest => (false, rest)
  | rest => (false, rest)

/-- The integer behind the mark of its base, which may lack digits. -/
def integerIn? (base : Nat) (word : List Char) : Option Value :=
  if separates isHexDigit false word && word.all (fun c => c = '_' || (digitIn? base c).isSome) then
    some (.integer ((number? base word).map Int.ofNat))
  else none

/-- Whether a word is taken for a decimal integer without its sign: digits without a leading zero
that may go on, behind an underscore, with anything but a point, an exponent or a space. -/
def isDecimal : List Char → Bool
  | ['0'] => true
  | '0' :: _ => false
  | word =>
    match word.dropWhile Char.isDigit with
    | [] => !word.isEmpty
    | c :: cs => c = '_' && separates isHexDigit false word && !cs.any (· ∈ ['.', 'e', 'E', ' '])

/-- An integer: decimal with a sign, or in another base without one. -/
def integer? : List Char → Option Value
  | '0' :: 'x' :: word => integerIn? 16 word
  | '0' :: 'o' :: word => integerIn? 8 word
  | '0' :: 'b' :: word => integerIn? 2 word
  | word =>
    let (negative, word) := signed word
    if isDecimal word then
      some (.integer ((number? 10 word).map fun n => if negative then -n else n))
    else none

/-- The text before and behind the first character that passes the test. -/
def splitAtFirst (p : Char → Bool) (cs : List Char) : List Char × Option (List Char) :=
  match cs.dropWhile (!p ·) with
  | [] => (cs, none)
  | _ :: rest => (cs.takeWhile (!p ·), some rest)

/-- The least number that rounds to no finite binary fraction of 64 bits. -/
def infiniteFrom : Nat := Nat.pow 2 1024 - Nat.pow 2 970

/-- Whether `m * 10 ^ e` rounds to a finite binary fraction of 64 bits. -/
def isFinite (m : Nat) (e : Int) : Bool :=
  if m = 0 then true
  else if 0 < e then e ≤ 400 && m * Nat.pow 10 e.toNat < infiniteFrom
  else m < infiniteFrom * Nat.pow 10 (min (-e).toNat (m.log2 + 1))

/-- A number with a point or an exponent. -/
def float? (word : List Char) : Option Value := do
  let (_, word) := signed word
  if word = "inf".toList ∨ word = "nan".toList then return .float true
  let (mantissa, exponent) := splitAtFirst (fun c => c = 'e' || c = 'E') word
  let (whole, fraction) := splitAtFirst (· = '.') mantissa
  if exponent.isNone && fraction.isNone then failure
  let n ← decimal? whole
  let (n, places) ← match fraction with
    | none => pure (n, 0)
    | some digits =>
      let places := (digits.filter (· ≠ '_')).length
      pure (n * Nat.pow 10 places + (← digits? digits), places)
  let e ← match exponent with
    | none => pure (0 : Int)
    | some digits =>
      let (negative, digits) := signed digits
      let e ← digits? digits
      pure (if negative then -(e : Int) else e)
  return .float (isFinite n (e - places))

/-! ## Dates and times -/

/-- Two digits at the front of a text, as a number. -/
def twoDigits? : List Char → Option (Nat × List Char)
  | a :: b :: rest => do return (10 * (← digitIn? 10 a) + (← digitIn? 10 b), rest)
  | _ => none

/-- The text behind a character. -/
def behind? (c : Char) : List Char → Option (List Char)
  | d :: rest => if c = d then some rest else none
  | [] => none

/-- The number of days in a month. -/
def daysIn (year month : Nat) : Nat :=
  if month = 2 then
    if year % 4 = 0 ∧ (year % 100 ≠ 0 ∨ year % 400 = 0) then 29 else 28
  else if month ∈ [4, 6, 9, 11] then 30
  else 31

/-- The text behind a date. -/
def date? (cs : List Char) : Option (List Char) := do
  let (high, cs) ← twoDigits? cs
  let (low, cs) ← twoDigits? cs
  let (month, cs) ← twoDigits? (← behind? '-' cs)
  let (day, cs) ← twoDigits? (← behind? '-' cs)
  if 1 ≤ month ∧ month ≤ 12 ∧ 1 ≤ day ∧ day ≤ daysIn (100 * high + low) month then return cs
  else failure

/-- The text behind the fraction of a second, if there is one. -/
def secondFraction? : List Char → Option (List Char)
  | '.' :: c :: cs => if c.isDigit then some (cs.dropWhile Char.isDigit) else none
  | '.' :: [] => none
  | cs => some cs

/-- The text behind the seconds of a time of day, if it has seconds. A minute may have a leap
second. -/
def seconds? : List Char → Option (List Char)
  | ':' :: cs => do
    let (second, cs) ← twoDigits? cs
    if second ≤ 60 then secondFraction? cs else failure
  | cs => some cs

/-- The text behind an hour and a minute. -/
def minutes? (cs : List Char) : Option (List Char) := do
  let (hour, cs) ← twoDigits? cs
  let (minute, cs) ← twoDigits? (← behind? ':' cs)
  if hour ≤ 23 ∧ minute ≤ 59 then return cs else failure

/-- The text behind a time of day. -/
def time? (cs : List Char) : Option (List Char) := (minutes? cs).bind seconds?

/-- The text behind the distance from universal time. -/
def offset? : List Char → Option (List Char)
  | 'Z' :: cs | 'z' :: cs => some cs
  | '+' :: cs | '-' :: cs => minutes? cs
  | cs => some cs

/-- Whether a word is a date, a time of day, or both, with an offset if it is both. -/
def isMoment (word : List Char) : Bool :=
  match date? word with
  | some [] => true
  | some (t :: cs) => (t = 'T' || t = 't' || t = ' ') && (time? cs).bind offset? == some []
  | none => time? word == some []

/-- The value of an unquoted word. -/
def scalar? (word : List Char) : Option Value :=
  if word = "true".toList then some (.bool true)
  else if word = "false".toList then some (.bool false)
  else if isMoment word then some .moment
  else
    (integer? word).or (float? word)

end LinkedRecords.Toml
