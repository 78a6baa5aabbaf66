/-! # Reading a decimal as a number

A decimal is read into a significand of at most 64 bits and a power of ten. Whole numbers that fit
64 bits stay whole; anything else becomes a binary fraction by one multiplication or division.
-/

namespace LinkedRecords.Decimal

/-- A decimal as written: digits before and after the point, and an exponent. -/
structure Written where
  negative : Bool
  whole : List Nat
  fraction : Option (List Nat)
  /-- Whether the exponent is negative, and its digits. -/
  exponent : Option (Bool × List Nat)
deriving Repr, DecidableEq

/-- A number read from a decimal. -/
inductive Number where
  | integer (n : Int)
  | fraction (x : Float)
deriving Repr, Inhabited

/-- The greatest significand. -/
def significandLimit : Nat := Nat.pow 2 64 - 1

/-- The greatest exponent. -/
def exponentLimit : Nat := Nat.pow 2 31 - 1

/-- The digits appended to `n` as long as the result stays within `limit`, and the digits left. -/
def takeDigits (limit n : Nat) : List Nat → Nat × List Nat
  | [] => (n, [])
  | d :: ds => if n * 10 + d ≤ limit then takeDigits limit (n * 10 + d) ds else (n, d :: ds)

/-- The power of ten as a binary fraction, for exponents up to 308. -/
def powerOfTen (e : Nat) : Float := Float.ofScientific 1 false e

/-- `x / 10 ^ e`, in steps of at most `10 ^ 308`. -/
def divideByPower (x : Float) (e : Nat) : Float :=
  if e ≤ 308 then x / powerOfTen e
  else if x == 0 then x
  else divideByPower (x / powerOfTen 308) (e - 308)
termination_by e

/-- `significand * 10 ^ exponent`, if that is finite. -/
def scale? (significand : Nat) (exponent : Int) : Option Float :=
  let x := significand.toUInt64.toFloat
  if exponent < 0 then some (divideByPower x (-exponent).toNat)
  else if 308 < exponent then if x == 0 then some x else none
  else
    let y := x * powerOfTen exponent.toNat
    if y.isInf then none else some y

/-- The fraction with that sign. -/
def signed (negative : Bool) (x : Float) : Float :=
  if negative then -x else x

/-- The fraction that a decimal with a point, an exponent or too many digits stands for. Digits
beyond 64 bits are dropped: before the point each counts as a power of ten. -/
def Written.fraction? (w : Written) : Option Float :=
  let (n, surplus) := takeDigits significandLimit 0 w.whole
  let (significand, dropped) := takeDigits significandLimit n (w.fraction.getD [])
  let places := (w.fraction.getD []).length - dropped.length
  let power : Int := surplus.length - places
  match w.exponent with
  | none => (scale? significand power).map (signed w.negative)
  | some (down, digits) =>
    let (e, beyond) := takeDigits exponentLimit 0 digits
    if beyond.isEmpty then
      (scale? significand (if down then power - e else power + e)).map (signed w.negative)
    else if significand ≠ 0 ∧ !down then none
    else some (signed w.negative 0)

/-- The number that a decimal stands for; `none` if it is too large for a finite one. Zero with a
minus sign is a fraction, because only a fraction keeps the sign. -/
def Written.number? (w : Written) : Option Number :=
  match w.fraction, w.exponent, takeDigits significandLimit 0 w.whole with
  | none, none, (n, []) =>
    if !w.negative then some (.integer n)
    else if n = 0 ∨ Nat.pow 2 63 < n then some (.fraction (-n.toUInt64.toFloat))
    else some (.integer (-n))
  | _, _, _ => w.fraction?.map .fraction

end LinkedRecords.Decimal
