/-! # Shortest decimal text of a binary fraction

The fewest decimal digits that read back as the same 64-bit binary fraction, found in exact
integer arithmetic: of the decimal grids, the coarsest that has a point in the interval of reals
rounding to the number wins, and of two points on it the nearer one.
-/

namespace LinkedRecords.Decimal

/-- A positive number `mantissa * 2 ^ exponent` of the binary format; `narrow` says that the next
smaller number is only half as far away as the next greater one. -/
structure Binary where
  mantissa : Nat
  exponent : Int
  narrow : Bool
deriving Repr, DecidableEq

/-- The magnitude of a finite number from its bits; `none` for zero. -/
def Binary.ofBits (bits : Nat) : Option Binary :=
  let fraction : Nat := bits % Nat.pow 2 52
  let biased : Nat := bits / Nat.pow 2 52 % Nat.pow 2 11
  if biased = 0 then
    if fraction = 0 then none else some ⟨fraction, -1074, false⟩
  else some ⟨Nat.pow 2 52 + fraction, Int.ofNat biased - 1075, fraction = 0 && biased > 1⟩

/-- The numbers `low`, `value` and `high` over a common denominator: the reals that round to
`value` lie between `low` and `high`, which round to it too if `closed`. -/
structure Interval where
  low : Nat
  value : Nat
  high : Nat
  denominator : Nat
  closed : Bool
deriving Repr, DecidableEq

/-- The interval of the reals that round to a number. -/
def Binary.interval (b : Binary) : Interval :=
  let scale := b.exponent - 2
  let up := Nat.pow 2 scale.toNat
  let value := 4 * b.mantissa
  ⟨(value - if b.narrow then 1 else 2) * up, value * up, (value + 2) * up, Nat.pow 2 (-scale).toNat,
    b.mantissa % 2 = 0⟩

/-- The interval in units of `10 ^ exponent`. -/
def Interval.scaled (i : Interval) (exponent : Int) : Interval :=
  let down := Nat.pow 10 (-exponent).toNat
  ⟨i.low * down, i.value * down, i.high * down, i.denominator * Nat.pow 10 exponent.toNat, i.closed⟩

/-- Whether the whole number `n` lies in the interval. -/
def Interval.holds (i : Interval) (n : Nat) : Bool :=
  let point := n * i.denominator
  if i.closed then i.low ≤ point && point ≤ i.high else i.low < point && point < i.high

/-- The whole number in the interval that is nearest to its value, an even one of two equally
near; `none` if the interval holds none of the value's two neighbours. -/
def Interval.whole? (i : Interval) : Option Nat :=
  let below := i.value / i.denominator
  let above := below + 1
  match i.holds below, i.holds above with
  | true, false => some below
  | false, true => some above
  | false, false => none
  | true, true =>
    let toBelow := i.value - below * i.denominator
    let toAbove := above * i.denominator - i.value
    if toBelow < toAbove then some below
    else if toAbove < toBelow then some above
    else if below % 2 = 0 then some below else some above

/-- The coarsest grid from `10 ^ exponent` down that has a point in the interval, searched over
`steps` grids, and that point. -/
def Interval.coarsest (i : Interval) (exponent : Int) : (steps : Nat) → Nat × Int
  | 0 => (0, 0)
  | steps + 1 =>
    match (i.scaled exponent).whole? with
    | some n => (n, exponent)
    | none => i.coarsest (exponent - 1) steps

/-- The digits and the exponent of the shortest decimal that reads back as the number. -/
def Binary.shortest (b : Binary) : Nat × Int :=
  b.interval.coarsest 309 660

/-- Where positional notation ends: the largest and the smallest place of the decimal point,
counted from the first digit, at which a number is written out. -/
structure PositionalForm where
  most : Int
  least : Int
deriving Repr, DecidableEq

/-- Numbers of 16 digits at most before the point, or of 4 zeros at most behind it, are written
out. -/
def jsonForm : PositionalForm := ⟨16, -4⟩

/-- An exponent behind its mark `e`, always with a sign. -/
def exponentText (exponent : Int) : List Char :=
  'e' :: (if exponent < 0 then '-' else '+') :: (toString exponent.natAbs).toList

/-- The decimal `digits * 10 ^ exponent` in a notation. A whole number that is written out ends in
`.0`. -/
def PositionalForm.text (form : PositionalForm) (digits : Nat) (exponent : Int) : String :=
  let ds := (toString digits).toList
  let point := ds.length + exponent
  .ofList <|
    if 0 ≤ exponent ∧ point ≤ form.most then
      ds ++ List.replicate exponent.toNat '0' ++ ['.', '0']
    else if 0 < point ∧ point ≤ form.most then
      ds.take point.toNat ++ '.' :: ds.drop point.toNat
    else if form.least ≤ point ∧ point ≤ 0 then
      ['0', '.'] ++ List.replicate (-point).toNat '0' ++ ds
    else
      let tail := if ds.length = 1 then [] else '.' :: ds.drop 1
      ds.take 1 ++ tail ++ exponentText (point - 1)

/-- The text of a finite number, as JSON writes it. -/
def text (x : Float) : String :=
  let bits := x.toBits.toNat
  let sign := if bits / Nat.pow 2 63 = 1 then "-" else ""
  match Binary.ofBits bits with
  | none => sign ++ "0.0"
  | some b =>
    let (digits, exponent) := b.shortest
    sign ++ jsonForm.text digits exponent

end LinkedRecords.Decimal
