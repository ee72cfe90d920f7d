import BrowserScript.Decimal.Binary64

/-!
# Shortest decimals

The decimal with the fewest digits that reads back as a given binary number. A number stands for the
interval of reals that round to it; the grids of one, two, … digits are searched for a point of
that interval, and the first grid with a hit wins. Of two hits the nearer is taken.
-/

namespace BrowserScript.Decimal

/-- A positive decimal `digits * 10 ^ exponent`. -/
structure Numeral where
  digits : Nat
  exponent : Int
  deriving DecidableEq, Repr

/-- A positive real `numerator / denominator`. -/
structure Ratio where
  numerator : Nat
  denominator : Nat
  deriving DecidableEq, Repr

namespace Ratio

def le (x y : Ratio) : Bool := x.numerator * y.denominator ≤ y.numerator * x.denominator

def lt (x y : Ratio) : Bool := x.numerator * y.denominator < y.numerator * x.denominator

/-- The point `n` of the grid with step `10 ^ exponent`. -/
def gridPoint (n : Nat) (exponent : Int) : Ratio :=
  if 0 ≤ exponent then ⟨n * Nat.pow 10 exponent.toNat, 1⟩ else ⟨n, Nat.pow 10 (-exponent).toNat⟩

/-- How many whole steps `10 ^ exponent` fit below. -/
def stepsBelow (x : Ratio) (exponent : Int) : Nat :=
  if 0 ≤ exponent then x.numerator / (x.denominator * Nat.pow 10 exponent.toNat)
  else x.numerator * Nat.pow 10 (-exponent).toNat / x.denominator

end Ratio

/-- The reals that round to a number, with the number itself between them. Both ends belong to the
interval exactly when the significand is even. -/
structure Interval where
  low : Ratio
  middle : Ratio
  high : Ratio
  closed : Bool
  deriving Repr

namespace Interval

def contains (interval : Interval) (x : Ratio) : Bool :=
  if interval.closed then interval.low.le x && x.le interval.high
  else interval.low.lt x && x.lt interval.high

/-- The interval of `significand * 2 ^ exponent`; `narrow` says that the next number below is only
half a step away. -/
def ofParts (significand : Nat) (exponent : Int) (narrow : Bool) : Interval :=
  let scale (quarters : Nat) : Ratio :=
    if 2 ≤ exponent then ⟨quarters * Nat.pow 2 (exponent - 2).toNat, 1⟩
    else ⟨quarters, Nat.pow 2 (2 - exponent).toNat⟩
  { low := scale (4 * significand - if narrow then 1 else 2)
    middle := scale (4 * significand)
    high := scale (4 * significand + 2)
    closed := significand % 2 == 0 }

/-- Of the two grid points around the middle, the nearer one that lies in the interval; of two
equally near, the even one. -/
def hit? (interval : Interval) (exponent : Int) : Option Nat :=
  let below := interval.middle.stepsBelow exponent
  let inBelow := 0 < below && interval.contains (Ratio.gridPoint below exponent)
  let inAbove := interval.contains (Ratio.gridPoint (below + 1) exponent)
  if inBelow && inAbove then
    -- the middle lies below or above the point halfway between the two
    let halfway := Ratio.gridPoint (10 * below + 5) (exponent - 1)
    if interval.middle.lt halfway then some below
    else if halfway.lt interval.middle then some (below + 1)
    else some (if below % 2 = 0 then below else below + 1)
  else if inBelow then some below
  else if inAbove then some (below + 1)
  else none

end Interval

/-- How many decimal digits a positive number has before the point. -/
def digitCount (n : Nat) : Nat := (Nat.toDigits 10 n).length

/-- The exponent of the first digit: `10 ^ e ≤ x < 10 ^ (e + 1)`. -/
def leadingExponent (x : Ratio) : Int :=
  if x.denominator ≤ x.numerator then (digitCount (x.numerator / x.denominator) : Int) - 1
  else
    -- counting digits of the reciprocal gives the exponent up to one
    let guess : Int := -(digitCount (x.denominator / x.numerator) : Int)
    if (Ratio.gridPoint 1 (guess + 1)).le x then guess + 1 else guess

/-- The first grid with a hit, from `digits` digits on. -/
def search (interval : Interval) (lead : Int) : Nat → Nat → Option Numeral
  | 0, _ => none
  | grids + 1, digits =>
    let exponent := lead + 1 - digits
    match interval.hit? exponent with
    | some n => some ⟨n, exponent⟩
    | none => search interval lead grids (digits + 1)

/-- Without trailing zeros. -/
def Numeral.trimmed (d : Numeral) : Numeral :=
  go (digitCount d.digits) d
where
  go : Nat → Numeral → Numeral
    | 0, d => d
    | fuel + 1, d =>
      if d.digits ≠ 0 ∧ d.digits % 10 = 0 then go fuel ⟨d.digits / 10, d.exponent + 1⟩ else d

/-- The shortest decimal of a finite number that is not zero; its sign is left aside. Seventeen
digits always suffice. -/
def shortest (x : Binary64) : Numeral :=
  let (significand, exponent) := x.parts
  let narrow := x.fractionField == 0 && 1 < x.exponentField
  let interval := Interval.ofParts significand exponent narrow
  let lead := leadingExponent interval.middle
  ((search interval lead 17 1).getD ⟨significand, 0⟩).trimmed

/-- How a number is written once its digits are known. -/
structure Style where
  /-- The smallest and the largest exponent of the first digit written positionally. -/
  positionalFrom : Int
  positionalTo : Int
  /-- The sign in front of an exponent that is not negative. -/
  exponentPlus : String
  zero : String
  negativeZero : String
  /-- What stands for a number that is not finite. -/
  notFinite : String

/-- The digits with the point placed or the exponent written out. -/
def Style.magnitude (style : Style) (d : Numeral) : String :=
  let digits := (Nat.toDigits 10 d.digits)
  let count : Int := digits.length
  let lead : Int := d.exponent + count - 1
  if style.positionalFrom ≤ lead ∧ lead ≤ style.positionalTo then
    if 0 ≤ d.exponent then
      String.ofList (digits ++ List.replicate d.exponent.toNat '0') ++ ".0"
    else if 0 ≤ lead then
      let whole := (lead + 1).toNat
      String.ofList (digits.take whole) ++ "." ++ String.ofList (digits.drop whole)
    else
      "0." ++ String.ofList (List.replicate (-lead - 1).toNat '0' ++ digits)
  else
    let mantissa := match digits with
      | [] => "0"
      | [c] => String.ofList [c]
      | c :: rest => String.ofList (c :: '.' :: rest)
    mantissa ++ "e" ++ (if lead < 0 then "-" else style.exponentPlus) ++ toString lead.natAbs

def Style.render (style : Style) (x : Binary64) : String :=
  if !x.isFinite then style.notFinite
  else if x.isZero then (if x.isNegative then style.negativeZero else style.zero)
  else (if x.isNegative then "-" else "") ++ style.magnitude (shortest x)

end BrowserScript.Decimal
