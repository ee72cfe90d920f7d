/-!
# Binary floating-point numbers

A `Binary64` is the bit pattern of a 64-bit binary floating-point number. Keeping the pattern makes
equality decidable and tells the two zeros apart; arithmetic goes through `Float`.
-/

namespace BrowserScript

structure Binary64 where
  bits : UInt64
  deriving DecidableEq, Inhabited, Hashable

namespace Binary64

def ofFloat (x : Float) : Binary64 := ⟨x.toBits⟩

def toFloat (x : Binary64) : Float := Float.ofBits x.bits

instance : Repr Binary64 := ⟨fun x _ => repr x.toFloat⟩

def zero : Binary64 := ⟨0⟩

def one : Binary64 := ⟨0x3ff0000000000000⟩

/-- The nearest number to a natural one. -/
def ofUInt64 (n : UInt64) : Binary64 := ofFloat n.toFloat

def ofInt64 (i : Int64) : Binary64 :=
  if i < 0 then ofFloat (-(i.toUInt64.toNat.toUInt64 |> fun n => (0 - n).toFloat))
  else ofUInt64 i.toUInt64

def add (x y : Binary64) : Binary64 := ofFloat (x.toFloat + y.toFloat)

/-- The number halved. -/
def half (x : Binary64) : Binary64 := ofFloat (x.toFloat / 2)

instance : Add Binary64 := ⟨add⟩

def isNegative (x : Binary64) : Bool := x.bits >>> 63 = 1

/-- The biased exponent field. -/
def exponentField (x : Binary64) : Nat := ((x.bits >>> 52) &&& 0x7ff).toNat

/-- The stored part of the significand. -/
def fractionField (x : Binary64) : Nat := (x.bits &&& 0xfffffffffffff).toNat

def isFinite (x : Binary64) : Bool := x.exponentField != 0x7ff

/-- Zero of either sign. -/
def isZero (x : Binary64) : Bool := x.exponentField == 0 && x.fractionField == 0

def isNaN (x : Binary64) : Bool := x.exponentField == 0x7ff && x.fractionField != 0

/-- Significand and exponent: a finite number's magnitude is `significand * 2 ^ exponent`. -/
def parts (x : Binary64) : Nat × Int :=
  if x.exponentField = 0 then (x.fractionField, -1074)
  else (x.fractionField + Nat.pow 2 52, (x.exponentField : Int) - 1075)

/-- The integer that a whole number of magnitude below `2 ^ 53` stands for; negative zero and
numbers with a fraction have none. -/
def exactInt? (x : Binary64) : Option Int :=
  if !x.isFinite then none
  else if x.isZero then (if x.isNegative then none else some 0)
  else
    let (significand, exponent) := x.parts
    let magnitude : Option Nat :=
      if 0 ≤ exponent then some (significand * Nat.pow 2 exponent.toNat)
      else
        let divisor := Nat.pow 2 (-exponent).toNat
        if significand % divisor = 0 then some (significand / divisor) else none
    match magnitude with
    | some n =>
      if n < Nat.pow 2 53 then some (if x.isNegative then -(n : Int) else (n : Int)) else none
    | none => none

/-- The power of ten nearest to `10 ^ n`. -/
def powerOfTen (n : Nat) : Float := Float.ofScientific 1 false n

/-- The magnitude `significand * 10 ^ exponent`, found by one multiplication or division by a power
of ten up to `10 ^ 308`, after divisions by `10 ^ 308` while the exponent is below that table.
`none` when it is too large. -/
def scaled (significand : UInt64) (exponent : Int) : Option Float :=
  let start := significand.toFloat
  if exponent ≥ 0 then
    if exponent ≤ 308 then
      let x := start * powerOfTen exponent.toNat
      if x.isInf then none else some x
    else if start == 0 then some start
    else none
  else
    some (shrink start (-exponent).toNat)
where
  shrink (x : Float) (n : Nat) : Float :=
    if _h : n ≤ 308 then x / powerOfTen n
    else if x == 0 then x
    else shrink (x / powerOfTen 308) (n - 308)
  termination_by n

end Binary64

end BrowserScript
