import BrowserScript.Json.Value

/-!
# JSON numerals

A numeral is a sign, a whole part without leading zeros, an optional fraction and an optional
exponent. Naturals below `2 ^ 64` and negative integers down to `-2 ^ 63` are kept exact; everything
else, and negative zero, is a floating-point number found from the leading digits that fit in 64
bits.
-/

namespace BrowserScript.Json

/-- What stands where a numeral should be. -/
inductive NumeralReading where
  | number (n : Number) (rest : List Char)
  /-- Well formed and too large; `seen` was left of the text when that was known. -/
  | tooLarge (seen rest : List Char)
  /-- Not of the form of a numeral from `rest` on. -/
  | broken (rest : List Char)

namespace Numeral

def isDigit (c : Char) : Bool := '0' ≤ c && c ≤ '9'

def digitValue (c : Char) : Nat := c.toNat - 48

/-- The digits at the front, and the rest. -/
def digits (cs : List Char) : List Char × List Char := (cs.takeWhile isDigit, cs.dropWhile isDigit)

/-- Reads digits while the value stays below `2 ^ 64`; returns the value, how many digits were read,
and whether some were left over. -/
def significand (start : Nat) : List Char → Nat × Nat × Bool
  | [] => (start, 0, false)
  | c :: rest =>
    let next := start * 10 + digitValue c
    if next < UInt64.size then
      let (value, count, left) := significand next rest
      (value, count + 1, left)
    else (start, 0, true)

/-- A floating-point number from its sign, significand and power of ten. -/
def real (negative : Bool) (value : Nat) (exponent : Int) (rest : List Char) : NumeralReading :=
  match Binary64.scaled value.toUInt64 exponent with
  | some x => .number (.real (Binary64.ofFloat (if negative then -x else x))) rest
  | none => .tooLarge rest rest

/-- The largest exponent that is kept exactly. -/
def exponentLimit : Nat := 2147483647

/-- Reads the digits of an exponent while it stays within the limit. -/
def exponentDigits (value : Nat) : List Char → Nat × List Char
  | [] => (value, [])
  | c :: rest =>
    let next := value * 10 + digitValue c
    if isDigit c && next ≤ exponentLimit then exponentDigits next rest else (value, c :: rest)

/-- The exponent part, from behind the `e` on. An exponent beyond the limit makes a number zero or
too large. -/
def exponentPart (negative : Bool) (value : Nat) (exponent : Int) (cs : List Char) :
    NumeralReading :=
  let (shrinking, cs) := match cs with
    | '-' :: rest => (true, rest)
    | '+' :: rest => (false, rest)
    | _ => (false, cs)
  if !cs.head?.any isDigit then .broken cs
  else
    match exponentDigits 0 cs with
    | (shift, []) => scaled shrinking shift []
    | (shift, c :: rest) =>
      if isDigit c then
        if value ≠ 0 ∧ ¬ shrinking then .tooLarge rest (rest.dropWhile isDigit)
        else
          .number (.real (Binary64.ofFloat (if negative then -0.0 else 0.0)))
            (rest.dropWhile isDigit)
      else scaled shrinking shift (c :: rest)
where
  scaled (shrinking : Bool) (shift : Nat) (rest : List Char) : NumeralReading :=
    real negative value (if shrinking then exponent - shift else exponent + shift) rest

/-- What follows the significand and its fraction. -/
def finish (negative : Bool) (value : Nat) (exponent : Int) (cs : List Char) : NumeralReading :=
  match cs with
  | 'e' :: rest | 'E' :: rest => exponentPart negative value exponent rest
  | _ => real negative value exponent cs

/-- A fraction, from behind the point on. -/
def fraction (negative : Bool) (value : Nat) (exponent : Int) (cs : List Char) : NumeralReading :=
  match digits cs with
  | ([], rest) => .broken rest
  | (ds, rest) =>
    let (value, count, _) := significand value ds
    finish negative value (exponent - count) rest

/-- An integer, exact where 64 bits hold it; negative zero is floating point. -/
def whole (negative : Bool) (value : Nat) : Number :=
  if !negative then .natural value.toUInt64
  else if value = 0 ∨ Nat.pow 2 63 < value then
    .real (Binary64.ofFloat (-(value.toUInt64.toFloat)))
  else .integer (-(value : Int)).toInt64

/-- Reads a numeral at the front of the text. -/
def read (cs : List Char) : NumeralReading :=
  let (negative, cs) := match cs with
    | '-' :: rest => (true, rest)
    | _ => (false, cs)
  match cs with
  | '0' :: rest => if rest.head?.any isDigit then .broken rest else tail negative 0 0 false rest
  | _ =>
    match digits cs with
    | ([], _) => .broken cs
    | (ds, rest) =>
      let (value, count, left) := significand 0 ds
      tail negative value (ds.length - count) left rest
where
  tail (negative : Bool) (value dropped : Nat) (long : Bool) (rest : List Char) :
      NumeralReading :=
    match rest with
    | '.' :: rest => fraction negative value dropped rest
    | 'e' :: _ | 'E' :: _ => finish negative value dropped rest
    | _ => if long then real negative value dropped rest else .number (whole negative value) rest

end Numeral

end BrowserScript.Json
