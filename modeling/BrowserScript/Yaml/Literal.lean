import BrowserScript.Text.Hex
import BrowserScript.Json.Mismatch
import BrowserScript.Yaml.Token

/-!
# What scalars stand for

A plain scalar without a tag is a null, a truth value, a number or a text, whichever its spelling
allows first. A tag of one of the known types demands that spelling.
-/

namespace BrowserScript.Yaml

def isNullText (text : String) : Bool := ["null", "Null", "NULL", "~"].contains text

def bool? (text : String) : Option Bool :=
  if ["true", "True", "TRUE"].contains text then some true
  else if ["false", "False", "FALSE"].contains text then some false
  else none

/-- The value of a numeral in some base; `none` if a character is no digit of it. -/
def valueInBase (base : Nat) (digits : List Char) : Option Nat :=
  let digit? (c : Char) : Option Nat :=
    match Text.hexValue? c with
    | some n => if n < base then some n else none
    | none => none
  match digits with
  | [] => none
  | _ => digits.foldl (fun n c => do some ((← n) * base + (← digit? c))) (some 0)

/-- Several digits of which the first is zero are no number. -/
def isZeroPadded (cs : List Char) : Bool :=
  let digits := match cs with
    | '-' :: rest | '+' :: rest => rest
    | _ => cs
  match digits with
  | '0' :: d :: rest => (d :: rest).all Char.isDigit
  | _ => false

/-- A natural number in one of the bases that a scalar can name. -/
def natural? (cs : List Char) : Option Nat :=
  let digits := match cs with
    | '+' :: rest => rest
    | _ => cs
  match digits with
  | '0' :: 'x' :: rest => valueInBase 16 rest
  | '0' :: 'o' :: rest => valueInBase 8 rest
  | '0' :: 'b' :: rest => valueInBase 2 rest
  | _ => if isZeroPadded cs then none else valueInBase 10 digits

/-- The magnitude of a number with a minus sign. -/
def negative? (cs : List Char) : Option Nat :=
  match cs with
  | '-' :: '0' :: 'x' :: rest => valueInBase 16 rest
  | '-' :: '0' :: 'o' :: rest => valueInBase 8 rest
  | '-' :: '0' :: 'b' :: rest => valueInBase 2 rest
  | '-' :: digits => if isZeroPadded cs then none else valueInBase 10 digits
  | _ => none

/-- The number of decimal digits with a power of ten, nearest to the exact value. -/
def nearest (digits : List Char) (exponent : Int) : Float :=
  let n := digits.foldl (fun n c => n * 10 + (c.toNat - 48)) 0
  let lead : Int := (Nat.toDigits 10 n).length + exponent
  if n = 0 || lead < -400 then 0.0
  else if 400 < lead then 1.0 / 0.0
  else if exponent < 0 then Float.ofScientific n true exponent.natAbs
  else Float.ofScientific n false exponent.natAbs

/-- A finite floating-point number in decimal notation. -/
def decimalFloat? (cs : List Char) : Option Float :=
  let (minus, cs) := match cs with
    | '-' :: rest => (true, rest)
    | _ => (false, cs)
  let whole := cs.takeWhile Char.isDigit
  let (part, rest) := match cs.dropWhile Char.isDigit with
    | '.' :: rest => (rest.takeWhile Char.isDigit, rest.dropWhile Char.isDigit)
    | rest => ([], rest)
  let shift : Option Int := match rest with
    | [] => some 0
    | e :: rest =>
      if e = 'e' || e = 'E' then
        let (minus, digits) := match rest with
          | '-' :: digits => (true, digits)
          | '+' :: digits => (false, digits)
          | digits => (false, digits)
        if digits.all Char.isDigit then
          (valueInBase 10 digits).map fun n => if minus then -(n : Int) else (n : Int)
        else none
      else none
  match whole ++ part, shift with
  | [], _ => none
  | _, none => none
  | digits, some shift =>
    let x := nearest digits (shift - part.length)
    if x.isInf then none else some (if minus then -x else x)

/-- A floating-point number; infinities and the value that is no number have names of their own. -/
def float? (cs : List Char) : Option Float :=
  let named (names : List String) := names.contains (String.ofList cs)
  let unsigned : Option (List Char) := match cs with
    | '+' :: '+' :: _ | '+' :: '-' :: _ => none
    | '+' :: rest => some rest
    | _ => some cs
  match unsigned with
  | none => none
  | some unsigned =>
    if [".inf", ".Inf", ".INF"].contains (String.ofList unsigned) then some (1.0 / 0.0)
    else if named ["-.inf", "-.Inf", "-.INF"] then some (-1.0 / 0.0)
    else if named [".nan", ".NaN", ".NAN"] then some (0.0 / 0.0)
    else decimalFloat? unsigned

/-- An integer that fits in 64 bits. The outer option is for texts that are no integers, the inner
one for integers that do not fit. -/
def integer? (cs : List Char) : Option (Option Number) :=
  match natural? cs with
  | some n =>
    if n < UInt64.size then some (some (.natural n.toUInt64))
    else if n < Nat.pow 2 128 then some none
    else none
  | none =>
    match negative? cs with
    | some n =>
      if n = 0 then some (some (.natural 0))
      else if n ≤ Nat.pow 2 63 then some (some (.integer (-(n : Int)).toInt64))
      else if n ≤ Nat.pow 2 127 then some none
      else none
    | none => none

/-- The JSON number of an integer. -/
def integerValue : Option Number → Except Json.Mismatch Json
  | some n => .ok (.num n)
  | none => .error (.rule "JSON number out of range")

/-- What an untagged plain scalar stands for. -/
def plainValue (text : String) : Except Json.Mismatch Json :=
  if text.isEmpty || isNullText text then .ok .null
  else
    match bool? text, integer? text.toList with
    | some b, _ => .ok (.bool b)
    | none, some n => integerValue n
    | none, none =>
      match if isZeroPadded text.toList then none else float? text.toList with
      | some x => .ok (.ofBinary64 (Binary64.ofFloat x))
      | none => .ok (.str text)

/-- The value of a text that a tag demands, or the error that names what it should be. -/
def demanded (text expected : String) (value : Option Json) : Except Json.Mismatch Json :=
  match value with
  | some value => .ok value
  | none => .error (.invalidValue (.string text) expected)

/-- What a scalar stands for. A name that no type has fits no JSON value. -/
def scalarValue (text : String) (style : Style) (tag : Option Tag) :
    Except Json.Mismatch Json :=
  let untagged := if style = .plain then plainValue text else .ok (.str text)
  match tag with
  | none => untagged
  | some tag =>
    if tag.isOwn then .error (.invalidType .variant "any valid JSON value")
    else if tag = .core "bool" then demanded text "a boolean" ((bool? text).map .bool)
    else if tag = .core "int" then
      match integer? text.toList with
      | some n => integerValue n
      | none => demanded text "an integer" none
    else if tag = .core "float" then
      demanded text "a float"
        ((float? text.toList).map fun x => .ofBinary64 (Binary64.ofFloat x))
    else if tag = .core "null" then
      demanded text "null" (if isNullText text then some .null else none)
    else if tag.isLocal then untagged
    else .ok (.str text)

end BrowserScript.Yaml
