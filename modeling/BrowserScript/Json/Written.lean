import BrowserScript.Json.Value

/-!
# Written JSON

The compact text of a value: members in the order they are held, numbers by their shortest digits,
and only the characters escaped that have to be.
-/

namespace BrowserScript.Json

/-- Floating-point numbers are positional between `1e-5` and `1e16`, and always show that they are
not integers. -/
def floatText : Decimal.Style where
  positionalFrom := -5
  positionalTo := 15
  exponentPlus := "+"
  zero := "0.0"
  negativeZero := "-0.0"
  notFinite := "null"

def numberText : Number → String
  | .natural n => toString n.toNat
  | .integer i => toString i.toInt
  | .real x => floatText.render x

def hexDigit (n : Nat) : Char :=
  if n < 10 then Char.ofNat (48 + n) else Char.ofNat (87 + n)

/-- A control character without a short form is written by its code. -/
def escaped (c : Char) : List Char :=
  match c with
  | '"' => ['\\', '"']
  | '\\' => ['\\', '\\']
  | '\n' => ['\\', 'n']
  | '\r' => ['\\', 'r']
  | '\t' => ['\\', 't']
  | c =>
    if c.toNat = 8 then ['\\', 'b']
    else if c.toNat = 12 then ['\\', 'f']
    else if c.toNat < 32 then
      ['\\', 'u', '0', '0', hexDigit (c.toNat / 16), hexDigit (c.toNat % 16)]
    else [c]

def quoted (s : String) : String :=
  "\"" ++ String.ofList (s.toList.flatMap escaped) ++ "\""

mutual

def text : Json → String
  | null => "null"
  | bool b => if b then "true" else "false"
  | num n => numberText n
  | str s => quoted s
  | arr items => "[" ++ itemsText items ++ "]"
  | obj members => "\x7b" ++ membersText members ++ "\x7d"

def itemsText : List Json → String
  | [] => ""
  | [item] => text item
  | item :: rest => text item ++ "," ++ itemsText rest

def membersText : List (String × Json) → String
  | [] => ""
  | [(key, value)] => quoted key ++ ":" ++ text value
  | (key, value) :: rest => quoted key ++ ":" ++ text value ++ "," ++ membersText rest

end

end BrowserScript.Json
