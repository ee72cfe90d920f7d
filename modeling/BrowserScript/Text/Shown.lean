import BrowserScript.Text.Hidden

/-!
# Shown texts

How a message quotes a text that came from outside: in double quotes, with quotes, backslashes and
hidden characters escaped, so that the message stays on one line and shows every character.
-/

namespace BrowserScript.Text

def shownChar (c : Char) : String :=
  match c with
  | '"' => "\\\""
  | '\\' => "\\\\"
  | '\n' => "\\n"
  | '\r' => "\\r"
  | '\t' => "\\t"
  | c =>
    if c.toNat = 0 then "\\0"
    else if isHidden c then
      "\\u\x7b" ++ String.ofList (Nat.toDigits 16 c.toNat) ++ "\x7d"
    else String.singleton c

def shown (s : String) : String :=
  "\"" ++ String.join (s.toList.map shownChar) ++ "\""

end BrowserScript.Text
