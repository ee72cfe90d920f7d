/-!
# Blank characters

The characters with the Unicode property `White_Space`. They separate the braces of a placeholder
from its name, and an input of blanks alone counts as empty.
-/

namespace BrowserScript.Text

/-- The blank characters outside ASCII, as closed ranges of code points. -/
def blankRanges : List (Nat × Nat) :=
  [(0x85, 0x85), (0xA0, 0xA0), (0x1680, 0x1680), (0x2000, 0x200A), (0x2028, 0x2029),
    (0x202F, 0x202F), (0x205F, 0x205F), (0x3000, 0x3000)]

/-- The ASCII blanks: space, tab, and the line and page breaks. -/
def isAsciiBlank (c : Char) : Bool :=
  c = ' ' || (9 ≤ c.toNat && c.toNat ≤ 13)

def isBlank (c : Char) : Bool :=
  isAsciiBlank c || blankRanges.any fun range => range.1 ≤ c.toNat && c.toNat ≤ range.2

/-- A text that holds nothing but blanks. -/
def isBlankText (text : String) : Bool :=
  text.toList.all isBlank

theorem is_blank_of_ascii {c : Char} (h : isAsciiBlank c = true) : isBlank c = true := by
  simp [isBlank, h]

theorem brace_is_not_blank : isBlank '{' = false ∧ isBlank '}' = false := by decide

end BrowserScript.Text
