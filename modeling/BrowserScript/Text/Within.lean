/-!
# Parts of texts
-/

namespace BrowserScript.Text

/-- Whether `part` stands somewhere in a text. -/
def isWithin (part : List Char) : List Char → Bool
  | [] => part.isEmpty
  | c :: rest => part.isPrefixOf (c :: rest) || isWithin part rest

/-- Whether a text contains another. -/
def contains (text part : String) : Bool := isWithin part.toList text.toList

end BrowserScript.Text
