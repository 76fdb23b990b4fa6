import FileSearch.Unicode.Ranges

/-!
# Blank characters

The characters of Unicode's White_Space property, and trimming by them. Every rule of this library
that speaks of blanks (names, lists of patterns, search terms, slugs) uses this one set.
-/

set_option autoImplicit false

namespace FileSearch.Text

/-- The White_Space property. -/
def blankRanges : Unicode.Ranges :=
  [(0x9, 0xD), (0x20, 0x20), (0x85, 0x85), (0xA0, 0xA0), (0x1680, 0x1680), (0x2000, 0x200A),
   (0x2028, 0x2029), (0x202F, 0x202F), (0x205F, 0x205F), (0x3000, 0x3000)]

def isBlank (c : Char) : Bool :=
  blankRanges.contains c

/-- A list without its leading blanks. -/
def dropBlanks (cs : List Char) : List Char :=
  cs.dropWhile isBlank

/-- A list without its leading and trailing blanks. -/
def trimChars (cs : List Char) : List Char :=
  (dropBlanks (dropBlanks cs).reverse).reverse

/-- A text without its leading and trailing blanks. -/
def trim (text : String) : String :=
  String.ofList (trimChars text.toList)

end FileSearch.Text
