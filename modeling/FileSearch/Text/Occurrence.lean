/-!
# Occurrences

Whether a list of characters stands somewhere within another.
-/

set_option autoImplicit false

namespace FileSearch.Text

/-- Whether `needle` is a contiguous part of a list. -/
def occursIn (needle : List Char) : List Char → Bool
  | [] => needle.isEmpty
  | c :: rest => needle.isPrefixOf (c :: rest) || occursIn needle rest

end FileSearch.Text
