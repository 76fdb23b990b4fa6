import FileSearch.Unicode.CaseTables
import FileSearch.Unicode.Category

/-!
# Letter case

Lowercasing of texts and folding of characters. Lowercasing maps every character for itself, with
two exceptions: one capital becomes two characters, and a capital sigma has a form of its own at
the end of a word. Folding maps every character to one character; characters with the same folded
form are equal when case is ignored.
-/

set_option autoImplicit false

namespace FileSearch.Unicode

/-- Whether a character has case: it is an uppercase, lowercase or titlecase character. -/
def isCased (c : Char) : Bool :=
  isOneOf [.uppercaseLetter, .lowercaseLetter, .titlecaseLetter] c
    || otherLowercaseRanges.contains c || otherUppercaseRanges.contains c

/-- Whether a character is passed over when the end of a word is sought. -/
def isCaseIgnorable (c : Char) : Bool :=
  isOneOf [.nonspacingMark, .enclosingMark, .format, .modifierLetter, .modifierSymbol] c
    || otherCaseIgnorableRanges.contains c

def isAlphabetic (c : Char) : Bool :=
  isOneOf Category.letters c || Category.contains .letterNumber c
    || alphabeticSymbolRanges.contains c || alphabeticMarkRanges.contains c

/-- Whether a character is a numeral. -/
def isNumeric (c : Char) : Bool :=
  isOneOf Category.numbers c

/-- The lowercase form of a character that stands alone. -/
def lowercaseChar (c : Char) : List Char :=
  if c = 'İ' then ['i', '\u0307'] else [caseMap lowercaseRows c]

/-- Whether a cased character comes first, not counting case-ignorable ones. -/
def reachesCased (cs : List Char) : Bool :=
  match cs.dropWhile isCaseIgnorable with
  | [] => false
  | c :: _ => isCased c

/-- The lowercase form of a character between the text before it, nearest character first, and the
text after it. A capital sigma takes its final form where a word ends with it. -/
def lowercaseWithin (before : List Char) (c : Char) (after : List Char) : List Char :=
  if c = 'Σ' then
    if reachesCased before && !reachesCased after then ['ς'] else ['σ']
  else lowercaseChar c

/-- The lowercase form of a text that follows `before`, nearest character first. -/
def lowercaseAfter (before : List Char) : List Char → List Char
  | [] => []
  | c :: rest => lowercaseWithin before c rest ++ lowercaseAfter (c :: before) rest

/-- The lowercase form of a list of characters. -/
def lowercaseChars (cs : List Char) : List Char :=
  lowercaseAfter [] cs

def lowercase (text : String) : String :=
  String.ofList (lowercaseChars text.toList)

/-- The folded form of a character. -/
def fold (c : Char) : Char :=
  caseMap foldingRows c

/-- The characters that one row folds to a given code point: one or none. -/
def CaseRow.preimage (row : CaseRow) (code : Nat) : Option Char :=
  let source := (code - row.shift).toNat
  if row.covers source then some (Char.ofNat source) else none

/-- The characters that equal a character when case is ignored, itself among them. -/
def caseVariants (c : Char) : List Char :=
  fold c :: foldingRows.filterMap fun row => row.preimage (fold c).toNat

end FileSearch.Unicode
