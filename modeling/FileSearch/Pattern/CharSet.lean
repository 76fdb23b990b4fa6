import FileSearch.Text.Blank
import FileSearch.Unicode.LetterCase

/-!
# Sets of characters

The sets that patterns are made of: intervals, named sets, and what operations make of them.
-/

set_option autoImplicit false

namespace FileSearch.Pattern

open Unicode (Ranges Category)

/-- A set of characters, as an expression. -/
inductive CharSet where
  | ranges (intervals : Ranges)
  | complement (set : CharSet)
  | union (left right : CharSet)
  | intersection (left right : CharSet)
  | difference (left right : CharSet)
  /-- Members of exactly one of two sets. -/
  | symmetricDifference (left right : CharSet)
  /-- Characters that equal a member when case is ignored. -/
  | ignoringCase (set : CharSet)
  deriving DecidableEq, Repr

namespace CharSet

def contains : CharSet → Char → Bool
  | ranges intervals, c => intervals.contains c
  | complement set, c => !set.contains c
  | union left right, c => left.contains c || right.contains c
  | intersection left right, c => left.contains c && right.contains c
  | difference left right, c => left.contains c && !right.contains c
  | symmetricDifference left right, c => left.contains c != right.contains c
  | ignoringCase set, c => (Unicode.caseVariants c).any set.contains

def empty : CharSet :=
  ranges []

/-- The characters between two characters, both included. -/
def interval (low high : Char) : CharSet :=
  ranges [(low.toNat, high.toNat)]

def single (c : Char) : CharSet :=
  interval c c

def ofList (cs : List Char) : CharSet :=
  ranges (cs.map fun c => (c.toNat, c.toNat))

def any : CharSet :=
  complement empty

/-- The characters of some categories. -/
def ofCategories (categories : List Category) : CharSet :=
  ranges (categories.flatMap Category.ranges)

/-- The characters of no category but `unassigned`. -/
def unassigned : CharSet :=
  complement (ofCategories Category.assigned)

def ascii : CharSet :=
  interval '\x00' '\x7f'

def alphabetic : CharSet :=
  ranges (Category.letters.flatMap Category.ranges ++ Category.letterNumber.ranges
    ++ Unicode.alphabeticSymbolRanges ++ Unicode.alphabeticMarkRanges)

def lowercase : CharSet :=
  ranges (Category.lowercaseLetter.ranges ++ Unicode.otherLowercaseRanges)

def uppercase : CharSet :=
  ranges (Category.uppercaseLetter.ranges ++ Unicode.otherUppercaseRanges)

/-- Uppercase, lowercase and titlecase characters. -/
def cased : CharSet :=
  union (union lowercase uppercase) (ofCategories [.titlecaseLetter])

/-- The two characters that join or separate their neighbours without being visible. -/
def joinControl : CharSet :=
  ranges [(0x200C, 0x200D)]

def digit : CharSet :=
  ofCategories [.decimalNumber]

def blank : CharSet :=
  ranges Text.blankRanges

def word : CharSet :=
  union alphabetic (union (ofCategories (Category.marks ++ [.decimalNumber, .connectorPunctuation]))
    joinControl)

def asciiDigit : CharSet :=
  interval '0' '9'

/-- Lowercase letters of ASCII. -/
def asciiLower : CharSet :=
  interval 'a' 'z'

/-- Uppercase letters of ASCII. -/
def asciiUpper : CharSet :=
  interval 'A' 'Z'

def asciiAlpha : CharSet :=
  union asciiLower asciiUpper

/-- Letters and digits of ASCII. -/
def asciiAlnum : CharSet :=
  union asciiAlpha asciiDigit

def asciiWord : CharSet :=
  union asciiAlnum (single '_')

def asciiBlank : CharSet :=
  ofList ['\t', '\n', '\x0b', '\x0c', '\r', ' ']

/-- Digits in base sixteen. -/
def hexDigit : CharSet :=
  union asciiDigit (union (interval 'a' 'f') (interval 'A' 'F'))

/-- The set that a name in brackets and colons stands for. -/
def ofPosixName? : String → Option CharSet
  | "alnum" => some asciiAlnum
  | "alpha" => some asciiAlpha
  | "ascii" => some ascii
  | "blank" => some (ofList ['\t', ' '])
  | "cntrl" => some (union (interval '\x00' '\x1f') (single '\x7f'))
  | "digit" => some asciiDigit
  | "graph" => some (interval '!' '~')
  | "lower" => some asciiLower
  | "print" => some (interval ' ' '~')
  | "punct" => some (difference (interval '!' '~') asciiAlnum)
  | "space" => some asciiBlank
  | "upper" => some asciiUpper
  | "word" => some asciiWord
  | "xdigit" => some hexDigit
  | _ => none

end CharSet

end FileSearch.Pattern
