/-!
# Strings of TOML documents

Strings in double quotes know escapes, strings in single quotes do not. Either kind may extend over
several lines if it is put in three quotes.
-/

set_option autoImplicit false

namespace FileSearch.Toml

/-- What a reader makes of the characters in front of it: a value and the characters behind it. -/
abbrev Reader (α : Type) := List Char → Option (α × List Char)

/-- Whether a character may stand in a string or comment as it is. -/
def isPlain (c : Char) : Bool :=
  c == '\t' || (0x20 ≤ c.toNat && c.toNat != 0x7F)

/-- The value of a hexadecimal digit. -/
def hexDigit? (c : Char) : Option Nat :=
  if c.isDigit then some (c.toNat - 48)
  else if 'a' ≤ c && c ≤ 'f' then some (c.toNat - 87)
  else if 'A' ≤ c && c ≤ 'F' then some (c.toNat - 55)
  else none

/-- The character that hexadecimal digits number, if they number one. -/
def codePoint? (digits : List Char) : Option Char := do
  let number ← digits.foldlM (fun value digit => (hexDigit? digit).map (value * 16 + ·)) 0
  if number.isValidChar then some (Char.ofNat number) else none

/-- The character that a character stands for behind a backslash. -/
def simpleEscape? : Char → Option Char
  | 'b' => some '\x08'
  | 't' => some '\t'
  | 'n' => some '\n'
  | 'f' => some '\x0c'
  | 'r' => some '\r'
  | 'e' => some '\x1b'
  | '"' => some '"'
  | '\\' => some '\\'
  | _ => none

/-- A reader's value with a character in front. -/
def prepend (c? : Option Char) (read : Option (List Char × List Char)) :
    Option (List Char × List Char) := do
  let c ← c?
  let (chars, rest) ← read
  return (c :: chars, rest)

/-- A character that may stand as it is. -/
def plain? (c : Char) : Option Char :=
  if isPlain c then some c else none

/-- The characters up to a closing double quote. -/
def readBasic : Reader (List Char)
  | [] => none
  | '"' :: rest => some ([], rest)
  | '\\' :: 'x' :: a :: b :: rest => prepend (codePoint? [a, b]) (readBasic rest)
  | '\\' :: 'u' :: a :: b :: c :: d :: rest => prepend (codePoint? [a, b, c, d]) (readBasic rest)
  | '\\' :: 'U' :: a :: b :: c :: d :: e :: f :: g :: h :: rest =>
    prepend (codePoint? [a, b, c, d, e, f, g, h]) (readBasic rest)
  | '\\' :: c :: rest => prepend (simpleEscape? c) (readBasic rest)
  | c :: rest => prepend (plain? c) (readBasic rest)

/-- The characters up to a closing single quote. -/
def readLiteral : Reader (List Char)
  | [] => none
  | '\'' :: rest => some ([], rest)
  | c :: rest => prepend (plain? c) (readLiteral rest)

/-- Whether a backslash in front of a text joins lines: only blanks stand before the next line. -/
def joinsLines (text : List Char) : Bool :=
  match text.dropWhile fun c => c == ' ' || c == '\t' with
  | '\n' :: _ => true
  | '\r' :: '\n' :: _ => true
  | _ => false

/-- The characters up to three closing double quotes, before which up to two more quotes may stand.
While lines are joined, blanks and line ends are left out. -/
def readMultilineBasic (joining : Bool) : Reader (List Char)
  | [] => none
  | '"' :: '"' :: '"' :: '"' :: '"' :: rest => some (['"', '"'], rest)
  | '"' :: '"' :: '"' :: '"' :: rest => some (['"'], rest)
  | '"' :: '"' :: '"' :: rest => some ([], rest)
  | '\\' :: 'x' :: a :: b :: rest => prepend (codePoint? [a, b]) (readMultilineBasic false rest)
  | '\\' :: 'u' :: a :: b :: c :: d :: rest =>
    prepend (codePoint? [a, b, c, d]) (readMultilineBasic false rest)
  | '\\' :: 'U' :: a :: b :: c :: d :: e :: f :: g :: h :: rest =>
    prepend (codePoint? [a, b, c, d, e, f, g, h]) (readMultilineBasic false rest)
  | '\\' :: c :: rest =>
    if joinsLines (c :: rest) then readMultilineBasic true (c :: rest)
    else prepend (simpleEscape? c) (readMultilineBasic false rest)
  | '\r' :: '\n' :: rest =>
    if joining then readMultilineBasic true rest
    else prepend (some '\r') (prepend (some '\n') (readMultilineBasic false rest))
  | c :: rest =>
    if joining && (c == ' ' || c == '\t' || c == '\n') then readMultilineBasic true rest
    else prepend (if c == '\n' then some c else plain? c) (readMultilineBasic false rest)

/-- The characters up to three closing single quotes, before which up to two more may stand. -/
def readMultilineLiteral : Reader (List Char)
  | [] => none
  | '\'' :: '\'' :: '\'' :: '\'' :: '\'' :: rest => some (['\'', '\''], rest)
  | '\'' :: '\'' :: '\'' :: '\'' :: rest => some (['\''], rest)
  | '\'' :: '\'' :: '\'' :: rest => some ([], rest)
  | '\r' :: '\n' :: rest =>
    prepend (some '\r') (prepend (some '\n') (readMultilineLiteral rest))
  | c :: rest => prepend (if c == '\n' then some c else plain? c) (readMultilineLiteral rest)

/-- A text without the line end that it begins with, if it does. -/
def dropLineEnd : List Char → List Char
  | '\n' :: rest => rest
  | '\r' :: '\n' :: rest => rest
  | text => text

def readString : Reader (List Char)
  | '"' :: '"' :: '"' :: rest => readMultilineBasic false (dropLineEnd rest)
  | '"' :: rest => readBasic rest
  | '\'' :: '\'' :: '\'' :: rest => readMultilineLiteral (dropLineEnd rest)
  | '\'' :: rest => readLiteral rest
  | _ => none

end FileSearch.Toml
