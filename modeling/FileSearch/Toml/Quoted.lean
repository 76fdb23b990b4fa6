/-!
# Writing strings in TOML documents

A string is written in the first of four forms that shows it as it is, and with escapes if there is
none.
-/

set_option autoImplicit false

namespace FileSearch.Toml

inductive StringForm where
  | basic
  | literal
  | multilineBasic
  | multilineLiteral
  deriving DecidableEq, Repr

/-- Whether a character has to be escaped wherever it stands. -/
def isControl (c : Char) : Bool :=
  (c.toNat < 0x20 && c != '\t' && c != '\n') || c.toNat == 0x7F

/-- How often a character stands in a row at most, where it has stood so often just before. -/
def longestRun (mark : Char) (before : Nat) : List Char → Nat
  | [] => before
  | c :: rest =>
    if c == mark then longestRun mark (before + 1) rest
    else max before (longestRun mark 0 rest)

def StringForm.of (chars : List Char) : StringForm :=
  let quotes := longestRun '"' 0 chars
  let apostrophes := longestRun '\'' 0 chars
  let newline := chars.contains '\n'
  let control := chars.any isControl
  let backslash := chars.contains '\\'
  if !control && !backslash && quotes == 0 && !newline then .basic
  else if !control && apostrophes == 0 && !newline then .literal
  else if !control && !backslash && quotes ≤ 2 then .multilineBasic
  else if !control && apostrophes ≤ 2 then .multilineLiteral
  else if newline then .multilineBasic
  else .basic

def StringForm.delimiter : StringForm → List Char
  | basic => ['"']
  | literal => ['\'']
  | multilineBasic => ['"', '"', '"']
  | multilineLiteral => ['\'', '\'', '\'']

/-- Whether a form extends over several lines. -/
def StringForm.isMultiline : StringForm → Bool
  | multilineBasic => true
  | multilineLiteral => true
  | _ => false

def upperDigit (number : Nat) : Char :=
  (Nat.digitChar (number % 16)).toUpper

def numberEscape (c : Char) : List Char :=
  let number := c.toNat
  ['\\', 'u', upperDigit (number / 4096), upperDigit (number / 256), upperDigit (number / 16),
    upperDigit number]

/-- The escape for a character that is not written as it is. -/
def escapeOf? (multiline : Bool) (c : Char) : Option (List Char) :=
  match c with
  | '\x08' => some ['\\', 'b']
  | '\t' => some ['\\', 't']
  | '\n' => if multiline then none else some ['\\', 'n']
  | '\x0c' => some ['\\', 'f']
  | '\r' => some ['\\', 'r']
  | '\\' => some ['\\', '\\']
  | c => if isControl c then some (numberEscape c) else none

/-- Characters between double quotes. A quote is escaped where it would be the last one of a
delimiter; `before` counts the quotes that stand right before and are not escaped. -/
def escapeAll (multiline : Bool) (before : Nat) : List Char → List Char
  | [] => []
  | '"' :: rest =>
    if (if multiline then 2 else 0) ≤ before then '\\' :: '"' :: escapeAll multiline 0 rest
    else '"' :: escapeAll multiline (before + 1) rest
  | c :: rest => (escapeOf? multiline c).getD [c] ++ escapeAll multiline 0 rest

/-- The characters of a string between its delimiters. -/
def StringForm.body (form : StringForm) (chars : List Char) : List Char :=
  match form with
  | basic => escapeAll false 0 chars
  | multilineBasic => escapeAll true 0 chars
  | _ => chars

/-- A string in a form. A string over several lines begins on a line of its own. -/
def StringForm.write (form : StringForm) (chars : List Char) : List Char :=
  let lineEnd := if form.isMultiline && chars.contains '\n' then ['\n'] else []
  form.delimiter ++ lineEnd ++ form.body chars ++ form.delimiter

def writeString (chars : List Char) : List Char :=
  (StringForm.of chars).write chars

end FileSearch.Toml
