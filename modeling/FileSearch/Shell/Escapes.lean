import FileSearch.Shell.Script

/-!
# Backslash escapes in printed texts

The commands that print understand escapes, with small differences between them.
-/

set_option autoImplicit false

namespace FileSearch.Shell

/-- Which escapes are understood besides those that all printing commands understand. -/
structure EscapeRules where
  /-- Whether up to three digits follow a leading zero, not two. -/
  longOctal : Bool
  /-- Whether characters are given by hexadecimal numbers. -/
  hexadecimal : Bool
  /-- Whether an escape ends all printing. -/
  stops : Bool
  /-- Whether a double quote is escaped. -/
  quotes : Bool
  deriving DecidableEq, Repr

namespace EscapeRules

def echo : EscapeRules := ⟨true, false, true, false⟩

def format : EscapeRules := ⟨false, false, false, false⟩

/-- The rules for texts that the echo program prints. -/
def echoProgram : EscapeRules := ⟨true, true, true, false⟩

/-- The rules for formats of the program for formatted printing. -/
def formatProgram : EscapeRules := ⟨false, true, true, true⟩

end EscapeRules

/-- The character that a letter stands for behind a backslash. -/
def letterEscape? : Char → Option Char
  | 'a' => some '\x07'
  | 'b' => some '\x08'
  | 'e' => some '\x1b'
  | 'f' => some '\x0c'
  | 'n' => some '\n'
  | 'r' => some '\r'
  | 't' => some '\t'
  | 'v' => some '\x0b'
  | '\\' => some '\\'
  | _ => none

/-- Whether a character is a digit of octal numbers. -/
def isOctal (c : Char) : Bool :=
  '0' ≤ c && c ≤ '7'

/-- The value of a hexadecimal digit. -/
def hexValue (c : Char) : Nat :=
  if c.isDigit then c.toNat - 48 else c.toLower.toNat - 87

/-- Whether a character is a digit of hexadecimal numbers. -/
def isHex (c : Char) : Bool :=
  c.isDigit || ('a' ≤ c.toLower && c.toLower ≤ 'f')

def byteChar (number : Nat) : Char :=
  Char.ofNat (number % 256)

def numberOf (base : Nat) (digits : Chars) : Nat :=
  digits.foldl (fun value digit => value * base + hexValue digit) 0

/-- What an escape stands for, from the character behind the backslash on, and how many characters
it takes. No character stands for the end of all printing. -/
def readEscape (rules : EscapeRules) : Chars → Option (Chars × Nat)
  | [] => some (['\\'], 0)
  | c :: rest =>
    if isOctal c then
      let digits := if rules.longOctal && c == '0' then (rest.take 3).takeWhile isOctal
        else c :: (rest.take 2).takeWhile isOctal
      let extra := if rules.longOctal && c == '0' then 1 else 0
      some ([byteChar (numberOf 8 digits)], digits.length + extra)
    else if c == 'c' && rules.stops then none
    else if c == 'x' && rules.hexadecimal && rest.head?.any isHex then
      let digits := (rest.take 2).takeWhile isHex
      some ([byteChar (numberOf 16 digits)], digits.length + 1)
    else if c == '"' && rules.quotes then some (['"'], 1)
    else match letterEscape? c with
      | some escaped => some ([escaped], 1)
      | none => some (['\\', c], 1)

/-- A text with its escapes replaced, and whether printing goes on after it. -/
def unescape (rules : EscapeRules) : Chars → Chars × Bool
  | [] => ([], true)
  | c :: rest =>
    if c == '\\' then
      match readEscape rules rest with
      | none => ([], false)
      | some (chars, taken) =>
        let (more, goesOn) := unescape rules (rest.drop taken)
        (chars ++ more, goesOn)
    else
      let (more, goesOn) := unescape rules rest
      (c :: more, goesOn)
termination_by text => text.length

end FileSearch.Shell
