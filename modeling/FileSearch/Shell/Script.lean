import FileSearch.Text.Bytes

/-!
# Scripts

The part of the shell language that search programs are written in: words with parameters in them,
integer expressions, simple commands with redirections, and the ways of putting commands together.
A script is a byte string; each byte stands as the character with its number.
-/

set_option autoImplicit false

namespace FileSearch.Shell

/-- A text of a script, one character for each byte. -/
abbrev Chars := List Char

/-- The characters of a byte string. -/
def charsOf (bytes : Bytes) : Chars :=
  bytes.map fun byte => Char.ofNat byte.toNat

/-- The byte string of characters that stand for bytes. -/
def bytesOf (chars : Chars) : Bytes :=
  chars.map fun c => UInt8.ofNat c.toNat

/-- What a dollar sign introduces. -/
inductive Parameter where
  | variable (name : Chars)
  /-- An argument by number; number zero is the name of the script. -/
  | argument (index : Nat)
  /-- All arguments, each a word of its own. -/
  | arguments
  /-- All arguments in one text. -/
  | joined
  | argumentCount
  | status
  | process
  | parentProcess
  deriving DecidableEq, Repr

inductive Operator where
  | or | and | equal | unequal | atMost | atLeast | less | greater
  | plus | minus | times | divide | remainder
  deriving DecidableEq, Repr

/-- Integer expressions. -/
inductive Arithmetic where
  | number (value : Int)
  | parameter (parameter : Parameter)
  | negate (operand : Arithmetic)
  | isZero (operand : Arithmetic)
  | operation (operator : Operator) (left right : Arithmetic)
  deriving Repr

/-- What a part of a word stands for. -/
inductive Content where
  | text (chars : Chars)
  | parameter (parameter : Parameter)
  /-- The value of an expression, with the text of the expression. -/
  | sum (expression : Arithmetic) (text : Chars)
  deriving Repr

/-- A part of a word. What stands for an unquoted part is cut into words at blanks. -/
structure Piece where
  content : Content
  quoted : Bool
  deriving Repr

abbrev Word := List Piece

/-- Where a redirected stream goes. -/
inductive Target where
  | stream (number : Nat)
  | file (name : Word) (append : Bool)
  deriving Repr

/-- A stream by number and where it goes. -/
structure Redirection where
  stream : Nat
  target : Target
  deriving Repr

/-- Commands. A command whose words can fail to expand keeps the line that it stands on. -/
inductive Command where
  | nothing
  | simple (line : Nat) (assignments : List (Chars × Word)) (words : List Word)
  | redirected (redirections : List Redirection) (command : Command)
  | sequence (first second : Command)
  | both (first second : Command)
  | either (first second : Command)
  | negated (command : Command)
  | separate (command : Command)
  | choice (condition yes no : Command)
  | loop (goesOn : Bool) (condition body : Command)
  | each (line : Nat) (name : Chars) (items : List Word) (body : Command)
  deriving Repr

end FileSearch.Shell
