import FileSearch.Shell.Escapes

/-!
# Commands that print

What the shell and the programs beside it print for their arguments.
-/

set_option autoImplicit false

namespace FileSearch.Shell

def spaced (texts : List Chars) : Chars :=
  [' '].intercalate texts

def echoed (arguments : List Chars) : Chars :=
  let (lineEnd, arguments) :=
    match arguments with
    | ['-', 'n'] :: rest => ([], rest)
    | arguments => (['\n'], arguments)
  let (chars, goesOn) := unescape .echo (spaced arguments)
  if goesOn then chars ++ lineEnd else chars

/-- Whether an argument holds options of the echo program only. -/
def isEchoOption : Chars → Bool
  | '-' :: c :: rest => (c :: rest).all fun c => c == 'n' || c == 'e' || c == 'E'
  | _ => false

def echoedByProgram (arguments : List Chars) : Chars :=
  let options := (arguments.takeWhile isEchoOption).flatten
  let text := spaced (arguments.dropWhile isEchoOption)
  let lineEnd := if options.contains 'n' then [] else ['\n']
  let escapes := (options.filter fun c => c == 'e' || c == 'E').getLast? == some 'e'
  let (chars, goesOn) := if escapes then unescape .echoProgram text else (text, true)
  if goesOn then chars ++ lineEnd else chars

/-- A part of a format: a text, or a directive with its flags, width, precision and letter. -/
inductive FormatPart where
  | text (chars : Chars)
  | directive (flags : Chars) (width : Nat) (precision : Option Nat) (letter : Char)
  deriving Repr

/-- The directive behind a percent sign and the characters behind it. -/
def readDirective (text : Chars) : Option (FormatPart × Chars) :=
  let isFlag := fun c : Char => c == '-' || c == '0' || c == '+' || c == ' ' || c == '#'
  let flags := text.takeWhile isFlag
  let rest := text.dropWhile isFlag
  let width := numberOf 10 (rest.takeWhile Char.isDigit)
  let (precision, rest) :=
    match rest.dropWhile Char.isDigit with
    | '.' :: rest => (some (numberOf 10 (rest.takeWhile Char.isDigit)), rest.dropWhile Char.isDigit)
    | rest => (none, rest)
  match rest with
  | letter :: rest =>
    if "sbcdiuoxX".toList.contains letter then
      some (.directive flags width precision letter, rest)
    else none
  | [] => none

/-- How a format ends: with its last part, with an escape that ends all printing, or with what is no
directive. -/
inductive FormatEnd where
  | complete
  | stopped
  | invalid
  deriving DecidableEq, Repr

def readFormat (rules : EscapeRules) : Nat → Chars → List FormatPart × FormatEnd
  | 0, _ => ([], .complete)
  | _ + 1, [] => ([], .complete)
  | fuel + 1, c :: rest =>
    let before (part : FormatPart) (rest : Chars) : List FormatPart × FormatEnd :=
      let (parts, ending) := readFormat rules fuel rest
      (part :: parts, ending)
    if c == '\\' then
      match readEscape rules rest with
      | none => ([], .stopped)
      | some (chars, taken) => before (.text chars) (rest.drop taken)
    else if c == '%' then
      match rest with
      | '%' :: rest => before (.text ['%']) rest
      | rest =>
        match readDirective rest with
        | some (part, rest) => before part rest
        | none => ([], .invalid)
    else before (.text [c]) rest

/-- A text brought to a width. -/
def padded (flags : Chars) (width : Nat) (chars : Chars) : Chars :=
  let fill := width - chars.length
  if flags.contains '-' then chars ++ List.replicate fill ' ' else List.replicate fill ' ' ++ chars

def digitsOf (base : Nat) (number : Nat) : Chars :=
  Nat.toDigits base number

/-- The number of the digits in front, and the characters behind them. The digits may be octal or
hexadecimal. -/
def readMagnitude : Chars → Nat × Chars
  | '0' :: 'x' :: c :: rest =>
    if isHex c then (numberOf 16 ((c :: rest).takeWhile isHex), (c :: rest).dropWhile isHex)
    else (0, 'x' :: c :: rest)
  | '0' :: rest => (numberOf 8 (rest.takeWhile isOctal), rest.dropWhile isOctal)
  | text => (numberOf 10 (text.takeWhile Char.isDigit), text.dropWhile Char.isDigit)

/-- The integer that an argument begins with, and the characters behind it: all of them if it begins
with none. A quote stands before a character whose number is meant. -/
def readInteger (argument : Chars) : Int × Chars :=
  let signed (sign : Int) (digits : Chars) : Int × Chars :=
    let (value, rest) := readMagnitude digits
    if rest.length == digits.length then (0, argument) else (sign * value, rest)
  match argument with
  | '-' :: rest => signed (-1) rest
  | '+' :: rest => signed 1 rest
  | '\'' :: c :: _ => (c.toNat, [])
  | '"' :: c :: _ => (c.toNat, [])
  | digits => signed 1 digits

/-- A number as a directive asks for it. -/
def formattedNumber (flags : Chars) (width : Nat) (precision : Option Nat) (letter : Char)
    (value : Int) : Chars :=
  let signed := letter == 'd' || letter == 'i'
  let magnitude := if signed then value.natAbs else (value % 18446744073709551616).toNat
  let digits :=
    match letter with
    | 'o' => digitsOf 8 magnitude
    | 'x' => digitsOf 16 magnitude
    | 'X' => (digitsOf 16 magnitude).map Char.toUpper
    | _ => digitsOf 10 magnitude
  let digits := List.replicate (precision.getD 1 - digits.length) '0' ++ digits
  let digits :=
    if letter == 'o' && flags.contains '#' && digits.head? != some '0' then '0' :: digits
    else digits
  let sign :=
    if signed then
      if value < 0 then ['-'] else if flags.contains '+' then ['+']
      else if flags.contains ' ' then [' '] else []
    else if flags.contains '#' && magnitude != 0 && (letter == 'x' || letter == 'X') then
      ['0', letter]
    else []
  if flags.contains '0' && !flags.contains '-' && precision.isNone then
    sign ++ List.replicate (width - sign.length - digits.length) '0' ++ digits
  else padded flags width (sign ++ digits)

/-- An argument that is no number, and whether it begins with one. -/
structure Fault where
  argument : Chars
  beginsWithNumber : Bool
  deriving Repr

/-- What has been printed, the arguments that are left, whether printing goes on, and the arguments
that should have been numbers. -/
structure Printed where
  chars : Chars := []
  arguments : List Chars := []
  goesOn : Bool := true
  faults : List Fault := []
  deriving Repr

def Printed.followedBy (first second : Printed) : Printed :=
  { second with chars := first.chars ++ second.chars, faults := first.faults ++ second.faults }

/-- What a directive prints for an argument. A text that has a character missing is a zero
character. -/
def formatted (rules : EscapeRules) (flags : Chars) (width : Nat) (precision : Option Nat)
    (letter : Char) (argument : Chars) : Printed :=
  let cut (chars : Chars) : Chars := precision.elim chars fun count => chars.take count
  match letter with
  | 's' => { chars := padded flags width (cut argument) }
  | 'c' => { chars := padded flags width [argument.headD '\x00'] }
  | 'b' =>
    let (chars, goesOn) := unescape { rules with longOctal := true, stops := true } argument
    { chars := padded flags width (cut chars), goesOn := goesOn }
  | letter =>
    let (value, rest) := readInteger argument
    { chars := formattedNumber flags width precision letter value
      faults := if rest.isEmpty then [] else [⟨argument, rest.length < argument.length⟩] }

/-- What the parts of a format print for arguments. A missing argument counts as an empty one. -/
def printParts (rules : EscapeRules) : List FormatPart → List Chars → Printed
  | [], arguments => { arguments }
  | .text chars :: parts, arguments =>
    Printed.followedBy { chars } (printParts rules parts arguments)
  | .directive flags width precision letter :: parts, arguments =>
    let first := formatted rules flags width precision letter (arguments.headD [])
    if first.goesOn then first.followedBy (printParts rules parts (arguments.drop 1)) else first

/-- Prints the parts of a format again and again while arguments are left. -/
def printAll (rules : EscapeRules) (parts : List FormatPart) : Nat → List Chars → Printed
  | 0, _ => {}
  | fuel + 1, arguments =>
    let first := printParts rules parts arguments
    if first.goesOn && !first.arguments.isEmpty && first.arguments.length < arguments.length then
      first.followedBy (printAll rules parts fuel first.arguments)
    else first

def printed (rules : EscapeRules) (format : Chars) (arguments : List Chars) :
    Printed × FormatEnd :=
  let (parts, ending) := readFormat rules (format.length + 1) format
  if ending = .complete then (printAll rules parts (arguments.length + 1) arguments, ending)
  else (printParts rules parts arguments, ending)

def testNumber? (argument : Chars) : Option Int :=
  let digits := if argument.head? == some '-' then argument.drop 1 else argument
  if digits.isEmpty || !digits.all Char.isDigit then none
  else
    let magnitude : Int := numberOf 10 digits
    some (if argument.head? == some '-' then -magnitude else magnitude)

/-- Why a condition makes no sense. -/
inductive TestFault where
  | notANumber (argument : Chars)
  | unexpectedOperator (argument : Chars)
  deriving Repr

def TestFault.message : TestFault → Chars
  | notANumber argument => "Illegal number: ".toList ++ argument
  | unexpectedOperator argument => argument ++ ": unexpected operator".toList

/-- Whether a comparison of two arguments holds. -/
def compares (operator : Chars) (left right : Chars) : Except TestFault Bool :=
  let number (argument : Chars) : Except TestFault Int :=
    (testNumber? argument).elim (.error (.notANumber argument)) .ok
  let numbers (holds : Int → Int → Bool) : Except TestFault Bool := do
    let left ← number left
    return holds left (← number right)
  match String.ofList operator with
  | "=" => .ok (left == right)
  | "!=" => .ok (left != right)
  | "-eq" => numbers fun a b => a == b
  | "-ne" => numbers fun a b => a != b
  | "-lt" => numbers fun a b => a < b
  | "-le" => numbers fun a b => a ≤ b
  | "-gt" => numbers fun a b => b < a
  | "-ge" => numbers fun a b => b ≤ a
  | _ => .error (.unexpectedOperator left)

end FileSearch.Shell
