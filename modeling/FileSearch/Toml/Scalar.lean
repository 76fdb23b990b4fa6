import FileSearch.Toml.Value

/-!
# Numbers and points in time in TOML documents

Which words are truth values, numbers or points in time.
-/

set_option autoImplicit false

namespace FileSearch.Toml

/-- Whether characters are digits with single underscores between them. -/
def isGrouped (isDigit : Char → Bool) (chars : List Char) : Bool :=
  (chars.splitOnP (· == '_')).all fun group => !group.isEmpty && group.all isDigit

/-- A word without a sign in front. -/
def dropSign : List Char → List Char
  | '+' :: rest => rest
  | '-' :: rest => rest
  | chars => chars

/-- Whether characters are a decimal integer without a sign. It has no leading zero. -/
def isDecimal (chars : List Char) : Bool :=
  isGrouped Char.isDigit chars && (chars.head? != some '0' || chars.length == 1)

/-- The number that digits of a base stand for. Underscores are passed over. -/
def numberOf (base : Nat) (chars : List Char) : Nat :=
  chars.foldl (fun value c =>
    if c == '_' then value
    else value * base + (if c.isDigit then c.toNat - 48 else c.toLower.toNat - 87)) 0

def fitsInteger (isNegative : Bool) (magnitude : Nat) : Bool :=
  if isNegative then magnitude ≤ Nat.pow 2 127 else magnitude < Nat.pow 2 128

def isInteger (chars : List Char) : Bool :=
  let based (base : Nat) (isDigit : Char → Bool) (digits : List Char) : Bool :=
    isGrouped isDigit digits && fitsInteger false (numberOf base digits)
  match chars with
  | '0' :: 'x' :: digits =>
    based 16 (fun c => c.isDigit || ('a' ≤ c.toLower && c.toLower ≤ 'f')) digits
  | '0' :: 'o' :: digits => based 8 (fun c => '0' ≤ c && c ≤ '7') digits
  | '0' :: 'b' :: digits => based 2 (fun c => c == '0' || c == '1') digits
  | chars =>
    let digits := dropSign chars
    isDecimal digits && fitsInteger (chars.head? == some '-') (numberOf 10 digits)

/-- The least magnitude that no number of 64 bits with a fraction comes close to. -/
def leastOverflow : Nat := Nat.pow 2 1024 - Nat.pow 2 970

/-- Whether a magnitude, the digits of a number and the power of ten that they are taken times, is
one of a number of 64 bits. -/
def fitsReal (digits : List Char) (exponent : Int) : Bool :=
  let significant := digits.dropWhile (· == '0')
  let places := significant.length + exponent
  if significant.isEmpty || places < 309 then true
  else if 310 < places then false
  else
    let number := numberOf 10 significant
    if 0 ≤ exponent then number * Nat.pow 10 exponent.toNat < leastOverflow
    else number < leastOverflow * Nat.pow 10 (-exponent).toNat

/-- Whether a word is a number with a fraction or an exponent, or one of the numbers that have
names. -/
def isReal (chars : List Char) : Bool :=
  let unsigned := dropSign chars
  if unsigned == ['i', 'n', 'f'] || unsigned == ['n', 'a', 'n'] then true
  else
    let isMark (c : Char) : Bool := c == 'e' || c == 'E'
    let mantissa := unsigned.takeWhile (!isMark ·)
    let exponent := (unsigned.dropWhile (!isMark ·)).drop 1
    let whole := mantissa.takeWhile (· != '.')
    let fraction := (mantissa.dropWhile (· != '.')).drop 1
    let hasExponent := unsigned.any isMark
    let hasFraction := mantissa.contains '.'
    let power : Int := numberOf 10 (dropSign exponent)
    let power := if exponent.head? == some '-' then -power else power
    (hasExponent || hasFraction) && isDecimal whole
      && (!hasFraction || isGrouped Char.isDigit fraction)
      && (!hasExponent || isGrouped Char.isDigit (dropSign exponent))
      && fitsReal ((whole ++ fraction).filter (· != '_'))
        (power - (fraction.filter (· != '_')).length)

/-- The number of so many digits at the beginning of a word, and the characters behind them. -/
def takeNumber (count : Nat) (chars : List Char) : Option (Nat × List Char) :=
  let digits := chars.take count
  if digits.length == count && digits.all Char.isDigit then
    some (numberOf 10 digits, chars.drop count)
  else none

/-- The characters behind a given one, if a word begins with it. -/
def takeChar (c : Char) : List Char → Option (List Char)
  | d :: rest => if c == d then some rest else none
  | [] => none

def daysOf (year month : Nat) : Nat :=
  if month == 2 then
    if year % 4 == 0 && (year % 100 != 0 || year % 400 == 0) then 29 else 28
  else if month == 4 || month == 6 || month == 9 || month == 11 then 30
  else 31

def takeDate (chars : List Char) : Option (List Char) := do
  let (year, rest) ← takeNumber 4 chars
  let (month, rest) ← takeNumber 2 (← takeChar '-' rest)
  let (day, rest) ← takeNumber 2 (← takeChar '-' rest)
  if 1 ≤ month && month ≤ 12 && 1 ≤ day && day ≤ daysOf year month then some rest else none

/-- The characters behind a fraction of a second, if there is one. -/
def takeFraction (chars : List Char) : Option (List Char) :=
  match chars with
  | '.' :: rest =>
    if rest.head?.any Char.isDigit then some (rest.dropWhile Char.isDigit) else none
  | chars => some chars

/-- The characters behind a time of day. Its seconds may be left out. -/
def takeTime (chars : List Char) : Option (List Char) := do
  let (hour, rest) ← takeNumber 2 chars
  let (minute, rest) ← takeNumber 2 (← takeChar ':' rest)
  if !(hour ≤ 23 && minute ≤ 59) then none
  match rest with
  | ':' :: rest =>
    let (second, rest) ← takeNumber 2 rest
    if second ≤ 60 then takeFraction rest else none
  | rest => some rest

/-- Whether characters are a distance from universal time, or nothing. -/
def isOffset (chars : List Char) : Bool :=
  let distance (rest : List Char) : Bool :=
    match takeNumber 2 rest with
    | some (hours, ':' :: rest) =>
      match takeNumber 2 rest with
      | some (minutes, []) => hours ≤ 23 && minutes ≤ 59
      | _ => false
    | _ => false
  match chars with
  | [] => true
  | ['Z'] => true
  | ['z'] => true
  | '+' :: rest => distance rest
  | '-' :: rest => distance rest
  | _ => false

/-- Whether a word is a date, a time of day or both. -/
def isMoment (chars : List Char) : Bool :=
  match takeDate chars with
  | some [] => true
  | some (c :: rest) =>
    (c == 'T' || c == 't' || c == ' ') && (takeTime rest).any isOffset
  | none => takeTime chars == some []

def scalar? (chars : List Char) : Option Value :=
  if chars == ['t', 'r', 'u', 'e'] then some (.boolean true)
  else if chars == ['f', 'a', 'l', 's', 'e'] then some (.boolean false)
  else if isInteger chars || isReal chars then some .number
  else if isMoment chars then some .moment
  else none

end FileSearch.Toml
