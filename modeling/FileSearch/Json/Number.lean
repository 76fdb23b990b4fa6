import FileSearch.Decimal.Shortest
import FileSearch.Json.Error

/-!
# Numbers in JSON documents

A number is an integer of 64 bits or else a double-precision number. No field of a document is
fractional, so a fractional number only matters for the message that refuses it.
-/

set_option autoImplicit false

namespace FileSearch.Json

/-- A number as a document writes it. -/
inductive Number where
  | integer (value : Int)
  | fractional (value : Float)

/-- The greatest integer that is read as one. -/
def maxInteger : Nat := 18446744073709551615

def isDigit (c : Char) : Bool :=
  c.isDigit

def digitValue (c : Char) : Nat :=
  c.toNat - '0'.toNat

/-- A number extended by the digits that it has room for, how many those are, and the digits that
are left. -/
def appendDigits (value : Nat) : List Char → Nat × Nat × List Char
  | [] => (value, 0, [])
  | c :: rest =>
    if value * 10 + digitValue c ≤ maxInteger then
      let (total, count, left) := appendDigits (value * 10 + digitValue c) rest
      (total, count + 1, left)
    else (value, 0, c :: rest)

def powerOfTen (exponent : Nat) : Float :=
  Float.ofScientific 1 false exponent

/-- A number moved by a negative power of ten, in steps that have a power of ten. -/
def shiftDown (value : Float) (exponent : Nat) : Float :=
  if h : exponent ≤ 308 then value / powerOfTen exponent
  else if value == 0 then value
  else shiftDown (value / powerOfTen 308) (exponent - 308)
termination_by exponent
decreasing_by omega

/-- The double-precision number of a significand and a power of ten, computed in that precision. -/
def scale (significand : Nat) (exponent : Int) : Except Error Float :=
  let value := (UInt64.ofNat significand).toFloat
  if exponent < 0 then .ok (shiftDown value exponent.natAbs)
  else if exponent.natAbs ≤ 308 then
    let scaled := value * powerOfTen exponent.natAbs
    if scaled.isInf then .error .numberOutOfRange else .ok scaled
  else if significand == 0 then .ok value
  else .error .numberOutOfRange

def fractionalNumber (negative : Bool) (significand : Nat) (exponent : Int) :
    Except Error Number := do
  let value ← scale significand exponent
  return .fractional (if negative then -value else value)

/-- The part of a number from its exponent mark on. -/
def readExponent (negative : Bool) (significand : Nat) (exponent : Int) : Reader Number :=
  fun text =>
    let (down, digits) := match text with
      | '+' :: rest => (false, rest)
      | '-' :: rest => (true, rest)
      | _ => (false, text)
    match digits with
    | [] => .error .endInValue
    | c :: _ =>
      if !isDigit c then .error .invalidNumber
      else
        let magnitude : Int := (digits.takeWhile isDigit).foldl (fun n d => n * 10 + digitValue d) 0
        let total := if down then exponent - magnitude else exponent + magnitude
        (fractionalNumber negative significand total).map fun number =>
          (number, digits.dropWhile isDigit)

/-- The end of a fractional number: an exponent or nothing more. -/
def readScale (negative : Bool) (significand : Nat) (exponent : Int) : Reader Number
  | 'e' :: rest => readExponent negative significand exponent rest
  | 'E' :: rest => readExponent negative significand exponent rest
  | rest => (fractionalNumber negative significand exponent).map fun number => (number, rest)

/-- The part of a number behind its point. Digits that the significand has no room for do not
count. -/
def readFraction (negative : Bool) (significand : Nat) (exponent : Int) : Reader Number :=
  fun text =>
    let digits := text.takeWhile isDigit
    let rest := text.dropWhile isDigit
    if digits.isEmpty then
      .error (if rest.isEmpty then .endInValue else .invalidNumber)
    else
      let (total, count, _) := appendDigits significand digits
      readScale negative total (exponent - count) rest

/-- An integer with its sign. Zero with a minus sign is fractional, and so is what lies below the
least 64-bit integer. -/
def integerNumber (negative : Bool) (magnitude : Nat) : Number :=
  if !negative then .integer magnitude
  else if magnitude == 0 || 9223372036854775808 < magnitude then
    .fractional (-(UInt64.ofNat magnitude).toFloat)
  else .integer (-magnitude)

def readMagnitude (negative : Bool) : Reader Number
  | [] => .error .endInValue
  | c :: rest =>
    if !isDigit c then .error .invalidNumber
    else if c == '0' && (rest.takeWhile isDigit).length != 0 then .error .invalidNumber
    else
      let digits := c :: rest.takeWhile isDigit
      let (significand, _, left) := appendDigits 0 digits
      let exponent : Int := left.length
      match rest.dropWhile isDigit with
      | '.' :: rest => readFraction negative significand exponent rest
      | rest =>
        if left.isEmpty && !(rest.head? == some 'e' || rest.head? == some 'E') then
          .ok (integerNumber negative significand, rest)
        else readScale negative significand exponent rest

def readNumber : Reader Number
  | '-' :: rest => readMagnitude true rest
  | rest => readMagnitude false rest

/-- How a number is described where it is refused. -/
def Number.found : Number → Found
  | .integer value => .integer value
  | .fractional value => .fractional (Decimal.renderFloat value)

end FileSearch.Json
