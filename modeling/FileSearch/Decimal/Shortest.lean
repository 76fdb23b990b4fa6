/-!
# The shortest decimal form of a binary fraction

A finite double-precision number is `mantissa * 2 ^ exponent`. Among the decimals that round to it,
the shortest form has the fewest digits, and is the nearest to the number among those.
-/

set_option autoImplicit false

namespace FileSearch

/-- A decimal number, `digits * 10 ^ exponent`. -/
structure Decimal where
  digits : Nat
  exponent : Int
  deriving DecidableEq, Repr

namespace Decimal

/-- A positive rational number. -/
structure Ratio where
  numerator : Nat
  denominator : Nat
  deriving DecidableEq, Repr

/-- The rational number `factor * base ^ exponent`. -/
def Ratio.scaled (factor base : Nat) (exponent : Int) : Ratio :=
  let power := Nat.pow base exponent.natAbs
  if exponent < 0 then ⟨factor, power⟩ else ⟨factor * power, 1⟩

/-- Whether one rational number is less than another. -/
def Ratio.lt (left right : Ratio) : Bool :=
  left.numerator * right.denominator < right.numerator * left.denominator

/-- A positive binary number and the interval of the numbers that round to it. -/
structure Rounding where
  value : Ratio
  low : Ratio
  high : Ratio
  /-- Whether the ends of the interval round to the number too. -/
  closed : Bool
  deriving Repr

/-- The least mantissa of a normal number, `2 ^ 52`. -/
def leastNormal : Nat := 4503599627370496

/-- The interval of the numbers that round to `mantissa * 2 ^ exponent`. The number below is closer
when the mantissa is the least one and the exponent is not. -/
def Rounding.ofBinary (mantissa : Nat) (exponent : Int) (leastExponent : Int) : Rounding :=
  let isPower := mantissa == leastNormal && leastExponent < exponent
  { value := Ratio.scaled (4 * mantissa) 2 (exponent - 2)
    low := Ratio.scaled (4 * mantissa - (if isPower then 1 else 2)) 2 (exponent - 2)
    high := Ratio.scaled (4 * mantissa + 2) 2 (exponent - 2)
    closed := mantissa % 2 == 0 }

def Rounding.admits (rounding : Rounding) (number : Ratio) : Bool :=
  if rounding.closed then !number.lt rounding.low && !rounding.high.lt number
  else rounding.low.lt number && number.lt rounding.high

/-- The decimal with a given last place that is nearest to the number in question, of those that
round to it. Of two equally near ones the one with an even last digit is taken. -/
def Rounding.nearest? (rounding : Rounding) (place : Int) : Option Decimal :=
  let step := Ratio.scaled 1 10 place
  let top := rounding.value.numerator * step.denominator
  let bottom := rounding.value.denominator * step.numerator
  let lower := top / bottom
  let remainder := top % bottom
  let admitted (digits : Nat) : Bool := rounding.admits (Ratio.scaled digits 10 place)
  let preferUpper := bottom < 2 * remainder || (2 * remainder == bottom && lower % 2 == 1)
  let candidates := if preferUpper then [lower + 1, lower] else [lower, lower + 1]
  (candidates.find? fun digits => digits != 0 && admitted digits).map fun digits => ⟨digits, place⟩

/-- The first decimal that is found when the last place moves down from `place`, for at most `fuel`
places. -/
def Rounding.search (rounding : Rounding) : Nat → Int → Decimal
  | 0, place => ⟨0, place⟩
  | fuel + 1, place =>
    match rounding.nearest? place with
    | some decimal => decimal
    | none => rounding.search fuel (place - 1)

/-- A decimal without the zeros at the end of its digits. -/
def stripped (decimal : Decimal) : Nat → Decimal
  | 0 => decimal
  | fuel + 1 =>
    if decimal.digits != 0 && decimal.digits % 10 == 0 then
      stripped ⟨decimal.digits / 10, decimal.exponent + 1⟩ fuel
    else decimal

/-- The shortest decimal that rounds to a positive double-precision number, given by its bits. Its
digits begin no higher than at the place of 10 ^ 309. -/
def shortest (bits : UInt64) : Decimal :=
  let fraction := bits.toNat % leastNormal
  let biased : Nat := bits.toNat / leastNormal % 2048
  let rounding :=
    if biased == 0 then Rounding.ofBinary fraction (-1074) (-1074)
    else Rounding.ofBinary (leastNormal + fraction) (Int.ofNat biased - 1075) (-1074)
  (rounding.search 700 309).stripped 20

/-- The layout of a decimal with a point or, far from the point, with an exponent: positional when
the digits begin at most sixteen places before the point and at most five behind it, and always
with a digit on both sides of the point. -/
def render (decimal : Decimal) : String :=
  let digits := toString decimal.digits
  let length := digits.length
  let point : Int := length + decimal.exponent
  let zeros (count : Int) : String := String.ofList (List.replicate count.toNat '0')
  if 0 ≤ decimal.exponent && point ≤ 16 then digits ++ zeros decimal.exponent ++ ".0"
  else if 0 < point && point ≤ 16 then
    String.ofList (digits.toList.take point.toNat) ++ "."
      ++ String.ofList (digits.toList.drop point.toNat)
  else if -5 < point && point ≤ 0 then "0." ++ zeros (-point) ++ digits
  else if length == 1 then digits ++ "e" ++ toString (point - 1)
  else
    String.ofList (digits.toList.take 1) ++ "." ++ String.ofList (digits.toList.drop 1) ++ "e"
      ++ toString (point - 1)

/-- The place of the sign in the bits of a number, `2 ^ 63`. -/
def signBit : Nat := 9223372036854775808

/-- The shortest text that reads back as a finite double-precision number. -/
def renderFloat (number : Float) : String :=
  let bits := number.toBits
  let sign := if signBit ≤ bits.toNat then "-" else ""
  if bits.toNat % signBit == 0 then sign ++ "0.0"
  else sign ++ (shortest (UInt64.ofNat (bits.toNat % signBit))).render

end Decimal

end FileSearch
