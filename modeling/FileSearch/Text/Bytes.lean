/-!
# Bytes and text

File contents, process output and paths are byte strings. This module relates them to text: the
UTF-8 form of a text, exact decoding, and decoding that replaces what is not UTF-8.
-/

set_option autoImplicit false

namespace FileSearch

abbrev Bytes := List UInt8

namespace Bytes

/-- The UTF-8 form of a text. -/
def ofText (text : String) : Bytes :=
  text.toUTF8.data.toList

/-- The text that a byte string encodes, if it is UTF-8. -/
def toText? (bytes : Bytes) : Option String :=
  String.fromUTF8? ⟨bytes.toArray⟩

/-- How many bytes follow a first byte, and the interval that the second byte has to lie in.
The interval is narrower than that of all continuation bytes where a wider one would admit a code
point with a shorter form, a surrogate or a code point beyond the last. -/
def continuation (first : UInt8) : Option (Nat × UInt8 × UInt8) :=
  if 0xC2 ≤ first && first ≤ 0xDF then some (1, 0x80, 0xBF)
  else if first == 0xE0 then some (2, 0xA0, 0xBF)
  else if first == 0xED then some (2, 0x80, 0x9F)
  else if 0xE1 ≤ first && first ≤ 0xEF then some (2, 0x80, 0xBF)
  else if first == 0xF0 then some (3, 0x90, 0xBF)
  else if 0xF1 ≤ first && first ≤ 0xF3 then some (3, 0x80, 0xBF)
  else if first == 0xF4 then some (3, 0x80, 0x8F)
  else none

/-- The mark that stands for bytes that are not UTF-8. -/
def replacement : Char := '\uFFFD'

/-- The low six bits of a continuation byte. -/
def payload (byte : UInt8) : Nat :=
  byte.toNat % 64

/-- Whether a byte can follow the second byte of a character. -/
def isContinuation (byte : UInt8) : Bool :=
  0x80 ≤ byte && byte ≤ 0xBF

/-- The character that a first byte and the bytes after it begin with, and how many of the bytes
after it belong to that character. A run that begins a character without completing it, taken as
long as possible, stands for one replacement mark. -/
def decodeFirst (first : UInt8) (rest : Bytes) : Char × Nat :=
  if first < 0x80 then (Char.ofNat first.toNat, 0)
  else match continuation first, rest with
    | none, _ => (replacement, 0)
    | some _, [] => (replacement, 0)
    | some (count, low, high), second :: rest =>
      if second < low || high < second then (replacement, 0)
      else if count == 1 then (Char.ofNat (first.toNat % 32 * 64 + payload second), 1)
      else match rest with
        | [] => (replacement, 1)
        | third :: rest =>
          if !isContinuation third then (replacement, 1)
          else if count == 2 then
            (Char.ofNat ((first.toNat % 16 * 64 + payload second) * 64 + payload third), 2)
          else match rest with
            | [] => (replacement, 2)
            | fourth :: _ =>
              if !isContinuation fourth then (replacement, 2)
              else
                (Char.ofNat (((first.toNat % 8 * 64 + payload second) * 64 + payload third) * 64
                  + payload fourth), 3)

/-- The characters of a byte string, with replacement marks for what is not UTF-8. -/
def decodeChars : Bytes → List Char
  | [] => []
  | first :: rest =>
    (decodeFirst first rest).1 :: decodeChars (rest.drop (decodeFirst first rest).2)
termination_by bytes => bytes.length

/-- The text of a byte string, with replacement marks for what is not UTF-8. -/
def toTextLossy (bytes : Bytes) : String :=
  String.ofList (decodeChars bytes)

end Bytes

end FileSearch
