import FileSearch.Json.Error

/-!
# Texts in JSON documents

Reading and writing of the text between two double quotes. Writing escapes quotes, backslashes and
control characters, and nothing else.
-/

set_option autoImplicit false

namespace FileSearch.Json

/-- The value of a digit in base sixteen. -/
def hexDigit? (c : Char) : Option Nat :=
  if c.isDigit then some (c.toNat - '0'.toNat)
  else if 'a' ≤ c && c ≤ 'f' then some (c.toNat - 'a'.toNat + 10)
  else if 'A' ≤ c && c ≤ 'F' then some (c.toNat - 'A'.toNat + 10)
  else none

/-- The value of four digits in base sixteen. -/
def hexQuad? (a b c d : Char) : Option Nat := do
  return (((← hexDigit? a) * 16 + (← hexDigit? b)) * 16 + (← hexDigit? c)) * 16 + (← hexDigit? d)

/-- The error for fewer than four characters where four digits are expected: the text ends there
unless what is left takes four bytes. -/
def shortHexError (rest : List Char) : Error :=
  if (String.ofList rest).utf8ByteSize < 4 then .endInText else .invalidEscape

/-- Whether a 16-bit unit is the first of a surrogate pair. -/
def isLeading (unit : Nat) : Bool :=
  0xD800 ≤ unit && unit ≤ 0xDBFF

/-- Whether a 16-bit unit is the second of a surrogate pair. -/
def isTrailing (unit : Nat) : Bool :=
  0xDC00 ≤ unit && unit ≤ 0xDFFF

/-- The character of a surrogate pair. -/
def pairedChar (leading trailing : Nat) : Char :=
  Char.ofNat (0x10000 + (leading - 0xD800) * 0x400 + (trailing - 0xDC00))

/-- The character that a letter stands for after a backslash. -/
def escapeValue? (c : Char) : Option Char :=
  if c = '"' || c = '\\' || c = '/' then some c
  else if c = 'b' then some '\x08'
  else if c = 'f' then some '\x0c'
  else if c = 'n' then some '\n'
  else if c = 'r' then some '\r'
  else if c = 't' then some '\t'
  else none

/-- A character in front of a text that is being read. -/
def consText (c : Char) (read : Except Error (List Char × List Char)) :
    Except Error (List Char × List Char) :=
  read.map fun (chars, rest) => (c :: chars, rest)

/-- The characters up to the closing quote. -/
def readTextTail : Reader (List Char)
  | [] => .error .endInText
  | '"' :: rest => .ok ([], rest)
  | '\\' :: rest =>
    match rest with
    | [] => .error .endInText
    | 'u' :: rest =>
      match rest with
      | a :: b :: c :: d :: rest =>
        match hexQuad? a b c d with
        | none => .error .invalidEscape
        | some unit =>
          if isTrailing unit then .error .loneSurrogate
          else if isLeading unit then
            match rest with
            | [] => .error .endInText
            | ['\\'] => .error .endInText
            | '\\' :: 'u' :: rest =>
              match rest with
              | a :: b :: c :: d :: rest =>
                match hexQuad? a b c d with
                | none => .error .invalidEscape
                | some second =>
                  if isTrailing second then consText (pairedChar unit second) (readTextTail rest)
                  else .error .loneSurrogate
              | short => .error (shortHexError short)
            | _ => .error .unfinishedSurrogatePair
          else consText (Char.ofNat unit) (readTextTail rest)
      | short => .error (shortHexError short)
    | letter :: rest =>
      match escapeValue? letter with
      | some c => consText c (readTextTail rest)
      | none => .error .invalidEscape
  | c :: rest =>
    if c.toNat < 0x20 then .error .controlCharacter else consText c (readTextTail rest)

/-- The rest of a document behind the closing quote of a text whose characters do not matter. Pairs
of surrogates are not looked for. -/
def skipTextTail : List Char → Except Error (List Char)
  | [] => .error .endInText
  | '"' :: rest => .ok rest
  | '\\' :: rest =>
    match rest with
    | [] => .error .endInText
    | 'u' :: rest =>
      match rest with
      | a :: b :: c :: d :: rest =>
        match hexQuad? a b c d with
        | none => .error .invalidEscape
        | some _ => skipTextTail rest
      | short => .error (shortHexError short)
    | letter :: rest =>
      match escapeValue? letter with
      | some _ => skipTextTail rest
      | none => .error .invalidEscape
  | c :: rest =>
    if c.toNat < 0x20 then .error .controlCharacter else skipTextTail rest

/-- A digit in base sixteen, in lower case. -/
def hexChar (digit : Nat) : Char :=
  if digit < 10 then Char.ofNat ('0'.toNat + digit) else Char.ofNat ('a'.toNat + digit - 10)

def writtenChar (c : Char) : List Char :=
  if c = '"' || c = '\\' then ['\\', c]
  else if c = '\x08' then ['\\', 'b']
  else if c = '\x0c' then ['\\', 'f']
  else if c = '\n' then ['\\', 'n']
  else if c = '\r' then ['\\', 'r']
  else if c = '\t' then ['\\', 't']
  else if c.toNat < 0x20 then ['\\', 'u', '0', '0', hexChar (c.toNat / 16), hexChar (c.toNat % 16)]
  else [c]

def writeText (text : String) : List Char :=
  '"' :: (text.toList.flatMap writtenChar ++ ['"'])

end FileSearch.Json
