import FileSearch.Json.Text

/-!
# Values that are passed over

A document may hold members that no field asks for. Their values have to be well-formed and have
no other effect.
-/

set_option autoImplicit false

namespace FileSearch.Json

/-- Whether a character may stand between two tokens. -/
def isSpace (c : Char) : Bool :=
  c == ' ' || c == '\t' || c == '\n' || c == '\r'

/-- A text without the spaces at its front. -/
def dropSpaces (text : List Char) : List Char :=
  text.dropWhile isSpace

/-- The rest of a text behind the rest of a word whose first letter has been taken. -/
def skipWord : List Char → List Char → Except Error (List Char)
  | [], text => .ok text
  | _ :: _, [] => .error .endInValue
  | letter :: word, c :: text => if c = letter then skipWord word text else .error .wordExpected

def skipExponent (text : List Char) : Except Error (List Char) :=
  let digits := match text with
    | '+' :: rest => rest
    | '-' :: rest => rest
    | _ => text
  if (digits.takeWhile Char.isDigit).isEmpty then .error .invalidNumber
  else .ok (digits.dropWhile Char.isDigit)

/-- The rest of a text behind the end of a number: an exponent or nothing more. -/
def skipScale : List Char → Except Error (List Char)
  | 'e' :: rest => skipExponent rest
  | 'E' :: rest => skipExponent rest
  | rest => .ok rest

/-- The rest of a text behind a number whose sign has been taken. -/
def skipMagnitude (text : List Char) : Except Error (List Char) :=
  let digits := text.takeWhile Char.isDigit
  if digits.isEmpty || (digits.head? == some '0' && 1 < digits.length) then .error .invalidNumber
  else match text.dropWhile Char.isDigit with
    | '.' :: rest =>
      if (rest.takeWhile Char.isDigit).isEmpty then .error .invalidNumber
      else skipScale (rest.dropWhile Char.isDigit)
    | rest => skipScale rest

mutual

/-- The rest of a text behind a value and the spaces before it. Each step down takes at least one
character, so `fuel` only has to be the length of the text. -/
def skipValueWith : Nat → List Char → Except Error (List Char)
  | 0, _ => .error .endInValue
  | fuel + 1, text =>
    match dropSpaces text with
    | [] => .error .endInValue
    | 'n' :: rest => skipWord ['u', 'l', 'l'] rest
    | 't' :: rest => skipWord ['r', 'u', 'e'] rest
    | 'f' :: rest => skipWord ['a', 'l', 's', 'e'] rest
    | '"' :: rest => skipTextTail rest
    | '[' :: rest =>
      match dropSpaces rest with
      | [] => .error .endInList
      | ']' :: rest => .ok rest
      | rest => skipElements fuel rest
    | '{' :: rest =>
      match dropSpaces rest with
      | [] => .error .endInObject
      | '}' :: rest => .ok rest
      | rest => skipMembers fuel rest
    | '-' :: rest => skipMagnitude rest
    | c :: rest => if c.isDigit then skipMagnitude (c :: rest) else .error .valueExpected

/-- The rest of a text behind the remaining elements of a list, of which there is at least one. -/
def skipElements : Nat → List Char → Except Error (List Char)
  | 0, _ => .error .endInList
  | fuel + 1, text => do
    match dropSpaces (← skipValueWith fuel text) with
    | [] => .error .endInList
    | ']' :: rest => .ok rest
    | ',' :: rest => skipElements fuel rest
    | _ => .error .elementEndExpected

/-- The rest of a text behind the remaining members of an object, of which there is at least one. -/
def skipMembers : Nat → List Char → Except Error (List Char)
  | 0, _ => .error .endInObject
  | fuel + 1, text =>
    match dropSpaces text with
    | [] => .error .endInObject
    | '"' :: rest => do
      match dropSpaces (← skipTextTail rest) with
      | [] => .error .endInObject
      | ':' :: rest =>
        match dropSpaces (← skipValueWith fuel rest) with
        | [] => .error .endInObject
        | '}' :: rest => .ok rest
        | ',' :: rest => skipMembers fuel rest
        | _ => .error .memberEndExpected
      | _ => .error .colonExpected
    | _ => .error .keyNotText

end

def skipValue (text : List Char) : Except Error (List Char) :=
  skipValueWith (2 * text.length + 1) text

end FileSearch.Json
