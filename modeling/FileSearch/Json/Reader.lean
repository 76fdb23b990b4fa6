import FileSearch.Json.Number
import FileSearch.Json.Skip

/-!
# Reading typed values

Readers for the values that fields hold. A value of another kind is refused as soon as its kind is
known: behind a word, a number or a text, and at the bracket that opens a list or an object.
-/

set_option autoImplicit false

namespace FileSearch.Json

/-- The error for a value, at the front of a text, that is not of the expected kind. A malformed
value is reported as such. -/
def refusal (expected : Expected) : List Char → Error
  | [] => .endInValue
  | 'n' :: rest => word .null ['u', 'l', 'l'] rest
  | 't' :: rest => word (.boolean true) ['r', 'u', 'e'] rest
  | 'f' :: rest => word (.boolean false) ['a', 'l', 's', 'e'] rest
  | '"' :: rest =>
    match readTextTail rest with
    | .ok (chars, _) => .wrongKind (.text (String.ofList chars)) expected
    | .error error => error
  | '[' :: _ => .wrongKind .sequence expected
  | '{' :: _ => .wrongKind .map expected
  | c :: rest =>
    if c == '-' || c.isDigit then
      match readNumber (c :: rest) with
      | .ok (number, _) => .wrongKind number.found expected
      | .error error => error
    else .valueExpected
where
  /-- The error for a word whose first letter has been taken. -/
  word (found : Found) (letters text : List Char) : Error :=
    match skipWord letters text with
    | .ok _ => .wrongKind found expected
    | .error error => error

/-- A text, or whatever is written as one. -/
def readTextAs (expected : Expected) : Reader String := fun text =>
  match dropSpaces text with
  | '"' :: rest => (readTextTail rest).map fun (chars, rest) => (String.ofList chars, rest)
  | rest => .error (refusal expected rest)

def readText : Reader String :=
  readTextAs .text

/-- A truth value. -/
def readBoolean : Reader Bool := fun text =>
  match dropSpaces text with
  | 't' :: rest => (skipWord ['r', 'u', 'e'] rest).map fun rest => (true, rest)
  | 'f' :: rest => (skipWord ['a', 'l', 's', 'e'] rest).map fun rest => (false, rest)
  | rest => .error (refusal .boolean rest)

def readInteger (low high : Int) (expected : Expected) : Reader Int := fun text =>
  match dropSpaces text with
  | [] => .error .endInValue
  | c :: rest =>
    if c == '-' || c.isDigit then do
      match ← readNumber (c :: rest) with
      | (.integer value, rest) =>
        if low ≤ value && value ≤ high then .ok (value, rest)
        else .error (.outOfRange value expected)
      | (number, _) => .error (.wrongKind number.found expected)
    else .error (refusal expected (c :: rest))

/-- The ordinal of a choice: an integer of 16 bits without sign. -/
def readOrdinal : Reader Nat := fun text =>
  (readInteger 0 65535 .unsigned16 text).map fun (value, rest) => (value.toNat, rest)

/-- The elements of a list behind the first one, up to the closing bracket. Each element takes at
least one character, so `fuel` only has to be the length of the text. -/
def readElements {α : Type} (read : Reader α) : Nat → Reader (List α)
  | 0, _ => .error .endInList
  | fuel + 1, text =>
    match dropSpaces text with
    | [] => .error .endInList
    | ']' :: rest => .ok ([], rest)
    | ',' :: rest =>
      match dropSpaces rest with
      | [] => .error .endInValue
      | ']' :: _ => .error .trailingComma
      | rest => do
        let (value, rest) ← read rest
        let (values, rest) ← readElements read fuel rest
        return (value :: values, rest)
    | _ => .error .elementEndExpected

/-- A list of values of one kind. -/
def readList {α : Type} (read : Reader α) : Reader (List α) := fun text =>
  match dropSpaces text with
  | '[' :: rest =>
    match dropSpaces rest with
    | [] => .error .endInList
    | ']' :: rest => .ok ([], rest)
    | rest => do
      let (value, rest) ← read rest
      let (values, rest) ← readElements read rest.length rest
      return (value :: values, rest)
  | rest => .error (refusal .sequence rest)

/-- A whole document: a value with nothing but spaces behind it. -/
def readDocument {α : Type} (read : Reader α) (document : String) : Except Error α := do
  let (value, rest) ← read document.toList
  if (dropSpaces rest).isEmpty then return value else throw .trailingCharacters

end FileSearch.Json
