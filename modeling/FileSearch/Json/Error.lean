import FileSearch.Text.Escaped

/-!
# Why a JSON document is refused

One cause for each way in which a document can be malformed or hold a value of the wrong kind, and
the wording of each cause.
-/

set_option autoImplicit false

namespace FileSearch.Json

/-- A value that stands where another kind is expected. A fractional number is kept in its shortest
decimal form. -/
inductive Found where
  | null
  | boolean (value : Bool)
  | integer (value : Int)
  | fractional (digits : String)
  | text (value : String)
  | map
  | sequence
  deriving DecidableEq, Repr

inductive Expected where
  | text
  | boolean
  | unsigned16
  | signed32
  | sequence
  | path
  | record (name : String)
  deriving DecidableEq, Repr

/-- The causes for which a document is refused. -/
inductive Error where
  | endInValue
  | endInList
  | endInObject
  | endInText
  | valueExpected
  | wordExpected
  | colonExpected
  | memberEndExpected
  | elementEndExpected
  | keyNotText
  | trailingComma
  | trailingCharacters
  | invalidNumber
  | numberOutOfRange
  | invalidEscape
  | unfinishedSurrogatePair
  | loneSurrogate
  | controlCharacter
  | wrongKind (found : Found) (expected : Expected)
  | outOfRange (value : Int) (expected : Expected)
  | duplicateField (key : String)
  | missingField (key : String)
  | missingElement (present : Nat) (record : String) (size : Nat)
  deriving DecidableEq, Repr

/-- A word set off by backticks. -/
def ticked (word : String) : String :=
  "`" ++ word ++ "`"

/-- The wording of a value that was found. -/
def Found.description : Found → String
  | .null => "null"
  | .boolean value => "boolean " ++ ticked (toString value)
  | .integer value => "integer " ++ ticked (toString value)
  | .fractional digits => "floating point " ++ ticked digits
  | .text value => "string " ++ Text.escaped value
  | .map => "map"
  | .sequence => "sequence"

/-- The wording of an expectation. -/
def Expected.description : Expected → String
  | .text => "a string"
  | .boolean => "a boolean"
  | .unsigned16 => "u16"
  | .signed32 => "i32"
  | .sequence => "a sequence"
  | .path => "path string"
  | .record name => "struct " ++ name

/-- The wording of a cause. -/
def Error.message : Error → String
  | .endInValue => "EOF while parsing a value"
  | .endInList => "EOF while parsing a list"
  | .endInObject => "EOF while parsing an object"
  | .endInText => "EOF while parsing a string"
  | .valueExpected => "expected value"
  | .wordExpected => "expected ident"
  | .colonExpected => "expected `:`"
  | .memberEndExpected => "expected `,` or `\x7d`"
  | .elementEndExpected => "expected `,` or `]`"
  | .keyNotText => "key must be a string"
  | .trailingComma => "trailing comma"
  | .trailingCharacters => "trailing characters"
  | .invalidNumber => "invalid number"
  | .numberOutOfRange => "number out of range"
  | .invalidEscape => "invalid escape"
  | .unfinishedSurrogatePair => "unexpected end of hex escape"
  | .loneSurrogate => "lone leading surrogate in hex escape"
  | .controlCharacter => "control character (\\u0000-\\u001F) found while parsing a string"
  | .wrongKind found expected =>
    "invalid type: " ++ found.description ++ ", expected " ++ expected.description
  | .outOfRange value expected =>
    "invalid value: " ++ (Found.integer value).description ++ ", expected " ++ expected.description
  | .duplicateField key => "duplicate field " ++ ticked key
  | .missingField key => "missing field " ++ ticked key
  | .missingElement present record size =>
    "invalid length " ++ toString present ++ ", expected struct " ++ record ++ " with "
      ++ toString size ++ " elements"

/-- A reader takes a value from the front of a text, and leaves the rest of the text. -/
abbrev Reader (α : Type) := List Char → Except Error (α × List Char)

end FileSearch.Json
