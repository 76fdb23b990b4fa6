import FileSearch.Toml.Scalar
import FileSearch.Toml.Text

/-!
# Reading TOML documents

A document is read line by line: headers open tables, and keys get values in the table that was
opened last.
-/

set_option autoImplicit false

namespace FileSearch.Toml

/-- Characters without blanks in front. -/
def skipBlanks (text : List Char) : List Char :=
  text.dropWhile fun c => c == ' ' || c == '\t'

/-- The characters behind a line end. The end of the text counts as one. -/
def lineEnd? : List Char → Option (List Char)
  | [] => some []
  | '\n' :: rest => some rest
  | '\r' :: '\n' :: rest => some rest
  | _ => none

/-- Characters behind blanks and a comment, if there is one. -/
def skipComment (text : List Char) : List Char :=
  match skipBlanks text with
  | '#' :: rest => rest.dropWhile isPlain
  | text => text

/-- Characters behind blanks, comments and line ends. `fuel` bounds the number of lines. -/
def skipLines : Nat → List Char → List Char
  | 0, text => text
  | fuel + 1, text =>
    match skipComment text with
    | '\n' :: rest => skipLines fuel rest
    | '\r' :: '\n' :: rest => skipLines fuel rest
    | text => text

/-- Whether a character may stand in a key without quotes. -/
def isBare (c : Char) : Bool :=
  c.isAlphanum || c == '_' || c == '-'

def readKeyPart : Reader (List Char)
  | '"' :: rest => readBasic rest
  | '\'' :: rest => readLiteral rest
  | text =>
    let key := text.takeWhile isBare
    if key.isEmpty then none else some (key, text.dropWhile isBare)

/-- The parts of a key with points between them: all but the last one, and the last one. `fuel`
bounds their number. -/
def readKey : Nat → Reader (List (List Char) × List Char)
  | 0, _ => none
  | fuel + 1, text => do
    let (part, rest) ← readKeyPart (skipBlanks text)
    match skipBlanks rest with
    | '.' :: rest =>
      let ((path, key), rest) ← readKey fuel rest
      return ((part :: path, key), rest)
    | rest => return (([], part), rest)

/-- Whether a character may stand in a word. -/
def isWordChar (c : Char) : Bool :=
  c.isAlphanum || c == '_' || c == '-' || c == '+' || c == '.' || c == ':'

/-- A word that stands for a value. A blank may stand between a date and a time of day. -/
def readWord : Reader Value := fun text =>
  let word := text.takeWhile isWordChar
  let rest := text.dropWhile isWordChar
  let (word, rest) :=
    match takeDate word, rest with
    | some [], ' ' :: time =>
      if time.head?.any Char.isDigit then
        (word ++ ' ' :: time.takeWhile isWordChar, time.dropWhile isWordChar)
      else (word, rest)
    | _, _ => (word, rest)
  (scalar? word).map fun value => (value, rest)

mutual

/-- A value. `fuel` bounds the number of nested readings. -/
def readValue : Nat → Reader Value
  | 0, _ => none
  | _ + 1, [] => none
  | fuel + 1, c :: rest =>
    if c == '"' || c == '\'' then
      (readString (c :: rest)).map fun (chars, rest) => (.text chars, rest)
    else if c == '[' then
      (readElements fuel rest).map fun (elements, rest) => (.list elements, rest)
    else if c == '\x7b' then
      (readEntries fuel [] rest).map fun (entries, rest) => (.table .braces entries, rest)
    else readWord (c :: rest)

/-- The elements of a list up to its closing bracket. -/
def readElements : Nat → Reader (List Value)
  | 0, _ => none
  | fuel + 1, text =>
    match skipLines text.length text with
    | ']' :: rest => some ([], rest)
    | text => do
      let (value, rest) ← readValue fuel text
      match skipLines rest.length rest with
      | ']' :: rest => return ([value], rest)
      | ',' :: rest =>
        let (values, rest) ← readElements fuel rest
        return (value :: values, rest)
      | _ => none

/-- The entries of a table up to its closing brace, added to those before. -/
def readEntries : Nat → Entries → Reader Entries
  | 0, _, _ => none
  | fuel + 1, entries, text =>
    match skipLines text.length text with
    | '\x7d' :: rest => some (entries, rest)
    | text => do
      let ((path, key), rest) ← readKey (text.length + 1) text
      match rest with
      | '=' :: rest =>
        let (value, rest) ← readValue fuel (skipBlanks rest)
        let entries ← entries.assign path key value
        match skipLines rest.length rest with
        | '\x7d' :: rest => return (entries, rest)
        | ',' :: rest => readEntries fuel entries rest
        | _ => none
      | _ => none

end

/-- What stands on a line of a document. -/
inductive Line where
  | header (path : List (List Char)) (key : List Char)
  | elementHeader (path : List (List Char)) (key : List Char)
  | entry (path : List (List Char)) (key : List Char) (value : Value)
  deriving Repr

/-- A line that is not empty, without what follows on it. -/
def readLine : Reader Line
  | '[' :: '[' :: rest => do
    let ((path, key), rest) ← readKey (rest.length + 1) rest
    match rest with
    | ']' :: ']' :: rest => some (.elementHeader path key, rest)
    | _ => none
  | '[' :: rest => do
    let ((path, key), rest) ← readKey (rest.length + 1) rest
    match rest with
    | ']' :: rest => some (.header path key, rest)
    | _ => none
  | text => do
    let ((path, key), rest) ← readKey (text.length + 1) text
    match rest with
    | '=' :: rest =>
      let rest := skipBlanks rest
      let (value, rest) ← readValue (2 * rest.length + 2) rest
      return (.entry path key value, rest)
    | _ => none

/-- The lines of a document. `fuel` bounds their number. -/
def readLines : Nat → List Char → Option (List Line)
  | 0, _ => none
  | fuel + 1, text =>
    match skipLines text.length text with
    | [] => some []
    | text => do
      let (line, rest) ← readLine text
      let rest ← lineEnd? (skipComment rest)
      return line :: (← readLines fuel rest)

/-- A document that is being read: its entries, and the path of the table that was opened last. -/
structure Progress where
  entries : Entries := []
  path : List (List Char) := []
  deriving Repr

def Progress.read (progress : Progress) : Line → Option Progress
  | .header path key =>
    (progress.entries.descend false (Entries.openTable key) path).map fun entries =>
      { entries, path := path ++ [key] }
  | .elementHeader path key =>
    (progress.entries.descend false (Entries.openElement key) path).map fun entries =>
      { entries, path := path ++ [key] }
  | .entry path key value =>
    (progress.entries.descend false (Entries.assign path key value) progress.path).map
      fun entries => { progress with entries }

/-- Characters without the mark that may stand in front of a text. -/
def dropMark : List Char → List Char
  | '\uFEFF' :: rest => rest
  | text => text

def ofDocument? (document : String) : Option Entries := do
  let text := dropMark document.toList
  let lines ← readLines (text.length + 1) text
  let progress ← lines.foldlM Progress.read {}
  return progress.entries

end FileSearch.Toml
