import FileSearch.Json.Text

/-!
# Writing JSON documents

A value is written on one line, or with one element or member on each line and an indentation of
two spaces for each level.
-/

set_option autoImplicit false

namespace FileSearch.Json

inductive Value where
  | null
  | boolean (value : Bool)
  | integer (value : Int)
  | text (value : String)
  | list (elements : List Value)
  | object (members : List (String × Value))

/-- Whether a document takes one line or one line for each of its parts. -/
inductive Layout where
  | compact
  | pretty
  deriving DecidableEq, Repr

/-- A line end and the indentation of a level, in the layout that has them. -/
def Layout.line : Layout → Nat → List Char
  | .compact, _ => []
  | .pretty, level => '\n' :: List.replicate (2 * level) ' '

/-- What stands between a key and its value. -/
def Layout.colon : Layout → List Char
  | .compact => [':']
  | .pretty => [':', ' ']

/-- A value that is neither a list nor an object. -/
def writeWord (word : String) : List Char :=
  word.toList

mutual

def Value.write (layout : Layout) (level : Nat) : Value → List Char
  | .null => writeWord "null"
  | .boolean value => writeWord (if value then "true" else "false")
  | .integer value => writeWord (toString value)
  | .text value => writeText value
  | .list [] => ['[', ']']
  | .list (first :: rest) =>
    '[' :: (layout.line (level + 1) ++ first.write layout (level + 1)
      ++ writeElements layout (level + 1) rest ++ layout.line level ++ [']'])
  | .object [] => ['{', '}']
  | .object ((key, value) :: rest) =>
    '{' :: (layout.line (level + 1) ++ writeText key ++ layout.colon
      ++ value.write layout (level + 1) ++ writeMembers layout (level + 1) rest
      ++ layout.line level ++ ['}'])

def writeElements (layout : Layout) (level : Nat) : List Value → List Char
  | [] => []
  | value :: rest =>
    ',' :: (layout.line level ++ value.write layout level ++ writeElements layout level rest)

def writeMembers (layout : Layout) (level : Nat) : List (String × Value) → List Char
  | [] => []
  | (key, value) :: rest =>
    ',' :: (layout.line level ++ writeText key ++ layout.colon ++ value.write layout level
      ++ writeMembers layout level rest)

end

def Value.document (layout : Layout) (value : Value) : String :=
  String.ofList (value.write layout 0)

end FileSearch.Json
