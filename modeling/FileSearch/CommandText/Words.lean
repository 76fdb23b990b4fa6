import FileSearch.Text.Blank

/-!
# The words of a command field

A command that a search runs for each match is entered as one line of text. Blanks separate its
words outside quotes, a section in single or double quotes is a word of its own, and a backslash
outside single quotes makes the next character literal.
-/

set_option autoImplicit false

namespace FileSearch.CommandText

/-- Where a character of a command field stands. -/
inductive Quoting where
  | bare
  | single
  | double
  deriving DecidableEq, Repr

/-- The mark that opens and closes quoted sections of a kind. -/
def Quoting.mark? : Quoting → Option Char
  | .bare => none
  | .single => some '\''
  | .double => some '"'

/-- The kind of section that a character opens outside quotes. -/
def Quoting.openedBy (c : Char) : Option Quoting :=
  if c = '\'' then some .single else if c = '"' then some .double else none

/-- A word so far, in reverse, as a list of no word or one: an empty one outside quotes is none. -/
def pendingWord (word : List Char) : List (List Char) :=
  if word.isEmpty then [] else [word.reverse]

/-- The words of the rest of a command field, given the kind of section it continues and the
characters of the word so far, in reverse. -/
def wordsFrom (quoting : Quoting) (word : List Char) : List Char → List (List Char)
  | [] => pendingWord word
  | '\\' :: rest =>
    if quoting = .single then wordsFrom quoting ('\\' :: word) rest
    else match rest with
      | [] => pendingWord ('\\' :: word)
      | c :: rest => wordsFrom quoting (c :: word) rest
  | c :: rest =>
    if quoting.mark? = some c then word.reverse :: wordsFrom .bare [] rest
    else if quoting = .bare then
      match Quoting.openedBy c with
      | some opened => pendingWord word ++ wordsFrom opened [] rest
      | none =>
        if Text.isBlank c then pendingWord word ++ wordsFrom .bare [] rest
        else wordsFrom .bare (c :: word) rest
    else wordsFrom quoting (c :: word) rest

def words (command : String) : List String :=
  (wordsFrom .bare [] command.toList).map String.ofList

end FileSearch.CommandText
