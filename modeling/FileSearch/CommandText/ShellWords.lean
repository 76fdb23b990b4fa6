import FileSearch.CommandText.Words

/-!
# The words of a shell command line

How a POSIX shell cuts a line into words. Only quoting is looked at: expansions and operators are
not. Blanks and line ends outside quotes separate words, and parts that touch each other are one
word, however they are quoted.
-/

set_option autoImplicit false

namespace FileSearch.CommandText

/-- Whether a character outside quotes separates words. -/
def separatesWords (c : Char) : Bool :=
  c == ' ' || c == '\t' || c == '\n'

/-- Whether a backslash in double quotes takes the special meaning of a character away. Behind it,
any other character keeps the backslash. -/
def escapedInDouble (c : Char) : Bool :=
  c == '$' || c == '\x60' || c == '"' || c == '\\'

/-- A word so far, in reverse, with one more character. Between two words there is none yet. -/
def extendWord (word? : Option (List Char)) (c : Char) : Option (List Char) :=
  some (c :: word?.getD [])

/-- The words of the rest of a line, given the kind of quotes it begins in and the word so far. A
line that ends in quotes or in a backslash is not complete. A line end behind a backslash joins two
lines, except in single quotes. -/
def shellWordsFrom (quoting : Quoting) (word? : Option (List Char)) :
    List Char → Option (List (List Char))
  | [] => if quoting = .bare then some (word?.toList.map List.reverse) else none
  | '\\' :: rest =>
    match quoting, rest with
    | .single, rest => shellWordsFrom .single (extendWord word? '\\') rest
    | _, [] => none
    | _, '\n' :: rest => shellWordsFrom quoting word? rest
    | .bare, c :: rest => shellWordsFrom .bare (extendWord word? c) rest
    | .double, c :: rest =>
      let word? := if escapedInDouble c then word? else extendWord word? '\\'
      shellWordsFrom .double (extendWord word? c) rest
  | c :: rest =>
    if quoting.mark? = some c then shellWordsFrom .bare word? rest
    else if quoting = .bare then
      match Quoting.openedBy c with
      | some opened => shellWordsFrom opened (some (word?.getD [])) rest
      | none =>
        if separatesWords c then
          (shellWordsFrom .bare none rest).map (word?.toList.map List.reverse ++ ·)
        else shellWordsFrom .bare (extendWord word? c) rest
    else shellWordsFrom quoting (extendWord word? c) rest

def shellWords? (line : String) : Option (List String) :=
  (shellWordsFrom .bare none line.toList).map fun words => words.map String.ofList

end FileSearch.CommandText
