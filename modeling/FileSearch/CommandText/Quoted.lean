/-!
# Argument vectors as shell text

An argument vector is shown as one line that a POSIX shell splits back into the same arguments.
-/

set_option autoImplicit false

namespace FileSearch.CommandText

/-- Whether a character stands for itself outside quotes in every position of a word. -/
def isPlain (c : Char) : Bool :=
  c.isAlphanum || "-_./=:,+@%".toList.contains c

/-- What a character is written as between single quotes. A single quote closes the quotes, stands
escaped, and opens them again. -/
def quotedChar (c : Char) : List Char :=
  if c = '\'' then ['\'', '\\', '\'', '\''] else [c]

/-- A word of a command line: as it is when all its characters are plain, else in single quotes. -/
def quoteChars (argument : List Char) : List Char :=
  if !argument.isEmpty && argument.all isPlain then argument
  else '\'' :: (argument.flatMap quotedChar ++ ['\''])

/-- The shell word that stands for an argument. -/
def quote (argument : String) : String :=
  String.ofList (quoteChars argument.toList)

/-- The command line that stands for an argument vector. -/
def render (arguments : List String) : String :=
  " ".intercalate (arguments.map quote)

end FileSearch.CommandText
