import FileSearch.Shell.Arithmetic

/-!
# Reading scripts

A script is read into a command. What is not in the part of the language that `Shell.Command` has is
not read at all.
-/

set_option autoImplicit false

namespace FileSearch.Shell

namespace Word

/-- Whether a character ends an unquoted word. -/
def ends (c : Char) : Bool :=
  c == ' ' || c == '\t' || c == '\n' || c == ';' || c == '&' || c == '|' || c == '<' || c == '>'
    || c == '(' || c == ')'

/-- Whether a backslash before a character takes its meaning away between double quotes. -/
def isSpecial (c : Char) : Bool :=
  c == '$' || c == '"' || c == '\\' || c.toNat == 96

def quotedChar (c : Char) : Piece where
  content := .text [c]
  quoted := true

/-- What a dollar sign introduces. A dollar sign that introduces nothing stands for itself. -/
def readDollar (quoted : Bool) : Reader Piece
  | '(' :: '(' :: rest =>
    (Arithmetic.read rest).map fun (expression, behind) =>
      (⟨.sum expression (rest.take (rest.length - behind.length - 2)), quoted⟩, behind)
  | '(' :: _ => none
  | text =>
    match readParameter text with
    | some (parameter, rest) => some (⟨.parameter parameter, quoted⟩, rest)
    | none => if text.head? == some '\x7b' then none else some (⟨.text ['$'], quoted⟩, text)

/-- The pieces up to a closing double quote. `fuel` bounds their number. -/
def readQuoted : Nat → Reader Word
  | 0, _ => none
  | _ + 1, [] => none
  | fuel + 1, c :: rest =>
    if c == '"' then some ([], rest)
    else do
      let (piece, rest) ←
        if c == '$' then readDollar true rest
        else match c, rest with
          | '\\', d :: rest =>
            if d == '\n' then some (⟨.text [], true⟩, rest)
            else if isSpecial d then some (quotedChar d, rest)
            else some (⟨.text ['\\', d], true⟩, rest)
          | c, rest => if c.toNat == 96 then none else some (quotedChar c, rest)
      let (pieces, rest) ← readQuoted fuel rest
      return (piece :: pieces, rest)

/-- The pieces of a word. `fuel` bounds their number. -/
def readPieces : Nat → Reader Word
  | 0, _ => none
  | _ + 1, [] => some ([], [])
  | fuel + 1, c :: rest =>
    if ends c then some ([], c :: rest)
    else do
      let (pieces, rest) ←
        if c == '"' then do
          let (pieces, rest) ← readQuoted (rest.length + 1) rest
          some (if pieces.isEmpty then [⟨.text [], true⟩] else pieces, rest)
        else if c == '\'' then
          match rest.dropWhile (· != '\'') with
          | _ :: behind => some ([⟨.text (rest.takeWhile (· != '\'')), true⟩], behind)
          | [] => none
        else if c == '$' then (readDollar false rest).map fun (piece, rest) => ([piece], rest)
        else match c, rest with
          | '\\', '\n' :: rest => some ([], rest)
          | '\\', d :: rest => some ([quotedChar d], rest)
          | c, rest => if c.toNat == 96 then none else some ([⟨.text [c], false⟩], rest)
      let (more, rest) ← readPieces fuel rest
      return (pieces ++ more, rest)

def read : Reader Word := fun text =>
  readPieces (text.length + 1) text

end Word

namespace Command

/-- Characters without blanks, joined lines and a comment in front. -/
def skipBlanks : Chars → Chars
  | ' ' :: rest => skipBlanks rest
  | '\t' :: rest => skipBlanks rest
  | '\\' :: '\n' :: rest => skipBlanks rest
  | '#' :: rest => rest.dropWhile (· != '\n')
  | text => text

/-- Characters without blanks, comments and empty lines in front. `fuel` bounds the lines. -/
def skipLines : Nat → Chars → Chars
  | 0, text => text
  | fuel + 1, text =>
    match skipBlanks text with
    | '\n' :: rest => skipLines fuel rest
    | text => text

/-- The characters behind a reserved word, if a text begins with it. -/
def reserved? (word : String) (text : Chars) : Option Chars :=
  if word.toList.isPrefixOf text then
    let rest := text.drop word.length
    if rest.head?.all Word.ends then some rest else none
  else none

def endsList (text : Chars) : Bool :=
  text.isEmpty || text.head? == some ')'
    || ["then", "elif", "else", "fi", "do", "done", "\x7d"].any fun word =>
      (reserved? word text).isSome

/-- A name, the equals sign behind it and the word that it introduces. -/
def readAssignment : Reader (Chars × Word) := fun text =>
  let name := text.takeWhile isNameChar
  match text.dropWhile isNameChar with
  | '=' :: rest =>
    if name.head?.any beginsName then
      (Word.read rest).map fun (word, rest) => ((name, word), rest)
    else none
  | _ => none

def readRedirection : Reader Redirection := fun text =>
  let digits := text.takeWhile Char.isDigit
  let stream := if digits.isEmpty then 1 else decimal digits
  match text.dropWhile Char.isDigit with
  | '>' :: '&' :: rest =>
    let target := rest.takeWhile Char.isDigit
    if target.isEmpty then none
    else some (⟨stream, .stream (decimal target)⟩, rest.dropWhile Char.isDigit)
  | '>' :: '>' :: rest =>
    (Word.read (skipBlanks rest)).map fun (word, rest) => (⟨stream, .file word true⟩, rest)
  | '>' :: rest =>
    (Word.read (skipBlanks rest)).map fun (word, rest) => (⟨stream, .file word false⟩, rest)
  | _ => none

def redirect (redirections : List Redirection) (command : Command) : Command :=
  if redirections.isEmpty then command else .redirected redirections command

/-- Redirections behind a command. `fuel` bounds their number. -/
def readRedirections : Nat → Reader (List Redirection)
  | 0, text => some ([], text)
  | fuel + 1, text =>
    match readRedirection (skipBlanks text) with
    | some (redirection, rest) => do
      let (more, rest) ← readRedirections fuel rest
      return (redirection :: more, rest)
    | none => some ([], text)

/-- The assignments, words and redirections of a simple command. `fuel` bounds their number. -/
def readSimple (assignments : List (Chars × Word)) (words : List Word)
    (redirections : List Redirection) :
    Nat → Reader (List (Chars × Word) × List Word × List Redirection)
  | 0, _ => none
  | fuel + 1, text =>
    let text := skipBlanks text
    match readRedirection text with
    | some (redirection, rest) =>
      readSimple assignments words (redirections ++ [redirection]) fuel rest
    | none =>
      if text.head?.all Word.ends then some ((assignments, words, redirections), text)
      else match if words.isEmpty then readAssignment text else none with
        | some (assignment, rest) =>
          readSimple (assignments ++ [assignment]) words redirections fuel rest
        | none => do
          let (word, rest) ← Word.read text
          readSimple assignments (words ++ [word]) redirections fuel rest

/-- The words that a loop goes through, up to the end of the line. `fuel` bounds their number. -/
def readItems : Nat → Reader (List Word)
  | 0, _ => none
  | fuel + 1, text =>
    let text := skipBlanks text
    if text.head?.all Word.ends then some ([], text)
    else do
      let (word, rest) ← Word.read text
      let (words, rest) ← readItems fuel rest
      return (word :: words, rest)

/-- The head of a loop over words: the name and the words, which are all arguments where none are
given. -/
def readEach (text : Chars) : Option (Chars × List Word × Chars) := do
  let text := skipBlanks text
  let name := text.takeWhile isNameChar
  if !name.head?.any beginsName then none
  let rest := text.dropWhile isNameChar
  let rest := skipLines rest.length rest
  match reserved? "in" rest with
  | none => return (name, [[⟨.parameter .arguments, true⟩]], rest)
  | some rest =>
    let (items, rest) ← readItems (rest.length + 1) rest
    return (name, items, rest)

/-- Characters without a semicolon and the empty lines around it in front. -/
def skipSeparator (text : Chars) : Chars :=
  match skipBlanks text with
  | ';' :: rest => skipLines rest.length rest
  | text => skipLines text.length text

/-- The characters behind a reserved word that has to follow. -/
def expect (word : String) (text : Chars) : Option Chars :=
  reserved? word (skipLines text.length text)

mutual

/-- Commands one after another, up to what ends their list. `lines` is the number of line ends in
the whole script, and `fuel` bounds the number of nested readings. -/
def readList (lines : Nat) : Nat → Reader Command
  | 0, _ => none
  | fuel + 1, text =>
    let text := skipLines text.length text
    if endsList text then some (.nothing, text)
    else do
      let (first, rest) ← readChain lines fuel text
      match skipBlanks rest with
      | ';' :: rest =>
        let (more, rest) ← readList lines fuel rest
        return (.sequence first more, rest)
      | '\n' :: rest =>
        let (more, rest) ← readList lines fuel rest
        return (.sequence first more, rest)
      | rest => if endsList rest then return (first, rest) else none

def readChain (lines : Nat) : Nat → Reader Command
  | 0, _ => none
  | fuel + 1, text => do
    let (first, rest) ← readCommand lines fuel (skipBlanks text)
    readChainTail lines fuel first (skipBlanks rest)

/-- What depends on the command in front. -/
def readChainTail (lines : Nat) : Nat → Command → Reader Command
  | 0, _, _ => none
  | fuel + 1, first, text =>
    match text with
    | '&' :: '&' :: rest => do
      let (second, rest) ← readCommand lines fuel (skipLines rest.length rest)
      readChainTail lines fuel (.both first second) (skipBlanks rest)
    | '|' :: '|' :: rest => do
      let (second, rest) ← readCommand lines fuel (skipLines rest.length rest)
      readChainTail lines fuel (.either first second) (skipBlanks rest)
    | text => some (first, text)

/-- The branches behind a condition, up to the end of the choice. -/
def readBranches (lines : Nat) : Nat → Reader Command
  | 0, _ => none
  | fuel + 1, text => do
    let (condition, rest) ← readList lines fuel text
    let (yes, rest) ← readList lines fuel (← expect "then" rest)
    if let some rest := expect "elif" rest then
      let (no, rest) ← readBranches lines fuel rest
      return (.choice condition yes no, rest)
    else if let some rest := expect "else" rest then
      let (no, rest) ← readList lines fuel rest
      return (.choice condition yes no, ← expect "fi" rest)
    else return (.choice condition yes .nothing, ← expect "fi" rest)

def readBody (lines : Nat) : Nat → Reader Command
  | 0, _ => none
  | fuel + 1, text => do
    let (body, rest) ← readList lines fuel (← expect "do" text)
    return (body, ← expect "done" rest)

/-- A command that is not put together from others with operators. -/
def readCommand (lines : Nat) : Nat → Reader Command
  | 0, _ => none
  | fuel + 1, text => do
    let line := lines - text.count '\n' + 1
    if let some rest := reserved? "!" text then
      let (command, rest) ← readCommand lines fuel (skipBlanks rest)
      return (.negated command, rest)
    let compound : Option (Command × Chars) ←
      if let '(' :: rest := text then do
        let (inner, rest) ← readList lines fuel rest
        match rest with
        | ')' :: rest => some (some (.separate inner, rest))
        | _ => none
      else if let some rest := reserved? "\x7b" text then do
        let (inner, rest) ← readList lines fuel rest
        some (some (inner, ← expect "\x7d" rest))
      else if let some rest := reserved? "if" text then
        (readBranches lines fuel rest).map some
      else if let some rest := reserved? "while" text then do
        let (condition, rest) ← readList lines fuel rest
        let (body, rest) ← readBody lines fuel rest
        some (some (.loop true condition body, rest))
      else if let some rest := reserved? "until" text then do
        let (condition, rest) ← readList lines fuel rest
        let (body, rest) ← readBody lines fuel rest
        some (some (.loop false condition body, rest))
      else if let some rest := reserved? "for" text then do
        let (name, items, rest) ← readEach rest
        let (body, rest) ← readBody lines fuel (skipSeparator rest)
        some (some (.each line name items body, rest))
      else some none
    match compound with
    | some (command, rest) =>
      let (redirections, rest) ← readRedirections rest.length rest
      return (redirect redirections command, rest)
    | none =>
      let ((assignments, words, redirections), rest) ← readSimple [] [] [] (text.length + 1) text
      if assignments.isEmpty && words.isEmpty && redirections.isEmpty then none
      return (redirect redirections (.simple line assignments words), rest)

end

def ofScript? (script : Chars) : Option Command :=
  match readList (script.count '\n') (4 * script.length + 4) script with
  | some (command, []) => some command
  | _ => none

end Command

end FileSearch.Shell
