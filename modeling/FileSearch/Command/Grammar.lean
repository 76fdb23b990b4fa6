import FileSearch.Command.Expression

/-!
# Reading search expressions

The words of a search command, read back. A word that names a primary takes its operands from the
words behind it, whatever they are; the words that remain are the signs that join primaries. "Not"
binds tightest, then "and", which needs no sign, then "or", then the comma.
-/

set_option autoImplicit false

namespace FileSearch.Command

/-- What is asked about one file. -/
inductive Expression where
  | primary (primary : Primary)
  | negation (inner : Expression)
  | conjunction (first second : Expression)
  | disjunction (first second : Expression)
  /-- Both parts in turn. The second one decides. -/
  | sequence (first second : Expression)
  deriving DecidableEq, Repr

/-- Whether an expression holds of a file, and the primaries that are reached, in order. `holds`
says of each primary whether it does. A part that cannot change the outcome is not reached. -/
def Expression.visit (holds : Primary → Bool) : Expression → Bool × List Primary
  | primary single => (holds single, [single])
  | negation inner =>
    let (truth, reached) := inner.visit holds
    (!truth, reached)
  | conjunction first second =>
    let (truth, reached) := first.visit holds
    if truth then (second.visit holds).map id (reached ++ ·) else (false, reached)
  | disjunction first second =>
    let (truth, reached) := first.visit holds
    if truth then (true, reached) else (second.visit holds).map id (reached ++ ·)
  | sequence first second =>
    (second.visit holds).map id ((first.visit holds).2 ++ ·)

/-- The signs that join primaries. -/
inductive Sign where
  | opening
  | closing
  | not
  | and
  | or
  | comma
  deriving DecidableEq, Repr

def Sign.ofWord? : String → Option Sign
  | "(" => some opening
  | ")" => some closing
  | "!" | "-not" => some not
  | "-a" | "-and" => some and
  | "-o" | "-or" => some or
  | "," => some comma
  | _ => none

/-- The operands that a primary takes. -/
inductive Operands where
  | fixed (count : Nat)
  /-- A command of any length, up to the word that ends it. -/
  | clause
  deriving DecidableEq, Repr

namespace Operands

/-- The primaries without operands. -/
def bareWords : List String := [
  "-P", "-H", "-L", "-d", "-daystart", "-delete", "-depth", "-empty", "-executable", "-false",
  "-follow", "-ignore_readdir_race", "-ls", "-mount", "-nogroup", "-noignore_readdir_race",
  "-noleaf", "-nouser", "-nowarn", "-print", "-print0", "-prune", "-quit", "-readable", "-true",
  "-warn", "-writable", "-xdev"]

def unaryWords : List String := [
  "-amin", "-anewer", "-atime", "-cmin", "-cnewer", "-ctime", "-files-from", "-files0-from",
  "-fls", "-fprint", "-fprint0", "-fstype", "-gid", "-group", "-ilname", "-iname", "-inum",
  "-ipath", "-iregex", "-iwholename", "-links", "-lname", "-maxdepth", "-mindepth", "-mmin",
  "-mtime", "-name", "-newer", "-newerat", "-newerct", "-newermt", "-path", "-perm", "-printf",
  "-regex", "-regextype", "-samefile", "-size", "-type", "-uid", "-used", "-user", "-wholename",
  "-xtype"]

/-- The primaries that run a command. -/
def clauseWords : List String := ["-exec", "-execdir", "-ok", "-okdir"]

/-- The words of actions: primaries that do something where tests only ask. -/
def actionWords : List String := [
  "-delete", "-exec", "-execdir", "-fls", "-fprint", "-fprint0", "-fprintf", "-ls", "-ok",
  "-okdir", "-print", "-print0", "-printf", "-prune", "-quit"]

/-- The operands of the primary that a word names. -/
def ofWord? (word : String) : Option Operands :=
  if bareWords.contains word then some (fixed 0)
  else if unaryWords.contains word then some (fixed 1)
  else if word == "-fprintf" then some (fixed 2)
  else if clauseWords.contains word then some clause
  else none

end Operands

def endsClause (before : Option String) (word : String) : Bool :=
  word == ";" || word == "+" && before == some "{}"

/-- A sign or a primary. -/
inductive Lexeme where
  | sign (sign : Sign)
  | primary (primary : Primary)
  deriving DecidableEq, Repr

/-- What the words so far leave open: nothing, or a primary, with its operands so far in reverse. -/
inductive Unfinished where
  | nothing
  /-- The primary lacks one operand more than `missing`. -/
  | fixed (word : String) (operands : List String) (missing : Nat)
  | clause (word : String) (operands : List String)
  deriving DecidableEq, Repr

namespace Lexeme

/-- A word that is not an operand: the sign or the primary that it is by itself, or else what it
leaves open. -/
def ofWord? (word : String) : Option (List Lexeme × Unfinished) :=
  match Sign.ofWord? word, Operands.ofWord? word with
  | some joint, _ => some ([.sign joint], .nothing)
  | none, some (.fixed 0) => some ([.primary (.bare word)], .nothing)
  | none, some (.fixed (missing + 1)) => some ([], .fixed word [] missing)
  | none, some .clause => some ([], .clause word [])
  | none, none => none

/-- The effect of a word: the lexemes that it completes, and what is open behind it. -/
def step? (unfinished : Unfinished) (word : String) : Option (List Lexeme × Unfinished) :=
  match unfinished with
  | .nothing => ofWord? word
  | .fixed name operands 0 => some ([.primary ⟨name, (word :: operands).reverse⟩], .nothing)
  | .fixed name operands (missing + 1) => some ([], .fixed name (word :: operands) missing)
  | .clause name operands =>
    if endsClause operands.head? word then
      some ([.primary ⟨name, (word :: operands).reverse⟩], .nothing)
    else some ([], .clause name (word :: operands))

/-- The lexemes of words, behind words that leave something open. No primary may be without an
operand at the end. -/
def ofWordsFrom? (unfinished : Unfinished) : List String → Option (List Lexeme)
  | [] => if unfinished = .nothing then some [] else none
  | word :: rest => do
    let (lexemes, unfinished) ← step? unfinished word
    return lexemes ++ (← ofWordsFrom? unfinished rest)

def ofWords? (words : List String) : Option (List Lexeme) :=
  ofWordsFrom? .nothing words

end Lexeme

namespace Unfinished

/-- What is open behind a word. A word that names nothing leaves nothing open. -/
def behind (unfinished : Unfinished) (word : String) : Unfinished :=
  match Lexeme.step? unfinished word with
  | some (_, next) => next
  | none => .nothing

/-- The words that stand where a sign or a primary begins, and so are no operands. -/
def heads : Unfinished → List String → List String
  | _, [] => []
  | unfinished, word :: rest =>
    (if unfinished = .nothing then [word] else []) ++ heads (unfinished.behind word) rest

end Unfinished

/-- An expression up to some point in it, inside one pair of parentheses: the parts to the left of
the last comma and of the last "or", the primaries since then, and the "not" signs in front of what
follows. -/
structure Front where
  sequence? : Option Expression := none
  disjunction? : Option Expression := none
  conjunction? : Option Expression := none
  negations : Nat := 0
  /-- Whether something has to follow. -/
  awaits : Bool := true
  deriving DecidableEq, Repr

namespace Front

def joined (join : Expression → Expression → Expression) (first? : Option Expression)
    (second : Expression) : Expression :=
  match first? with
  | some first => join first second
  | none => second

/-- With the next part, to which the "not" signs in front of it belong. -/
def add (before : Front) (part : Expression) : Front :=
  let negated := before.negations.repeat Expression.negation part
  { before with
    conjunction? := some (joined .conjunction before.conjunction? negated)
    negations := 0
    awaits := false }

/-- The expression since the last comma, if nothing has to follow. -/
def disjunctionSoFar? (before : Front) : Option Expression :=
  if before.awaits then none
  else before.conjunction?.map (joined .disjunction before.disjunction?)

/-- The whole expression, if nothing has to follow. -/
def finish? (before : Front) : Option Expression :=
  before.disjunctionSoFar?.map (joined .sequence before.sequence?)

end Front

namespace Expression

/-- The effect of a lexeme on the expressions that are open, the innermost one first. -/
def step? (innermost : Front) (outer : List Front) : Lexeme → Option (Front × List Front)
  | .primary single => some (innermost.add (.primary single), outer)
  | .sign .opening => some ({}, innermost :: outer)
  | .sign .closing =>
    match innermost.finish?, outer with
    | some inner, next :: outer => some (next.add inner, outer)
    | _, _ => none
  | .sign .not =>
    some ({ innermost with negations := innermost.negations + 1, awaits := true }, outer)
  | .sign .and => if innermost.awaits then none else some ({ innermost with awaits := true }, outer)
  | .sign .or =>
    innermost.disjunctionSoFar?.map fun disjunction =>
      ({ sequence? := innermost.sequence?, disjunction? := some disjunction }, outer)
  | .sign .comma =>
    innermost.finish?.map fun sequence => ({ sequence? := some sequence }, outer)

def ofLexemesFrom? (innermost : Front) (outer : List Front) : List Lexeme → Option Expression
  | [] => if outer.isEmpty then innermost.finish? else none
  | lexeme :: rest => do
    let (innermost, outer) ← step? innermost outer lexeme
    ofLexemesFrom? innermost outer rest

def ofWords? (words : List String) : Option Expression := do
  ofLexemesFrom? {} [] (← Lexeme.ofWords? words)

/-- The expression of words with a unit in their midst, which counts as one primary whatever its
own words say. -/
def ofWordsAround? (front : List String) (unit : Primary) (back : List String) :
    Option Expression := do
  ofLexemesFrom? {} [] ((← Lexeme.ofWords? front) ++ .primary unit :: (← Lexeme.ofWords? back))

end Expression

/-- Whether a word behind the program of a command is no start location any more. -/
def beginsExpression (word : String) : Bool :=
  word.startsWith "-" || ["(", ")", "!", ","].contains word

/-- The words of an argument vector behind its program and its start locations. -/
def behindStart (arguments : List String) : List String :=
  (arguments.drop 1).dropWhile fun word => !beginsExpression word

end FileSearch.Command
