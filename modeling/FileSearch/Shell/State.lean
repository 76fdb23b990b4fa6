import FileSearch.Files.Tree
import FileSearch.Shell.Arithmetic
import FileSearch.Shell.Printing

/-!
# The state of a running script

Variables, arguments and what has been printed so far; what words expand to; where streams go.
-/

set_option autoImplicit false

namespace FileSearch.Shell

/-- Where a stream goes. -/
inductive Outlet where
  | output
  | errors
  | nowhere
  | file (path : Path)
  deriving DecidableEq, Repr

/-- Where the two streams of a command go. -/
structure Streams where
  output : Outlet := .output
  errors : Outlet := .errors
  deriving DecidableEq, Repr

/-- How a script goes on after a command. -/
inductive Flow where
  | next
  /-- The innermost loop begins its next round. -/
  | again
  /-- The innermost loop is left. -/
  | leave
  | exit
  | killed (signal : UInt8)
  /-- The process that runs the script has been told to stop. -/
  | stopped
  deriving DecidableEq, Repr

/-- The state of a running script. What has been printed last stands first. -/
structure State where
  name : Chars
  arguments : List Chars
  bindings : List (Chars × Chars) := []
  status : UInt8 := 0
  output : List Bytes := []
  errors : List Bytes := []
  tree : FileTree

namespace State

/-- The number by which a script knows its own process. -/
def process : Chars := ['2']

/-- The number by which a script knows the process that runs it. -/
def parentProcess : Chars := ['1']

/-- A text that goes to an outlet. A file that cannot be written to is left as it is. -/
def emit (state : State) (outlet : Outlet) (chars : Chars) : State :=
  if chars.isEmpty then state
  else match outlet with
    | .output => { state with output := bytesOf chars :: state.output }
    | .errors => { state with errors := bytesOf chars :: state.errors }
    | .nowhere => state
    | .file path =>
      let before := (state.tree.read path).toOption.getD []
      match state.tree.write path (before ++ bytesOf chars) with
      | .ok tree => { state with tree }
      | .error _ => state

def ended (state : State) (status : UInt8) : State :=
  { state with status }

/-- A message about a line of the script, with a status. -/
def complain (state : State) (streams : Streams) (line : Nat) (message : Chars)
    (status : UInt8) : State :=
  (state.emit streams.errors
    (state.name ++ ": ".toList ++ (toString line).toList ++ ": ".toList ++ message ++ ['\n'])).ended
      status

def assign (state : State) (name value : Chars) : State :=
  { state with bindings := (name, value) :: state.bindings.filter fun entry => entry.1 != name }

def value (state : State) : Parameter → Chars
  | .variable name => (state.bindings.lookup name).getD []
  | .argument 0 => state.name
  | .argument (index + 1) => (state.arguments[index]?).getD []
  | .arguments => spaced state.arguments
  | .joined => spaced state.arguments
  | .argumentCount => (toString state.arguments.length).toList
  | .status => (toString state.status.toNat).toList
  | .process => process
  | .parentProcess => parentProcess

/-- The value of a parameter as an integer. An empty value counts as zero. -/
def integer (state : State) (parameter : Parameter) : Except Arithmetic.Fault Int64 :=
  let chars := state.value parameter
  if chars.isEmpty then .ok 0
  else (testNumber? chars).elim (.error (.notANumber chars)) fun value => .ok (.ofInt value)

end State

/-- Words under expansion: the finished ones, the last one first, and the one that is not finished,
if any. -/
structure Fields where
  finished : List Chars := []
  current : Option Chars := none
  deriving Repr

namespace Fields

/-- Characters that belong to the current word. -/
def add (fields : Fields) (chars : Chars) : Fields :=
  { fields with current := some (fields.current.getD [] ++ chars) }

/-- The end of the current word. -/
def finish (fields : Fields) : Fields where
  finished := fields.current.toList ++ fields.finished

/-- Whether a character separates words in the value of a parameter. -/
def separates (c : Char) : Bool :=
  c == ' ' || c == '\t' || c == '\n'

/-- Characters that are cut into words at blanks. -/
def split (fields : Fields) (chars : Chars) : Fields :=
  chars.foldl (fun fields c => if separates c then fields.finish else fields.add [c]) fields

/-- Texts that begin words of their own, except the first one. -/
def spread (fields : Fields) (put : Fields → Chars → Fields) : List Chars → Fields
  | [] => fields
  | first :: rest => rest.foldl (fun fields chars => put fields.finish chars) (put fields first)

def toList (fields : Fields) : List Chars :=
  fields.finish.finished.reverse

end Fields

namespace State

/-- Why the words of a command cannot be expanded. -/
inductive Fault where
  /-- An expression has no value. -/
  | noValue (cause : Arithmetic.Fault) (text : Chars)
  deriving Repr

def Fault.message : Fault → Chars
  | noValue .divisionByZero text =>
    "arithmetic expression: division by zero: \"".toList ++ text ++ ['"']
  | noValue (.notANumber chars) _ => "Illegal number: ".toList ++ chars

/-- Words under expansion after a piece. -/
def expandPiece (state : State) (fields : Fields) (piece : Piece) : Except Fault Fields :=
  let put (fields : Fields) (chars : Chars) : Fields :=
    if piece.quoted then fields.add chars else fields.split chars
  match piece.content with
  | .text chars => .ok (fields.add chars)
  | .parameter .arguments => .ok (fields.spread put state.arguments)
  | .parameter .joined =>
    .ok (if piece.quoted then fields.add (spaced state.arguments)
      else fields.spread put state.arguments)
  | .parameter parameter => .ok (put fields (state.value parameter))
  | .sum expression text =>
    match expression.value state.integer with
    | .ok value => .ok (put fields (toString value.toInt).toList)
    | .error cause => .error (.noValue cause text)

def expand (state : State) (word : Word) : Except Fault (List Chars) :=
  (word.foldlM state.expandPiece {}).map Fields.toList

def expandAll (state : State) (words : List Word) : Except Fault (List Chars) :=
  (words.mapM state.expand).map List.flatten

def expandText (state : State) (word : Word) : Except Fault Chars :=
  (state.expand (word.map fun piece => { piece with quoted := true })).map spaced

def discarding : Path := Path.ofText "/dev/null"

/-- The outlet for a file. A file that is not appended to is emptied. -/
def openFile (state : State) (path : Path) (append : Bool) : Option (Outlet × State) :=
  if path == discarding then some (.nowhere, state)
  else
    let before := if append then (state.tree.read path).toOption.getD [] else []
    match state.tree.write path before with
    | .ok tree => some (.file path, { state with tree })
    | .error _ => none

/-- Streams with one of them redirected, unless there is nowhere to redirect it to. -/
def redirect (state : State) (streams : Streams) (redirection : Redirection) :
    Option (Streams × State) := do
  let (outlet, state) ←
    match redirection.target with
    | .stream 1 => some (streams.output, state)
    | .stream 2 => some (streams.errors, state)
    | .stream _ => none
    | .file word append => do
      let name ← (state.expandText word).toOption
      state.openFile (bytesOf name) append
  match redirection.stream with
  | 1 => return ({ streams with output := outlet }, state)
  | 2 => return ({ streams with errors := outlet }, state)
  | _ => return (streams, state)

end State

end FileSearch.Shell
