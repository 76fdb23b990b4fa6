import FileSearch.CommandLine.Options
import FileSearch.Report.Format

/-!
# Invocations

What the arguments of the program ask for: to run or show a search, to look after saved
specifications, or to look after the configuration.
-/

set_option autoImplicit false

namespace FileSearch.CommandLine

/-- Which specification a command is about, and what takes the place of parts of it. -/
structure Source where
  /-- The name or slug of a saved specification. -/
  name? : Option String := none
  /-- A file with a specification. -/
  file? : Option String := none
  start? : Option String := none
  text? : Option String := none
  program? : Option String := none
  deriving DecidableEq, Repr

inductive Task where
  /-- Carries out a search. -/
  | run (source : Source) (withoutActions capture withoutFilter : Bool)
  /-- Shows the command of a search. -/
  | compile (source : Source) (withoutActions : Bool)
  | listSaved
  | showSaved (name : String)
  | importSaved (file : String) (name? : Option String)
  | exportSaved (name : String) (output? : Option String)
  | removeSaved (name : String)
  /-- Creates the file with the configuration, in place of another one if that is asked for. -/
  | createConfig (force : Bool)
  | showConfig
  | showConfigPath
  deriving DecidableEq, Repr

structure Invocation where
  format? : Option Format := none
  verbose : Bool := false
  task : Task
  deriving DecidableEq, Repr

def programName : String := "ckfind"

def version : String := "0.2.0"

/-- The options of every level. -/
def commonSwitches : List Switch := [
  { long := "format", short? := some 'f', hasValue := true
    accepts := fun value => (Format.ofName? value).isSome },
  { long := "verbose", short? := some 'v' }]

/-- Whether a value is a path: it is not empty. -/
def acceptsPath (value : String) : Bool :=
  !value.isEmpty

/-- The options that choose a specification. -/
def sourceSwitches : List Switch := [
  { long := "file", hasValue := true, accepts := acceptsPath },
  { long := "start", short? := some 's', hasValue := true },
  { long := "text", short? := some 't', hasValue := true },
  { long := "program", hasValue := true },
  { long := "no-actions" }]

def levelOf (path : List String) (switches : List Switch) (operands : Nat)
    (commands : List String) : Level where
  name := "-".intercalate (programName :: path)
  switches := commonSwitches ++ switches
  commands := commands
  operands := operands

/-- The specification that options choose. A name and a file exclude each other. -/
def Source.ofGiven (given : Given) : Except Refusal Source :=
  let source : Source := {
    name? := given.operands.head?
    file? := given.value? "file"
    start? := given.value? "start"
    text? := given.value? "text"
    program? := given.value? "program" }
  if source.name?.isSome && source.file?.isSome then .error .usage else .ok source

def Given.operand (given : Given) : Except Refusal String :=
  match given.operands with
  | [operand] => .ok operand
  | _ => .error .usage

/-- The level of a command without further commands, and the task that its arguments ask for. -/
structure Leaf where
  level : Level
  task : Given → Except Refusal Task

namespace Leaf

def run : Leaf where
  level := levelOf ["run"]
    (sourceSwitches ++ [{ long := "capture", short? := some 'c' }, { long := "no-content-filter" }])
    1 []
  task given := (Source.ofGiven given).map fun source =>
    .run source (given.has "no-actions") (given.has "capture") (given.has "no-content-filter")

def compile : Leaf where
  level := levelOf ["compile"] sourceSwitches 1 []
  task given := (Source.ofGiven given).map fun source =>
    .compile source (given.has "no-actions")

/-- A command without arguments of its own. -/
def plain (path : List String) (task : Task) : Leaf where
  level := levelOf path [] 0 []
  task _ := .ok task

/-- A command with an operand and at most one option. -/
def operandLeaf (path : List String) (switches : List Switch) (accepts : String → Bool)
    (task : Given → String → Task) : Leaf where
  level := levelOf path switches 1 []
  task given :=
    match given.operand with
    | .ok operand => if accepts operand then .ok (task given operand) else .error .usage
    | .error refusal => .error refusal

/-- The commands that look after saved specifications. -/
def saved : List (String × Leaf) := [
  ("list", plain ["specs", "list"] .listSaved),
  ("show", operandLeaf ["specs", "show"] [] (fun _ => true) fun _ => .showSaved),
  ("import", operandLeaf ["specs", "import"]
    [{ long := "name", short? := some 'n', hasValue := true }]
    acceptsPath fun given file => .importSaved file (given.value? "name")),
  ("export", operandLeaf ["specs", "export"]
    [{ long := "output", short? := some 'o', hasValue := true, accepts := acceptsPath }]
    (fun _ => true) fun given name => .exportSaved name (given.value? "output")),
  ("remove", operandLeaf ["specs", "remove"] [] (fun _ => true) fun _ => .removeSaved)]

/-- The commands that look after the configuration. -/
def config : List (String × Leaf) := [
  ("init", { level := levelOf ["config", "init"] [{ long := "force" }] 0 []
             task := fun given => .ok (.createConfig (given.has "force")) }),
  ("show", plain ["config", "show"] .showConfig),
  ("path", plain ["config", "path"] .showConfigPath)]

end Leaf

namespace Invocation

/-- An invocation with what is given on a level above. What is given further down counts more. -/
def above (given : Given) (invocation : Invocation) : Invocation where
  format? := invocation.format?.or ((given.value? "format").bind Format.ofName?)
  verbose := invocation.verbose || given.has "verbose"
  task := invocation.task

/-- The invocation that the arguments of a command without further commands ask for. -/
def ofLeaf (leaf : Leaf) (arguments : List String) : Except Refusal Invocation := do
  let (given, _) ← leaf.level.read {} arguments
  let task ← leaf.task given
  return above given { task }

/-- The invocation that the arguments of a command with further commands ask for. -/
def ofGroup (name : String) (leaves : List (String × Leaf)) (arguments : List String) :
    Except Refusal Invocation := do
  let (given, next?) ← (levelOf [name] [] 0 (leaves.map Prod.fst)).read {} arguments
  match next? with
  | none => throw .usage
  | some (command, rest) =>
    match leaves.lookup command with
    | some leaf => return above given (← ofLeaf leaf rest)
    | none => throw .usage

/-- The invocation that the arguments of the program ask for. -/
def ofArguments (arguments : List String) : Except Refusal Invocation := do
  let (given, next?) ←
    (levelOf [] [] 0 ["run", "compile", "specs", "config"]).read {} arguments
  match next? with
  | some ("run", rest) => return above given (← ofLeaf .run rest)
  | some ("compile", rest) => return above given (← ofLeaf .compile rest)
  | some ("specs", rest) => return above given (← ofGroup "specs" Leaf.saved rest)
  | some ("config", rest) => return above given (← ofGroup "config" Leaf.config rest)
  | _ => throw .usage

end Invocation

end FileSearch.CommandLine
