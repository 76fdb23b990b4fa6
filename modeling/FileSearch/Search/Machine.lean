import FileSearch.Shell.Evaluation

/-!
# Programs of a machine

The programs that commands can name: the shell, some small programs beside it, and executable files
that say which program runs them.
-/

set_option autoImplicit false

namespace FileSearch.Machine

open Shell (Chars charsOf bytesOf)

abbrev Program := List Chars → FileTree → ProcessRun × FileTree

/-- A program that prints a text and ends with a status. -/
def printing (chars : Chars) (status : UInt8) (tree : FileTree) : ProcessRun × FileTree :=
  ({ output := [bytesOf chars], ending := .exited status }, tree)

/-- What is wrong with an argument that should be a number. -/
def faultText (fault : Shell.Fault) : Chars :=
  "printf: '".toList ++ fault.argument ++
    (if fault.beginsWithNumber then "': value not completely converted\n"
      else "': expected a numeric value\n").toList

/-- What is said about an argument that a format has no use for. -/
def excessText (argument : Chars) : Chars :=
  "printf: warning: ignoring excess arguments, starting with '".toList ++ argument ++ "'\n".toList

/-- A program that only says what is wrong with its arguments. -/
def misused (name : String) (complaints : List String) (tree : FileTree) : ProcessRun × FileTree :=
  let usage := "Try '" ++ name ++ " --help' for more information.\n"
  let lines := complaints.map fun complaint => name ++ ": " ++ complaint ++ "\n"
  ({ errors := [Bytes.ofText (String.join (lines ++ [usage]))], ending := .exited 1 }, tree)

def formatProgram : Program := fun arguments tree =>
  match arguments with
  | [] => misused "printf" ["missing operand"] tree
  | format :: arguments =>
    let (result, ending) := Shell.printed .formatProgram format arguments
    let excess := if result.goesOn && ending = .complete then result.arguments.take 1 else []
    ({ output := [bytesOf result.chars]
       errors := [bytesOf (result.faults.flatMap faultText ++ excess.flatMap excessText)]
       ending := .exited (if ending = .invalid || !result.faults.isEmpty then 1 else 0) }, tree)

/-- Copies files to its output. -/
def copyProgram : Program := fun arguments tree =>
  let (flow, state) := Shell.Builtin.cat {} 0 arguments { name := [], arguments := [], tree }
  state.finish flow

/-- Whether a word is a length of time: a decimal number, perhaps with a unit. -/
def isInterval (chars : Chars) : Bool :=
  let number :=
    if chars.getLast?.any ['s', 'm', 'h', 'd'].contains then chars.dropLast else chars
  number.any Char.isDigit && number.all (fun c => c.isDigit || c == '.') && number.count '.' ≤ 1

/-- Waits. Nothing else happens in that time, so it does not show. -/
def waitProgram : Program := fun arguments tree =>
  let invalid := arguments.filter fun argument => !isInterval argument
  if arguments.isEmpty then misused "sleep" ["missing operand"] tree
  else if invalid.isEmpty then ({}, tree)
  else
    let complaints := invalid.map fun argument =>
      "invalid time interval '" ++ String.ofList argument ++ "'"
    misused "sleep" complaints tree

def program? (name : Chars) : Option Program :=
  match String.ofList name with
  | "sh" => some Shell.runProgram
  | "true" => some fun _ tree => ({}, tree)
  | "false" => some fun _ tree => ({ ending := .exited 1 }, tree)
  | "sleep" => some waitProgram
  | "echo" => some fun arguments => printing (Shell.echoedByProgram arguments) 0
  | "printf" => some formatProgram
  | "cat" => some copyProgram
  | _ => none

/-- The directories that hold the programs. -/
def directories : List String := ["/bin/", "/usr/bin/"]

def programAt? (path : Chars) : Option Program :=
  directories.findSome? fun directory =>
    if directory.toList.isPrefixOf path then program? (path.drop directory.length) else none

/-- The program that runs an executable file, with the arguments that it takes in front. The first
line of the file names it. -/
def interpreter? (path : Chars) (contents : Chars) : Option (Program × List Chars) :=
  match contents.takeWhile (· != '\n') with
  | '#' :: '!' :: line => do
    let line := line.dropWhile (· == ' ')
    let program ← programAt? (line.takeWhile (· != ' '))
    let option := ((line.dropWhile (· != ' ')).dropWhile (· == ' '))
    return (program, (if option.isEmpty then [] else [option]) ++ [path])
  | _ => none

/-- The program that a command names, with the arguments that it takes in front. A name with a
slash in it is a path. -/
def resolve? (tree : FileTree) (name : Chars) : Option (Program × List Chars) :=
  if !name.contains '/' then (program? name).map fun program => (program, [])
  else match programAt? name with
    | some program => some (program, [])
    | none =>
      match tree.find? (bytesOf name) with
      | some (.file contents true _) => interpreter? name (charsOf contents)
      | _ => none

/-- What commands do. An argument that holds a zero character cannot be passed on. A process that
is told to stop as soon as it has started does nothing else. -/
def programs (cancel : Bool) : Programs := fun command tree =>
  match command.map fun argument => charsOf (Bytes.ofText argument) with
  | [] => (none, tree)
  | name :: arguments =>
    if (name :: arguments).any fun argument => argument.contains '\x00' then (none, tree)
    else match resolve? tree name with
      | none => (none, tree)
      | some (program, front) =>
        if cancel then (some { ending := .killed 15, cancelled := true }, tree)
        else
          let (run, tree) := program (front ++ arguments) tree
          (some run, tree)

end FileSearch.Machine
