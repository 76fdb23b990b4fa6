import FileSearch.Shell.State

/-!
# The commands of the shell

Each command turns the state of a script into another and says how the script goes on.
-/

set_option autoImplicit false

namespace FileSearch.Shell

abbrev Builtin := Streams → Nat → List Chars → State → Flow × State

namespace Builtin

/-- A command that ends with a status and does nothing else. -/
def ending (status : UInt8) : Builtin := fun _ _ _ state =>
  (.next, state.ended status)

def number? (argument : Chars) : Option Nat :=
  if argument.isEmpty || !argument.all Char.isDigit then none else some (decimal argument)

/-- A message about an argument that should be a number. It ends the script. -/
def illegalNumber (command : String) (argument : Chars) : Streams → Nat → State → Flow × State :=
  fun streams line state =>
    (.exit, state.complain streams line
      (command.toList ++ ": Illegal number: ".toList ++ argument) 2)

/-- Ends the script with the given status, or else with the last one. -/
def exit : Builtin := fun streams line arguments state =>
  match arguments with
  | [] => (.exit, state)
  | argument :: _ =>
    match number? argument with
    | some status => (.exit, state.ended (UInt8.ofNat status))
    | none => illegalNumber "exit" argument streams line state

def echo : Builtin := fun streams _ arguments state =>
  (.next, (state.emit streams.output (echoed arguments)).ended 0)

/-- What is wrong with an argument that should be a number. -/
def faultText (fault : Fault) : Chars :=
  "printf: ".toList ++ fault.argument ++
    (if fault.beginsWithNumber then ": not completely converted"
      else ": expected numeric value").toList

/-- Prints its arguments in a format. What is wrong with them is said first. -/
def printf : Builtin := fun streams line arguments state =>
  match arguments with
  | [] => (.next, state.complain streams line "printf: usage: printf format [arg ...]".toList 2)
  | format :: arguments =>
    let (result, ending) := printed .format format arguments
    let state := result.faults.foldl (fun state fault =>
      state.complain streams line (faultText fault) 1) (state.ended 0)
    let state := state.emit streams.output result.chars
    if ending = .invalid then
      (.next, state.complain streams line "printf: invalid directive".toList 2)
    else (.next, state)

def holdsOf (state : State) (operator argument : Chars) : Except TestFault Bool :=
  let path := bytesOf argument
  match String.ofList operator with
  | "-n" => .ok !argument.isEmpty
  | "-z" => .ok argument.isEmpty
  | "-e" => .ok (state.tree.hasPath path)
  | "-f" => .ok (state.tree.hasFile path)
  | "-d" => .ok (state.tree.hasDirectory path)
  | "-s" => .ok !((state.tree.read path).toOption.getD []).isEmpty
  | _ => .error (.unexpectedOperator operator)

def holds (state : State) : List Chars → Except TestFault Bool
  | [] => .ok false
  | [argument] => .ok !argument.isEmpty
  | ['!'] :: rest => (holds state rest).map (!·)
  | [operator, argument] => holdsOf state operator argument
  | [left, operator, right] => compares operator left right
  | first :: _ => .error (.unexpectedOperator first)

def testAs (name : Chars) : Builtin := fun streams line arguments state =>
  match holds state arguments with
  | .ok true => (.next, state.ended 0)
  | .ok false => (.next, state.ended 1)
  | .error fault => (.next, state.complain streams line (name ++ ": ".toList ++ fault.message) 2)

def test : Builtin :=
  testAs "test".toList

/-- Tests a condition in brackets. -/
def bracket : Builtin := fun streams line arguments state =>
  if arguments.getLast? == some [']'] then testAs ['['] streams line arguments.dropLast state
  else (.next, state.complain streams line "[: missing ]".toList 2)

/-- Reads a line from the input, which has none. -/
def read : Builtin := fun _ _ arguments state =>
  let names := arguments.filter fun argument => argument.head? != some '-'
  (.next, (names.foldl (fun state name => state.assign name []) state).ended 1)

/-- Drops arguments of the script. -/
def shift : Builtin := fun streams line arguments state =>
  let shifted (count : Nat) : Flow × State :=
    if state.arguments.length < count then
      (.exit, state.complain streams line "shift: can't shift that many".toList 2)
    else (.next, { state with arguments := state.arguments.drop count, status := 0 })
  match arguments with
  | [] => shifted 1
  | argument :: _ =>
    match number? argument with
    | some count => shifted count
    | none => illegalNumber "shift" argument streams line state

/-- Gives the script other arguments. -/
def set : Builtin := fun _ _ arguments state =>
  match arguments with
  | ['-', '-'] :: rest => (.next, { state with arguments := rest, status := 0 })
  | _ => (.next, state.ended 0)

/-- Takes away variables. -/
def unset : Builtin := fun _ _ arguments state =>
  (.next, { state with
    bindings := state.bindings.filter fun entry => !arguments.contains entry.1
    status := 0 })

def signals : List (String × Nat) := [
  ("HUP", 1), ("INT", 2), ("QUIT", 3), ("ILL", 4), ("TRAP", 5), ("ABRT", 6), ("BUS", 7),
  ("FPE", 8), ("KILL", 9), ("USR1", 10), ("SEGV", 11), ("USR2", 12), ("PIPE", 13), ("ALRM", 14),
  ("TERM", 15), ("STKFLT", 16), ("CHLD", 17), ("CONT", 18), ("STOP", 19), ("TSTP", 20),
  ("TTIN", 21), ("TTOU", 22), ("URG", 23), ("XCPU", 24), ("XFSZ", 25), ("VTALRM", 26),
  ("PROF", 27), ("WINCH", 28), ("POLL", 29), ("PWR", 30), ("SYS", 31)]

/-- The signals that a process does not end from. -/
def harmless : List Nat := [0, 17, 18, 19, 20, 21, 22, 23, 28]

/-- The number of a signal that is given by name or number. -/
def signal? (text : Chars) : Option Nat :=
  match number? text with
  | some number => if number ≤ 64 then some number else none
  | none => signals.lookup (String.ofList text)

/-- Sends a signal to processes. A script knows its own process and the one that runs it; that one
stops the search when it is told to end. -/
def send (signal : Nat) (processes : List Chars) (state : State) : Flow × State :=
  if harmless.contains signal then (.next, state.ended 0)
  else if processes.contains State.process then (.killed (UInt8.ofNat signal), state)
  else if processes.contains State.parentProcess && (signal == 2 || signal == 15) then
    (.stopped, state)
  else (.next, state.ended 0)

/-- Sends signals. -/
def kill : Builtin := fun streams line arguments state =>
  let illegal (option : Chars) : Flow × State :=
    (.next, state.complain streams line ("kill: Illegal option -".toList ++ option) 2)
  match arguments with
  | ['-', 's'] :: name :: processes =>
    match signal? name with
    | some signal => send signal processes state
    | none => illegal name
  | ('-' :: name) :: processes =>
    match signal? name with
    | some signal => send signal processes state
    | none => illegal name
  | processes => send 15 processes state

/-- Copies a file to the output. -/
def copyFile (streams : Streams) (state : State) (name : Chars) : State :=
  match state.tree.read (bytesOf name) with
  | .ok contents => state.emit streams.output (charsOf contents)
  | .error error =>
    let reason := error.message.toList.takeWhile (· != '(')
    (state.emit streams.errors
      ("cat: ".toList ++ name ++ ": ".toList ++ reason.dropLast ++ ['\n'])).ended 1

/-- Copies files to the output. -/
def cat : Builtin := fun streams _ arguments state =>
  (.next, arguments.foldl (copyFile streams) (state.ended 0))

def notFound (name : Chars) : Builtin := fun streams line _ state =>
  (.next, state.complain streams line (name ++ ": not found".toList) 127)

def named (name : Chars) : Builtin :=
  match String.ofList name with
  | ":" => ending 0
  | "true" => ending 0
  | "false" => ending 1
  | "sleep" => ending 0
  | "export" => ending 0
  | "break" => fun _ _ _ state => (.leave, state.ended 0)
  | "continue" => fun _ _ _ state => (.again, state.ended 0)
  | "exit" => exit
  | "echo" => echo
  | "printf" => printf
  | "test" => test
  | "[" => bracket
  | "read" => read
  | "shift" => shift
  | "set" => set
  | "unset" => unset
  | "kill" => kill
  | "cat" => cat
  | _ => notFound name

/-- The command of a list of words. A command that takes the place of the script ends it. -/
def perform (streams : Streams) (line : Nat) (words : List Chars) (state : State) : Flow × State :=
  match words with
  | [] => (.next, state.ended 0)
  | ['e', 'x', 'e', 'c'] :: name :: arguments =>
    match named name streams line arguments state with
    | (.next, state) => (.exit, state)
    | other => other
  | ['e', 'x', 'e', 'c'] :: [] => (.next, state.ended 0)
  | name :: arguments => named name streams line arguments state

end Builtin

end FileSearch.Shell
