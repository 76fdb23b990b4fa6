import FileSearch.Search.Process
import FileSearch.Shell.Commands
import FileSearch.Shell.Reader

/-!
# Running scripts

A script is a command; running it turns a state into another. The shell as a program takes a script
from its arguments or from a file.
-/

set_option autoImplicit false

namespace FileSearch.Shell

namespace State

def assignAll (state : State) : List (Chars × Word) → Except Fault State
  | [] => .ok state
  | (name, word) :: rest => do
    let value ← state.expandText word
    (state.assign name value).assignAll rest

/-- Runs a simple command. Assignments in front of a command last as long as it runs. -/
def perform (state : State) (streams : Streams) (line : Nat) (assignments : List (Chars × Word))
    (words : List Word) : Flow × State :=
  let evaluated : Except Fault (List Chars × State) := do
    let words ← state.expandAll words
    return (words, ← state.assignAll assignments)
  match evaluated with
  | .error fault => (.exit, state.complain streams line fault.message 2)
  | .ok ([], assigned) => (.next, assigned.ended 0)
  | .ok (words, assigned) =>
    if assignments.isEmpty then Builtin.perform streams line words assigned
    else
      let (flow, after) := Builtin.perform streams line words assigned
      (flow, { after with bindings := state.bindings })

end State

/-- The signal for a script that has run for too long. -/
def timeLimit : UInt8 := 24

mutual

/-- Runs a command. `fuel` bounds the number of nested and repeated runs. -/
def run : Nat → Streams → Command → State → Flow × State
  | 0, _, _, state => (.killed timeLimit, state)
  | fuel + 1, streams, command, state =>
    match command with
    | .nothing => (.next, state)
    | .simple line assignments words => state.perform streams line assignments words
    | .redirected redirections inner =>
      match redirections.foldlM (fun (streams, state) => State.redirect state streams)
          (streams, state) with
      | some (streams, state) => run fuel streams inner state
      | none => (.next, state.complain streams 0 "cannot redirect".toList 2)
    | .sequence first second =>
      match run fuel streams first state with
      | (.next, state) => run fuel streams second state
      | other => other
    | .both first second =>
      match run fuel streams first state with
      | (.next, state) =>
        if state.status == 0 then run fuel streams second state else (.next, state)
      | other => other
    | .either first second =>
      match run fuel streams first state with
      | (.next, state) =>
        if state.status == 0 then (.next, state) else run fuel streams second state
      | other => other
    | .negated inner =>
      match run fuel streams inner state with
      | (.next, state) => (.next, state.ended (if state.status == 0 then 1 else 0))
      | other => other
    | .separate inner =>
      let (flow, after) := run fuel streams inner state
      let restored := { after with arguments := state.arguments, bindings := state.bindings }
      match flow with
      | .killed signal => (.killed signal, restored)
      | .stopped => (.stopped, restored)
      | _ => (.next, restored)
    | .choice condition yes no =>
      match run fuel streams condition state with
      | (.next, state) =>
        if state.status == 0 then run fuel streams yes state
        else match no with
          | .nothing => (.next, state.ended 0)
          | no => run fuel streams no state
      | other => other
    | .loop goesOn condition body => runLoop fuel streams goesOn condition body 0 state
    | .each line name items body =>
      match state.expandAll items with
      | .ok values => runEach fuel streams name values body (state.ended 0)
      | .error fault => (.exit, state.complain streams line fault.message 2)

/-- Runs a loop whose last round has ended with a status. -/
def runLoop : Nat → Streams → Bool → Command → Command → UInt8 → State → Flow × State
  | 0, _, _, _, _, _, state => (.killed timeLimit, state)
  | fuel + 1, streams, goesOn, condition, body, last, state =>
    match run fuel streams condition state with
    | (.next, state) =>
      if (state.status == 0) == goesOn then
        match run fuel streams body state with
        | (.next, state) => runLoop fuel streams goesOn condition body state.status state
        | (.again, state) => runLoop fuel streams goesOn condition body state.status state
        | (.leave, state) => (.next, state)
        | other => other
      else (.next, state.ended last)
    | other => other

/-- Runs a loop over values. -/
def runEach : Nat → Streams → Chars → List Chars → Command → State → Flow × State
  | 0, _, _, _, _, state => (.killed timeLimit, state)
  | _ + 1, _, _, [], _, state => (.next, state)
  | fuel + 1, streams, name, value :: values, body, state =>
    match run fuel streams body (state.assign name value) with
    | (.next, state) => runEach fuel streams name values body state
    | (.again, state) => runEach fuel streams name values body state
    | (.leave, state) => (.next, state)
    | other => other

end

/-- How many nested and repeated runs a script may take. -/
def runLimit : Nat := 10000000

namespace State

/-- What a process has done whose script has ended in a state. A process that is told to stop ends
from that. -/
def finish (flow : Flow) (state : State) : ProcessRun × FileTree :=
  let ending : Ending :=
    match flow with
    | .killed signal => .killed signal
    | .stopped => .killed 15
    | _ => .exited state.status
  ({ output := [state.output.reverse.flatten]
     errors := [state.errors.reverse.flatten]
     ending := ending
     cancelled := flow == .stopped }, state.tree)

def runScript (state : State) (script : Chars) : ProcessRun × FileTree :=
  match Command.ofScript? script with
  | some command => (fun (flow, state) => finish flow state) (run runLimit {} command state)
  | none => finish .exit (state.complain {} (script.count '\n' + 1) "Syntax error".toList 2)

end State

/-- What the shell does as a program. The script is an argument or in a file; without arguments
there is nothing to do. -/
def runProgram (arguments : List Chars) (tree : FileTree) : ProcessRun × FileTree :=
  let state (name : Chars) (arguments : List Chars) : State := { name, arguments, tree }
  let shell := "sh".toList
  let refuse (message : Chars) : ProcessRun × FileTree :=
    State.finish .exit ((state shell []).complain {} 0 message 2)
  match arguments with
  | [] => ({}, tree)
  | ['-', 'c'] :: [] => refuse "-c requires an argument".toList
  | ['-', 'c'] :: script :: [] => (state shell []).runScript script
  | ['-', 'c'] :: script :: name :: rest => (state name rest).runScript script
  | ('-' :: option :: _) :: _ => refuse ("Illegal option -".toList ++ [option])
  | file :: rest =>
    match tree.read (bytesOf file) with
    | .ok script => (state file rest).runScript (charsOf script)
    | .error .isADirectory => ({}, tree)
    | .error error =>
      let reason :=
        if error = .notFound || error = .notADirectory then "No such file".toList
        else (error.message.toList.takeWhile (· != '(')).dropLast
      refuse ("cannot open ".toList ++ file ++ ": ".toList ++ reason)

end FileSearch.Shell
