import FileSearch.Command.Basic
import FileSearch.Content.Filter
import FileSearch.Files.Lines
import FileSearch.Search.Drain
import FileSearch.Search.Options
import FileSearch.Search.Process
import FileSearch.Search.Result

/-!
# Carrying out searches

A command is run; its output is either kept as a list of matches or passed on as it arrives. The
search of a specification runs the command of the specification, narrows the matches down by
contents and writes the ones that remain.
-/

set_option autoImplicit false

namespace FileSearch

def Ending.exitCode : Ending → Int32
  | .exited code => .ofNat code.toNat
  | .killed signal => .ofNat (128 + signal.toNat)
  | .unknown => SearchResult.notRun

/-- Where the two streams of a command go. A stream without a destination is not looked at. -/
structure Sinks where
  output : Option Sink := none
  errors : Option Sink := none
  deriving DecidableEq, Repr

namespace ProcessRun

/-- The matches in the output that was kept. A run that was cancelled has none. -/
def found (run : ProcessRun) (capture : Bool) (kept : Bytes) : List Path :=
  if capture then Path.ofLines (if run.cancelled then [] else kept) else []

/-- The result of a run of a command. A command whose ending could not be learnt counts as one that
did not run. -/
def result (run : ProcessRun) (command : List String) (capture : Bool) (kept : Bytes) :
    SearchResult :=
  if run.ending = .unknown then .failure command
  else {
    exitCode := run.ending.exitCode
    found := run.found capture kept
    command := command
    cancelled := run.cancelled }

end ProcessRun

/-- The result of a command, given what it does, and the destinations after it. A command without
words cannot be started. -/
def execute (run? : Option ProcessRun) (command : List String) (capture : Bool) (sinks : Sinks) :
    SearchResult × Sinks :=
  match command, run? with
  | _ :: _, some run =>
    let output := Drain.ofChunks capture sinks.output run.output
    let errors := Drain.ofChunks false sinks.errors run.errors
    (run.result command capture output.kept, { output := output.sink?, errors := errors.sink? })
  | _, _ => (.failure command, sinks)

namespace Specification

def searchCommand (specification : Specification) (options : SearchOptions) (program : String) :
    List String :=
  (specification.command options.includeActions program).arguments

/-- A result without the matches that do not hold the search text, where that matters. -/
def refine (specification : Specification) (options : SearchOptions) (tree : FileTree)
    (result : SearchResult) : SearchResult :=
  if options.filterContent && specification.readsContents then
    { result with found := specification.filterPaths tree result.found }
  else result

/-- The result of a search, given what its command does and which files there are afterwards, and
the destinations after it. Matches that were kept are written on lines of their own. -/
def conclude (specification : Specification) (options : SearchOptions) (program : String)
    (run? : Option ProcessRun) (tree : FileTree) (sinks : Sinks) : SearchResult × Sinks :=
  let (result, sinks) :=
    execute run? (specification.searchCommand options program) options.capture sinks
  if !options.capture || result.cancelled then (result, sinks)
  else
    let result := specification.refine options tree result
    let lines := result.found.flatMap fun path => [path, [Path.lineEnd]]
    (result, { sinks with output := sinks.output.map fun sink => (sink.forward lines).2 })

/-- Carries out the search of a specification. Gives the result, the destinations and the files
after it. -/
def search (specification : Specification) (options : SearchOptions) (program : String)
    (programs : Programs) (tree : FileTree) (sinks : Sinks) : SearchResult × Sinks × FileTree :=
  let (run?, tree) := programs (specification.searchCommand options program) tree
  let (result, sinks) := specification.conclude options program run? tree sinks
  (result, sinks, tree)

end Specification

end FileSearch
