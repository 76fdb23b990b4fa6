import FileSearch.Files.Tree

/-!
# What a command does

A command may fail to start. If it starts, it writes to two streams and ends in some way, by itself
or because it was told to stop.
-/

set_option autoImplicit false

namespace FileSearch

inductive Ending where
  | exited (code : UInt8)
  | killed (signal : UInt8)
  /-- The process was started, but how it ended could not be learnt. -/
  | unknown
  deriving DecidableEq, Repr

/-- What a process does, from its start to its end. -/
structure ProcessRun where
  /-- The output, in the chunks in which it arrives. -/
  output : List Bytes := []
  /-- The error output, in the chunks in which it arrives. -/
  errors : List Bytes := []
  ending : Ending := .exited 0
  /-- Whether the search was cancelled while the process was running, so that the process was told
  to stop. -/
  cancelled : Bool := false
  deriving DecidableEq, Repr

/-- What commands do, with the files that there are. The result is none for a command that cannot
be started; the files are those that are there afterwards. -/
abbrev Programs := List String → FileTree → Option ProcessRun × FileTree

end FileSearch
