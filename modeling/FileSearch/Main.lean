import FileSearch.CommandLine.Perform
import FileSearch.Search.Machine

/-!
# The program

Reads the files that the program can see, carries out what its arguments ask for, and writes back
what has changed. It sees what is below its working directory and below the directory for
configurations, and it runs commands on the programs of `Machine`.
-/

set_option autoImplicit false

namespace FileSearch.Program

/-- The location that a path from the root leads to. -/
def locationOf (path : String) : Location :=
  (Path.ofText path).steps

def pathTo (location : Location) : String :=
  location.foldl (fun path name => path ++ "/" ++ Bytes.toTextLossy name) ""

/-- A file with contents. It can be executed if it names a program that runs it. -/
def fileNode (contents : Bytes) : Node :=
  .file contents ((Bytes.ofText "#!").isPrefixOf contents)

/-- The file at a path, with no permissions if it cannot be read. -/
def readNode (path : String) : IO Node := do
  try return fileNode (← IO.FS.readBinFile path).data.toList
  catch _ => return .file [] false .none

/-- The files and directories below a directory, with the directory itself. -/
def snapshot (root : String) : IO (List (Location × Node)) := do
  let mut nodes := []
  try
    let start ← IO.FS.realPath root
    if ← start.isDir then
      nodes := [(locationOf start.toString, .directory)]
      for path in ← start.walkDir do
        let node ←
          if ← path.isDir then pure .directory
          else readNode path.toString
        nodes := (locationOf path.toString, node) :: nodes
  catch _ => return nodes
  return nodes

def writeBack (before after : FileTree) : IO Unit := do
  for (location, node) in after.nodes.reverse do
    if before.node? location != some node then
      match node with
      | .file contents .. => IO.FS.writeBinFile (pathTo location) ⟨contents.toArray⟩
      | _ => IO.FS.createDirAll (pathTo location)
  for (location, node) in before.nodes do
    if (after.node? location).isNone && node != .directory then
      IO.FS.removeFile (pathTo location)

def readEnvironment : IO Environment := do
  return {
    home := (← IO.getEnv "HOME").getD ""
    configHome := (← IO.getEnv "XDG_CONFIG_HOME").getD ""
    configFile := (← IO.getEnv "CKFIND_CONFIG").getD "" }

def put (stream : IO.FS.Stream) (bytes : Bytes) : IO Unit := do
  stream.write ⟨bytes.toArray⟩
  stream.flush

/-- The locations of the directories above a location, and the location itself. -/
def pathOf (location : Location) : List Location :=
  (List.range location.length).map fun count => location.take (count + 1)

end FileSearch.Program

open FileSearch Program

/-- Carries out what the arguments of the program ask for. -/
def main (arguments : List String) : IO UInt32 := do
  let start ← IO.monoMsNow
  let environment ← readEnvironment
  let directory := (← IO.currentDir).toString
  let settings := (environment.configDirectory?.map Path.display).getD ""
  let place := locationOf directory
  let nodes := (← snapshot settings) ++ (← snapshot directory)
    ++ (pathOf place).map fun location => (location, .directory)
  let tree : FileTree := nodes.foldl (fun tree (location, node) => tree.insert location node)
    { workingDirectory := place }
  let outcome := CommandLine.perform { environment, programs := Machine.programs false } arguments
    tree
  writeBack tree outcome.tree
  put (← IO.getStdout) outcome.output
  put (← IO.getStderr) (outcome.errors (((← IO.monoMsNow) - start) / 10))
  return outcome.exitStatus.toUInt32
