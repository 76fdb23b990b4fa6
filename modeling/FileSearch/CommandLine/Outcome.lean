import FileSearch.Config.Access
import FileSearch.Report.Render
import FileSearch.Search.Execution

/-!
# Outcomes of invocations

What the program prints, the code that it ends with, and the files afterwards.
-/

set_option autoImplicit false

namespace FileSearch.CommandLine

/-- Why a command fails. -/
inductive Failure where
  | config (cause : ConfigError)
  | opening (cause : OpenError)
  | store (cause : StoreError)
  | noConfigDirectory
  | reading (file : String)
  | notSpecification (file : String)
  | listing
  | importing (file : String)
  | writing (file : String)
  | configExists (path : Path)
  | creatingConfig
  deriving DecidableEq, Repr

def Failure.message : Failure → String
  | config cause => cause.message
  | opening cause => cause.message
  | store cause => cause.message
  | noConfigDirectory => "could not determine config directory"
  | reading file => "failed to read " ++ file
  | notSpecification file => "invalid specification in " ++ file
  | listing => "failed to list specifications"
  | importing file => "failed to import " ++ file
  | writing file => "failed to write " ++ file
  | configExists path =>
    "Config already exists at: " ++ path.display ++ "\nUse --force to overwrite."
  | creatingConfig => "failed to create config"

/-- What goes to the error output. -/
inductive Notice where
  /-- What the search program has written there. -/
  | passedOn (bytes : Bytes)
  | line (text : String)
  /-- How a search has ended, with the time that it took. -/
  | summary (count : Nat) (status : String)
  deriving DecidableEq, Repr

/-- A number of hundredths as a decimal fraction. -/
def hundredthsText (hundredths : Nat) : String :=
  let fraction := hundredths % 100
  toString (hundredths / 100) ++ "." ++ toString (fraction / 10) ++ toString (fraction % 10)

/-- The bytes of a notice, given the hundredths of a second that the search took. -/
def Notice.bytes (hundredths : Nat) : Notice → Bytes
  | passedOn bytes => bytes
  | line text => Bytes.ofText (text ++ "\n")
  | summary count status =>
    Bytes.ofText (toString count ++ " match(es), " ++ status ++ " in "
      ++ hundredthsText hundredths ++ "s\n")

/-- What comes of an invocation. -/
structure Outcome where
  /-- The exit code. The system keeps its last eight bits. -/
  code : Int32 := 0
  output : Bytes := []
  notices : List Notice := []
  tree : FileTree
  deriving DecidableEq, Repr

namespace Outcome

/-- The code that the system reports. -/
def exitStatus (outcome : Outcome) : UInt8 :=
  UInt8.ofNat (outcome.code.toInt % 256).toNat

/-- What goes to the error output. -/
def errors (outcome : Outcome) (hundredths : Nat) : Bytes :=
  outcome.notices.flatMap (Notice.bytes hundredths)

def failure (notices : List Notice) (cause : Failure) (tree : FileTree) : Outcome where
  code := 1
  notices := notices ++ [.line ("Error: " ++ cause.message)]
  tree := tree

def printed (notices : List Notice) (text : String) (tree : FileTree) : Outcome where
  output := Bytes.ofText (text ++ "\n")
  notices := notices
  tree := tree

end Outcome

/-- The code of a command line that makes no sense. -/
def usageCode : Int32 := 2

def interruptedCode : Int32 := 130

end FileSearch.CommandLine
