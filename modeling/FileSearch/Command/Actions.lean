import FileSearch.Command.Expression
import FileSearch.CommandText.Words
import FileSearch.Specification.Options

/-!
# The actions of a search

What a search command does with each match, in the order in which it does it.
-/

set_option autoImplicit false

namespace FileSearch

open Command (Primary)

/-- The action without operands, if it is selected. -/
def Command.Primary.flag (selected : Bool) (word : String) : List Primary :=
  if selected then [.bare word] else []

/-- The action with a switched text as its operand, if the text is active. -/
def Switched.action (switched : Switched) (word : String) : List Primary :=
  switched.active?.toList.map (.unary word)

namespace ActionOptions

/-- The action that runs a command, unless the command has no words. The mark at its end says
whether the command runs for each match or for many matches at once. -/
def execAction (options : ActionOptions) : List Primary :=
  let command := CommandText.words options.exec.text
  if options.exec.enabled && !command.isEmpty then
    [⟨options.execVariant.flag, command ++ [if options.execUsePlus then "+" else ";"]⟩]
  else []

/-- The action that writes a format to a file. The format may be empty. -/
def fprintfAction (options : ActionOptions) : List Primary :=
  options.fprintf.active?.toList.map fun file => ⟨"-fprintf", [file, options.fprintfFormat]⟩

/-- All selected actions that have the operands they need. -/
def selected (options : ActionOptions) : List Primary :=
  Primary.flag options.print "-print" ++ Primary.flag options.print0 "-print0"
    ++ Primary.flag options.ls "-ls" ++ Primary.flag options.deleteMatches "-delete"
    ++ Primary.flag options.quitEarly "-quit"
    ++ options.execAction
    ++ options.fprint.action "-fprint" ++ options.fprint0.action "-fprint0"
    ++ options.fls.action "-fls" ++ options.printf.action "-printf"
    ++ options.fprintfAction

def words (options : ActionOptions) : List String :=
  options.selected.flatMap Primary.words

end ActionOptions

end FileSearch
