import FileSearch.CommandLine.Perform
import FileSearch.Proofs.Search.Outcome

/-!
# Previews of searches

A search runs the command that is printed for it without being run. Actions are left out of a search
in two ways at once, and nothing that is settled for running it alone has a part in its command.
-/

set_option autoImplicit false

namespace FileSearch

/-! ## Leaving out actions -/

namespace CommandLine

namespace Source

variable {environment : Environment} {config : Config} {tree after : FileTree} {source : Source}
  {specification : Specification}

end Source

end CommandLine

end FileSearch
