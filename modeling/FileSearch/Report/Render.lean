import FileSearch.Report.Json
import FileSearch.Report.Markdown
import FileSearch.Report.Text

/-!
# Reports in any format
-/

set_option autoImplicit false

namespace FileSearch

def Report.render (report : Report) : Format → String
  | .text => report.asText
  | .json => report.asJson .pretty
  | .markdown => report.asMarkdown

end FileSearch
