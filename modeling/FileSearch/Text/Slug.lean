import FileSearch.Text.Blank

/-!
# Slugs

A slug is the storage key that is derived from a display name: ASCII letters and digits in lower
case, with single dashes where the name has separators. Characters of other kinds leave no trace.
-/

set_option autoImplicit false

namespace FileSearch.Text.Slug

/-- The most characters a slug has. Each of them is one byte. -/
def maxLength : Nat := 64

/-- The key of a name that holds no letter and no digit. -/
def fallback : String := "spec"

/-- Whether a character of a name is kept: an ASCII letter or digit. -/
def isKept (c : Char) : Bool :=
  c.isAlphanum

/-- Whether a character of a name separates two words. -/
def isSeparator (c : Char) : Bool :=
  c == '-' || c == '_' || c == '.' || isBlank c

/-- The kept characters in lower case, with one dash for each run of separators that follows a kept
character; characters of other kinds do not interrupt a run. `afterDash` is set where a dash would
be redundant: at the start and after a dash. -/
def dashed (afterDash : Bool) : List Char → List Char
  | [] => []
  | c :: rest =>
    if isKept c then c.toLower :: dashed false rest
    else if isSeparator c && !afterDash then '-' :: dashed true rest
    else dashed afterDash rest

/-- A list without the dashes at its end. -/
def dropTrailingDashes (cs : List Char) : List Char :=
  (cs.reverse.dropWhile (· == '-')).reverse

/-- The characters of a name's slug. The length limit applies last, so it may leave a dash at the
end. -/
def chars (name : List Char) : List Char :=
  let words := dropTrailingDashes (dashed true name)
  (if words.isEmpty then fallback.toList else words).take maxLength

def ofName (name : String) : String :=
  String.ofList (chars name.toList)

end FileSearch.Text.Slug
