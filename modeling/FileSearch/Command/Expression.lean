/-!
# Search expressions

The language of a search command behind its start locations: tests and actions, each a word with
its operands, joined by "and", "or", "not" and parentheses. Here are the expressions that a search
needs, and their words.
-/

set_option autoImplicit false

namespace FileSearch.Command

/-- A test, an option or an action: its word and its operands. -/
structure Primary where
  word : String
  operands : List String := []
  deriving DecidableEq, Repr

namespace Primary

/-- A primary without operands. -/
def bare (word : String) : Primary :=
  ⟨word, []⟩

def unary (word operand : String) : Primary :=
  ⟨word, [operand]⟩

def words (primary : Primary) : List String :=
  primary.word :: primary.operands

end Primary

/-- What a search asks of a match. -/
inductive Criterion where
  /-- A test that holds. -/
  | must (test : Primary)
  /-- A test that does not hold. -/
  | mustNot (test : Primary)
  /-- Tests of which at least one holds. -/
  | anyOf (tests : List Primary)
  deriving DecidableEq, Repr

namespace Criterion

def alternativeWords : List Primary → List String
  | [] => []
  | [test] => test.words
  | test :: rest => test.words ++ "-o" :: alternativeWords rest

/-- The words of a criterion. Two or more alternatives are put in parentheses. -/
def words : Criterion → List String
  | must test => test.words
  | mustNot test => "!" :: test.words
  | anyOf [] => []
  | anyOf [test] => test.words
  | anyOf tests => "(" :: (alternativeWords tests ++ [")"])

/-- A criterion for alternatives, unless there are none. -/
def alternatives (tests : List Primary) : List Criterion :=
  if tests.isEmpty then [] else [anyOf tests]

end Criterion

end FileSearch.Command
