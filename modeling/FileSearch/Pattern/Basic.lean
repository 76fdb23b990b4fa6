import FileSearch.Pattern.CharSet

/-!
# Patterns

What a pattern asks of a stretch of text. The leaves of a pattern are steps over one character and
checks of a place between characters; they are parameters of the type, so that the same tree can
hold sets of characters, or the places of one text where those sets let a step through.
-/

set_option autoImplicit false

namespace FileSearch

/-- A pattern with given kinds of steps and checks. -/
inductive Pattern (σ α : Type) where
  /-- The empty stretch. -/
  | empty
  /-- One character. -/
  | step (step : σ)
  /-- The empty stretch, at certain places. -/
  | check (check : α)
  | sequence (first second : Pattern σ α)
  | either (left right : Pattern σ α)
  /-- A number of stretches behind each other, within bounds. -/
  | repeated (pattern : Pattern σ α) (least : Nat) (most : Option Nat)
  deriving DecidableEq, Repr

namespace Pattern

/-- A place in a text, by the characters before and behind it. -/
structure Place where
  before : Option Char
  after : Option Char
  deriving DecidableEq, Repr

/-- The places of a text that follows `before`. -/
def placesAfter (before : Option Char) : List Char → List Place
  | [] => [⟨before, none⟩]
  | c :: rest => ⟨before, some c⟩ :: placesAfter (some c) rest

/-- The places of a text: before each character, and at the end. -/
def places (text : List Char) : List Place :=
  placesAfter none text

inductive Check where
  | textStart
  | textEnd
  | lineStart
  | lineEnd
  /-- The start of a line, where a carriage return with or without a line feed ends one too. -/
  | anyLineStart
  /-- The end of a line, where a carriage return with or without a line feed ends one too. -/
  | anyLineEnd
  /-- A place between a character of a word and another, where words are of characters of a set. -/
  | wordEdge (word : CharSet)
  | noWordEdge (word : CharSet)
  | wordStart (word : CharSet)
  | wordEnd (word : CharSet)
  /-- A place that follows no character of a word. -/
  | afterNoWord (word : CharSet)
  /-- A place that no character of a word follows. -/
  | beforeNoWord (word : CharSet)
  deriving DecidableEq, Repr

def CharSet.containsSome (set : CharSet) (c? : Option Char) : Bool :=
  c?.any set.contains

def Check.holds (place : Place) : Check → Bool
  | textStart => place.before == none
  | textEnd => place.after == none
  | lineStart => place.before == none || place.before == some '\n'
  | lineEnd => place.after == none || place.after == some '\n'
  | anyLineStart =>
    place.before == none || place.before == some '\n'
      || (place.before == some '\r' && place.after != some '\n')
  | anyLineEnd =>
    place.after == none || place.after == some '\r'
      || (place.after == some '\n' && place.before != some '\r')
  | wordEdge word => word.containsSome place.before != word.containsSome place.after
  | noWordEdge word => word.containsSome place.before == word.containsSome place.after
  | wordStart word => !word.containsSome place.before && word.containsSome place.after
  | wordEnd word => word.containsSome place.before && !word.containsSome place.after
  | afterNoWord word => !word.containsSome place.before
  | beforeNoWord word => !word.containsSome place.after

def sequenceOf {σ α : Type} : List (Pattern σ α) → Pattern σ α
  | [] => .empty
  | [pattern] => pattern
  | pattern :: rest => .sequence pattern (sequenceOf rest)

/-- Any of some patterns, the first of which is given. -/
def eitherOf {σ α : Type} (first : Pattern σ α) : List (Pattern σ α) → Pattern σ α
  | [] => first
  | second :: rest => .either first (eitherOf second rest)

def map {σ α τ β : Type} (step : σ → τ) (check : α → β) : Pattern σ α → Pattern τ β
  | empty => empty
  | .step s => .step (step s)
  | .check a => .check (check a)
  | sequence first second => sequence (first.map step check) (second.map step check)
  | either left right => either (left.map step check) (right.map step check)
  | repeated pattern least most => repeated (pattern.map step check) least most

end Pattern

/-- A pattern as it is read: steps by sets of characters, and checks of neighbours. -/
abbrev TextPattern := Pattern Pattern.CharSet Pattern.Check

end FileSearch
