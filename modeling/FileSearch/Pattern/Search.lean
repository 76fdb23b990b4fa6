import FileSearch.Pattern.Basic

/-!
# Finding a pattern

A pattern is found by following all of its readings at once: a set of places where a reading may
begin becomes the set of places where one may end. The sets are binary numbers with one digit for
each place, so every step is a few operations on numbers.
-/

set_option autoImplicit false

namespace FileSearch.Pattern

/-- A set of places of a text, numbered from the front. -/
structure Places where
  bits : Nat
  deriving DecidableEq, Repr

namespace Places

def none : Places :=
  ⟨0⟩

def ofFlags : List Bool → Places
  | [] => none
  | flag :: rest => ⟨2 * (ofFlags rest).bits + flag.toNat⟩

/-- The number of a place, looked up. -/
def contains (places : Places) (place : Nat) : Bool :=
  places.bits.testBit place

/-- The places of either set. -/
def union (left right : Places) : Places :=
  ⟨left.bits ||| right.bits⟩

/-- The places of both sets. -/
def inter (left right : Places) : Places :=
  ⟨left.bits &&& right.bits⟩

/-- The places that follow those of a set. -/
def next (places : Places) : Places :=
  ⟨places.bits <<< 1⟩

end Places

/-- What a step gives after exactly `count` rounds. Once a round changes nothing, no later one
does. -/
def iterate (step : Places → Places) : Nat → Places → Places
  | 0, places => places
  | count + 1, places =>
    let reached := step places
    if reached = places then places else iterate step count reached

/-- What a step gives after at most `count` rounds. -/
def accumulate (step : Places → Places) : Nat → Places → Places
  | 0, places => places
  | count + 1, places =>
    let reached := places.union (step places)
    if reached = places then places else accumulate step count reached

/-- The places where a reading ends that begins at one of the given places. Steps are given by the
places that they lead away from, and checks by the places where they hold. `size` bounds the rounds
that make a difference: every one but the last reaches a new place. -/
def ends (size : Nat) : Pattern Places Places → Places → Places
  | .empty, places => places
  | .step allowed, places => (places.inter allowed).next
  | .check allowed, places => places.inter allowed
  | .sequence first second, places => ends size second (ends size first places)
  | .either left right, places => (ends size left places).union (ends size right places)
  | .repeated pattern least most, places =>
    let reached := iterate (ends size pattern) least places
    accumulate (ends size pattern) (most.elim size (· - least)) reached

/-- A pattern on a given text: its sets of characters and its checks become sets of places. -/
def onText (pattern : TextPattern) (text : List Char) : Pattern Places Places :=
  let all := places text
  pattern.map
    (fun set => .ofFlags (all.map fun place => set.containsSome place.after))
    (fun check => .ofFlags (all.map fun place => check.holds place))

/-- Whether a stretch of a text, anywhere in it, is as a pattern asks. -/
def isFoundIn (pattern : TextPattern) (text : List Char) : Bool :=
  let all := Places.ofFlags ((places text).map fun _ => true)
  ends (text.length + 1) (onText pattern text) all != Places.none

end FileSearch.Pattern
