import FileSearch.Pattern.Escape

/-!
# Sets in brackets

Reading of a set that lists its members between brackets: characters, intervals, escapes, named
sets and further sets, with operators between lists of members.
-/

set_option autoImplicit false

namespace FileSearch.Pattern.Bracket

/-- An operator between two lists of members. -/
inductive Operator where
  | intersection
  | difference
  | symmetricDifference
  deriving DecidableEq, Repr

def Operator.apply : Operator → CharSet → CharSet → CharSet
  | intersection => .intersection
  | difference => .difference
  | symmetricDifference => .symmetricDifference

/-- The operator at the front of a text. -/
def operator? : List Char → Option (Operator × List Char)
  | '&' :: '&' :: rest => some (.intersection, rest)
  | '-' :: '-' :: rest => some (.difference, rest)
  | '~' :: '~' :: rest => some (.symmetricDifference, rest)
  | _ => none

/-- A set and how deep sets are nested in its brackets. -/
structure Nested where
  set : CharSet
  depth : Nat
  deriving Repr

/-- Brackets that have not been closed yet. -/
structure Open where
  negated : Bool
  /-- What stands before the last operator, and that operator. -/
  pending : Option (Operator × Nested)
  /-- The members behind the last operator, as one set. -/
  members : Nested
  /-- How many members there are behind the last operator. -/
  count : Nat
  deriving Repr

/-- Brackets that hold nothing yet. -/
def Open.start (negated : Bool) : Open :=
  ⟨negated, none, ⟨.empty, 0⟩, 0⟩

def Open.add (bracket : Open) (member : Nested) : Open :=
  { bracket with
    members :=
      ⟨if bracket.count = 0 then member.set else .union bracket.members.set member.set,
        max bracket.members.depth member.depth⟩
    count := bracket.count + 1 }

/-- Brackets with one more character. -/
def Open.addChar (bracket : Open) (c : Char) : Open :=
  bracket.add ⟨.single c, 0⟩

/-- What stands in brackets so far. -/
def Open.contents (flags : Flags) (bracket : Open) : Nested :=
  let members : Nested :=
    ⟨bracket.members.set, bracket.members.depth + (if bracket.count < 2 then 0 else 1)⟩
  match bracket.pending with
  | none => members
  | some (operator, left) =>
    ⟨operator.apply (flags.fold left.set) (flags.fold members.set),
      max left.depth members.depth + 1⟩

/-- Brackets with an operator behind what they hold so far. -/
def Open.operate (flags : Flags) (bracket : Open) (operator : Operator) : Open :=
  { Open.start bracket.negated with pending := some (operator, bracket.contents flags) }

/-- The set of brackets that are being closed. -/
def Open.close? (flags : Flags) (bracket : Open) : Option Nested := do
  let contents := bracket.contents flags
  return ⟨← flags.finish? bracket.negated contents.set, contents.depth + 1⟩

/-- The dashes at the front of a list of members, which stand for themselves. -/
def readDashes (flags : Flags) (bracket : Open) (text : List Char) : Open × List Char :=
  match _counted : flags.skip text with
  | '-' :: rest => readDashes flags (bracket.addChar '-') rest
  | rest => (bracket, rest)
termination_by text.length
decreasing_by
  have shorter := flags.skip_length_le text
  rw [_counted, List.length_cons] at shorter
  omega

/-- The front of a list of members, behind the opening bracket: the mark for negation, and dashes
or a closing bracket that stand for themselves. -/
def readOpening (flags : Flags) (text : List Char) : Open × List Char :=
  let (negated, text) := match flags.skip text with
    | '^' :: rest => (true, flags.skip rest)
    | rest => (false, rest)
  match readDashes flags (.start negated) text with
  | (bracket, ']' :: rest) =>
    if bracket.count = 0 then (bracket.addChar ']', rest) else (bracket, ']' :: rest)
  | opening => opening

/-- The named set between colons, behind an opening bracket, and whether it is negated. -/
def readNamed? (text : List Char) : Option (Bool × CharSet × List Char) :=
  match text with
  | ':' :: rest =>
    let (negated, rest) := match rest with
      | '^' :: rest => (true, rest)
      | rest => (false, rest)
    match rest.dropWhile (· != ':') with
    | ':' :: ']' :: behind => do
      let set ← CharSet.ofPosixName? (String.ofList (rest.takeWhile (· != ':')))
      return (negated, set, behind)
    | _ => none
  | _ => none

/-- One member or one end of an interval. -/
def readEnd (flags : Flags) : List Char → Option (Escape × List Char)
  | [] => none
  | '\\' :: rest => Escape.read flags rest
  | c :: rest => some (.literal c, rest)

/-- The character of an end of an interval. -/
def literal? (flags : Flags) : Escape → Option Char
  | .literal c => if flags.ascii && 0x80 ≤ c.toNat then none else some c
  | _ => none

def member? (flags : Flags) : Escape → Option CharSet
  | .oneOf set => some set
  | member => (literal? flags member).map .single

/-- A member: a character, an escape or an interval. A dash before a closing bracket or another
dash makes no interval. -/
def readMember (flags : Flags) (text : List Char) : Option (CharSet × List Char) := do
  let (first, rest) ← readEnd flags text
  match flags.skip rest with
  | [] => none
  | '-' :: behind =>
    match flags.skip behind with
    | ']' :: _ => return (← member? flags first, '-' :: behind)
    | '-' :: _ => return (← member? flags first, '-' :: behind)
    | behind => do
      let (last, rest) ← readEnd flags behind
      let low ← literal? flags first
      let high ← literal? flags last
      if low ≤ high then return (.interval low high, rest) else none
  | rest => return (← member? flags first, rest)

/-- The set of brackets from some point inside them on, given the brackets around them. Each round
takes at least one character, so `fuel` only has to be the length of the text. -/
def readFrom (flags : Flags) : Nat → Open → List Open → List Char → Option (Nested × List Char)
  | 0, _, _, _ => none
  | fuel + 1, bracket, outer, text =>
    match flags.skip text with
    | [] => none
    | '[' :: rest =>
      match readNamed? rest with
      | some (negated, set, rest) => do
        let set ← flags.finish? negated set
        readFrom flags fuel (bracket.add ⟨set, 0⟩) outer rest
      | none =>
        let (inner, rest) := readOpening flags rest
        readFrom flags fuel inner (bracket :: outer) rest
    | ']' :: rest => do
      let closed ← bracket.close? flags
      match outer with
      | [] => return (closed, rest)
      | around :: outer => readFrom flags fuel (around.add closed) outer rest
    | text =>
      match operator? text with
      | some (operator, rest) => readFrom flags fuel (bracket.operate flags operator) outer rest
      | none => do
        let (set, rest) ← readMember flags text
        readFrom flags fuel (bracket.add ⟨set, 0⟩) outer rest

/-- The set of brackets, behind the opening one. -/
def read (flags : Flags) (text : List Char) : Option (Nested × List Char) :=
  let (bracket, rest) := readOpening flags text
  readFrom flags (rest.length + 1) bracket [] rest

end FileSearch.Pattern.Bracket
