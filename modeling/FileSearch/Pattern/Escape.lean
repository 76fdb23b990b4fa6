import FileSearch.Pattern.Flags
import FileSearch.Pattern.Property

/-!
# Escapes in patterns

What a backslash and the characters behind it stand for: a literal character, a set of characters,
or a check. An escape that stands for nothing makes a pattern invalid.
-/

set_option autoImplicit false

namespace FileSearch.Pattern

inductive Escape where
  | literal (c : Char)
  | oneOf (set : CharSet)
  | check (check : Check)
  deriving DecidableEq, Repr

namespace Escape

/-- The value of a digit in base sixteen. -/
def hexValue? (c : Char) : Option Nat :=
  if c.isDigit then some (c.toNat - '0'.toNat)
  else if 'a' ≤ c && c ≤ 'f' then some (c.toNat - 'a'.toNat + 10)
  else if 'A' ≤ c && c ≤ 'F' then some (c.toNat - 'A'.toNat + 10)
  else none

/-- The character of a code point given by its digits in base sixteen. -/
def charOfHex? (digits : List Nat) : Option Char :=
  let code := digits.foldl (fun value digit => value * 16 + digit) 0
  if code.isValidChar then some (Char.ofNat code) else none

/-- A fixed number of digits in base sixteen. -/
def readHexDigits (flags : Flags) : Nat → List Char → Option (List Nat × List Char)
  | 0, text => some ([], flags.skip text)
  | count + 1, text =>
    match flags.skip text with
    | [] => none
    | c :: rest => do
      let digit ← hexValue? c
      let (digits, rest) ← readHexDigits flags count rest
      return (digit :: digits, rest)

/-- The characters up to a closing brace. -/
def readBraced (flags : Flags) (text : List Char) : Option (List Char × List Char) :=
  match _counted : flags.skip text with
  | [] => none
  | '}' :: rest => some ([], rest)
  | c :: rest => (readBraced flags rest).map fun (inside, rest) => (c :: inside, rest)
termination_by text.length
decreasing_by
  have shorter := flags.skip_length_le text
  rw [_counted, List.length_cons] at shorter
  omega

/-- The character of an escape by code point, behind its letter. Where only ASCII is allowed, a
code point in two digits stands for a byte. -/
def readCode (flags : Flags) (letter : Char) (text : List Char) : Option (Escape × List Char) :=
  match flags.skip text with
  | [] => none
  | '{' :: rest => do
    let (inside, rest) ← readBraced flags rest
    let digits ← inside.mapM hexValue?
    if digits.isEmpty then none
    let c ← charOfHex? digits
    return (.literal c, flags.skip rest)
  | rest => do
    let size := if letter = 'x' then 2 else if letter = 'u' then 4 else 8
    let (digits, rest) ← readHexDigits flags size rest
    let c ← charOfHex? digits
    if flags.ascii && letter = 'x' && 0x80 ≤ c.toNat then none
    return (.literal c, rest)

/-- The set of a property's description: a name, or a name and a value with a mark between them.
Tells whether the mark negates the set. -/
def describedSet? (description : List Char) : Option (Bool × CharSet) :=
  match splitAtInequality description with
  | some (name, value) => (Property.valued? name value).map (true, ·)
  | none =>
    let mark := if description.contains ':' then ':' else '='
    if description.contains mark then
      let name := description.takeWhile (· != mark)
      let value := (description.dropWhile (· != mark)).drop 1
      (Property.valued? name value).map (false, ·)
    else (Property.named? description).map (false, ·)
where
  /-- The parts of a description before and behind its first mark for inequality. -/
  splitAtInequality : List Char → Option (List Char × List Char)
    | [] => none
    | '!' :: '=' :: rest => some ([], rest)
    | c :: rest => (splitAtInequality rest).map fun (name, value) => (c :: name, value)

/-- The set of a property, behind the letter that announces it. -/
def readProperty (flags : Flags) (negated : Bool) (text : List Char) :
    Option (Escape × List Char) :=
  if flags.ascii then none
  else match flags.skip text with
    | [] => none
    | '\\' :: _ => none
    | '{' :: rest => do
      let (description, rest) ← readBraced flags rest
      let (reversed, set) ← describedSet? description
      let set ← flags.finish? (negated != reversed) set
      return (.oneOf set, rest)
    | letter :: rest => do
      let set ← flags.finish? negated (← Property.named? [letter])
      return (.oneOf set, flags.skip rest)

/-- Whether a character can be part of the name of an edge of words. -/
def isEdgeNameChar (c : Char) : Bool :=
  c.isAlpha || c == '-'

def edge? (word : CharSet) : String → Option Check
  | "start" => some (.wordStart word)
  | "end" => some (.wordEnd word)
  | "start-half" => some (.afterNoWord word)
  | "end-half" => some (.beforeNoWord word)
  | _ => none

/-- The check for an edge of words, which may be named in braces. Braces that hold no name belong
to the next part of the pattern. -/
def readEdge (flags : Flags) (text : List Char) : Option (Escape × List Char) :=
  match text with
  | '{' :: inside =>
    match flags.skip inside with
    | [] => none
    | c :: _ =>
      if isEdgeNameChar c then do
        let (name, rest) ← readBraced flags inside
        let edge ← edge? flags.word (String.ofList name)
        return (.check edge, rest)
      else some (.check (.wordEdge flags.word), text)
  | _ => some (.check (.wordEdge flags.word), text)

/-- Whether a character stands for itself behind a backslash. -/
def isPunctuation (c : Char) : Bool :=
  c.toNat < 0x80 && !c.isAlphanum && c != '<' && c != '>'

/-- The meaning of an escape that consists of one character. -/
def ofChar? (flags : Flags) (c : Char) : Option Escape :=
  if isPunctuation c then some (.literal c)
  else match c with
    | 'a' => some (.literal '\x07')
    | 'f' => some (.literal '\x0c')
    | 't' => some (.literal '\t')
    | 'n' => some (.literal '\n')
    | 'r' => some (.literal '\r')
    | 'v' => some (.literal '\x0b')
    | 'A' => some (.check .textStart)
    | 'z' => some (.check .textEnd)
    | 'B' => some (.check (.noWordEdge flags.word))
    | '<' => some (.check (.wordStart flags.word))
    | '>' => some (.check (.wordEnd flags.word))
    | letter => (flags.letterSet? letter).map .oneOf

/-- The meaning of an escape, behind its backslash. -/
def read (flags : Flags) : List Char → Option (Escape × List Char)
  | [] => none
  | c :: rest =>
    if c = 'x' || c = 'u' || c = 'U' then readCode flags c rest
    else if c = 'p' || c = 'P' then readProperty flags (c = 'P') rest
    else if c = 'b' then readEdge flags rest
    else (ofChar? flags c).map fun escape => (escape, rest)

end Escape

end FileSearch.Pattern
