import FileSearch.Pattern.Basic

/-!
# Flags of patterns

Flags change what the parts of a pattern behind them mean, up to the end of the group that sets
them.
-/

set_option autoImplicit false

namespace FileSearch.Pattern

/-- The flags in force at a point of a pattern. -/
structure Flags where
  ignoreCase : Bool := false
  /-- Lines, and not only the text, start and end where that is asked. -/
  multiLine : Bool := false
  /-- A point stands for line ends too. -/
  pointMatchesAll : Bool := false
  /-- Blanks and comments between the parts of a pattern do not count. -/
  spaced : Bool := false
  /-- A carriage return ends a line too. -/
  carriageReturns : Bool := false
  /-- Named sets hold ASCII characters only. -/
  ascii : Bool := false
  /-- Shorter readings are tried first, which does not change what is found. -/
  lazy : Bool := false
  deriving DecidableEq, Repr

namespace Flags

def set? (flags : Flags) (letter : Char) (on : Bool) : Option Flags :=
  match letter with
  | 'i' => some { flags with ignoreCase := on }
  | 'm' => some { flags with multiLine := on }
  | 's' => some { flags with pointMatchesAll := on }
  | 'x' => some { flags with spaced := on }
  | 'R' => some { flags with carriageReturns := on }
  | 'u' => some { flags with ascii := !on }
  | 'U' => some { flags with lazy := on }
  | _ => none

/-- A text from its first character that counts, where blanks and comments up to a line end do
not. -/
def dropSpace (inComment : Bool) : List Char → List Char
  | [] => []
  | c :: rest =>
    if inComment then dropSpace (c != '\n') rest
    else if Text.isBlank c then dropSpace false rest
    else if c = '#' then dropSpace true rest
    else c :: rest

/-- The rest of a pattern from its first character that counts. -/
def skip (flags : Flags) (text : List Char) : List Char :=
  if flags.spaced then dropSpace false text else text

theorem dropSpace_length_le (inComment : Bool) (text : List Char) :
    (dropSpace inComment text).length ≤ text.length := by
  induction text generalizing inComment with
  | nil => simp [dropSpace]
  | cons c rest ih =>
    simp only [dropSpace, List.length_cons]
    have fromComment := ih (c != '\n')
    have inside := ih true
    have outside := ih false
    split
    · omega
    · split
      · omega
      · split
        · omega
        · simp

theorem skip_length_le (flags : Flags) (text : List Char) :
    (flags.skip text).length ≤ text.length := by
  simp only [skip]
  split
  · exact dropSpace_length_le false text
  · exact Nat.le_refl _

/-- The set of a word's characters. -/
def word (flags : Flags) : CharSet :=
  if flags.ascii then .asciiWord else .word

/-- The check that a mark for the start of a line makes. -/
def lineStart (flags : Flags) : Check :=
  if !flags.multiLine then .textStart
  else if flags.carriageReturns then .anyLineStart else .lineStart

/-- The check that a mark for the end of a line makes. -/
def lineEnd (flags : Flags) : Check :=
  if !flags.multiLine then .textEnd
  else if flags.carriageReturns then .anyLineEnd else .lineEnd

/-- A set in whose place, where only ASCII is allowed, nothing beyond ASCII may stand. -/
def admit? (flags : Flags) (set : CharSet) : Option CharSet :=
  if flags.ascii && set.contains '\u0080' then none else some set

/-- A set widened by the characters that equal a member when case is ignored. -/
def fold (flags : Flags) (set : CharSet) : CharSet :=
  if !flags.ignoreCase then set
  else if flags.ascii then .intersection .ascii (.ignoringCase set)
  else .ignoringCase set

/-- A set widened, and then replaced by its complement if it is negated. -/
def finish? (flags : Flags) (negated : Bool) (set : CharSet) : Option CharSet :=
  flags.admit? (if negated then .complement (flags.fold set) else flags.fold set)

/-- The set that a literal character stands for. -/
def literal (flags : Flags) (c : Char) : CharSet :=
  if flags.ascii && 0x80 ≤ c.toNat then .single c else flags.fold (.single c)

def point? (flags : Flags) : Option CharSet :=
  flags.admit? (
    if flags.pointMatchesAll then .any
    else if flags.carriageReturns then .complement (.ofList ['\r', '\n'])
    else .complement (.single '\n'))

/-- The set of one of the letters for digits, blanks and characters of words, or for all others. -/
def letterSet? (flags : Flags) (letter : Char) : Option CharSet :=
  let digit := if flags.ascii then CharSet.asciiDigit else .digit
  let blank := if flags.ascii then CharSet.asciiBlank else .blank
  match letter with
  | 'd' => flags.admit? digit
  | 's' => flags.admit? blank
  | 'w' => flags.admit? flags.word
  | 'D' => flags.admit? (.complement digit)
  | 'S' => flags.admit? (.complement blank)
  | 'W' => flags.admit? (.complement flags.word)
  | _ => none

end Flags

end FileSearch.Pattern
