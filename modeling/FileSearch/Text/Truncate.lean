import FileSearch.Text.Bytes

/-!
# Cutting a text to a number of bytes

Limits are counted in bytes of the text's UTF-8 form, and a cut never falls inside a character. The
place of the cut can be found from both ends: by taking characters as long as they fit, or by going
back from the limit to the end of a character.
-/

set_option autoImplicit false

namespace FileSearch.Text

/-- The longest leading part whose characters take at most `limit` bytes together. -/
def takeBytes (limit : Nat) : List Char → List Char
  | [] => []
  | c :: rest => if c.utf8Size ≤ limit then c :: takeBytes (limit - c.utf8Size) rest else []

/-- A text cut to at most `limit` bytes, between two characters. -/
def truncate (text : String) (limit : Nat) : String :=
  String.ofList (takeBytes limit text.toList)

/-- Whether a character of a text begins at a position, or the text ends there. -/
def isBoundary (bytes : Bytes) (position : UInt64) : Bool :=
  position == 0 || match bytes[position.toNat]? with
    | none => position.toNat == bytes.length
    | some byte => !Bytes.isContinuation byte

theorem toNat_sub_one {position : UInt64} (notZero : position ≠ 0) :
    (position - 1).toNat + 1 = position.toNat := by
  have positive : 1 ≤ position := by grind
  have one : (1 : UInt64).toNat ≤ position.toNat := UInt64.le_iff_toNat_le.mp positive
  rw [UInt64.toNat_sub_of_le _ _ positive]
  exact Nat.sub_add_cancel one

/-- The last boundary up to a position, looked for byte by byte on the way back. A way that would go
on below zero finds none. -/
def lastBoundary? (bytes : Bytes) (position : UInt64) : Option UInt64 :=
  if isBoundary bytes position then some position
  else if notZero : position ≠ 0 then lastBoundary? bytes (position - 1)
  else none
termination_by position.toNat
decreasing_by
  have step := toNat_sub_one notZero
  omega

/-- A text cut at the last boundary up to a limit. Bytes that end inside a character are no text. -/
def cutBack? (text : String) (limit : UInt64) : Option String :=
  let bytes := Bytes.ofText text
  if bytes.length ≤ limit.toNat then some text
  else (lastBoundary? bytes limit).bind fun stop => Bytes.toText? (bytes.take stop.toNat)

end FileSearch.Text
