import FileSearch.Shell.Script

/-!
# Integer expressions

Operators bind in six levels; those of one level group to the left. Values are integers of 64 bits
that wrap around.
-/

set_option autoImplicit false

namespace FileSearch.Shell

/-- What a reader makes of the characters in front of it: a value and the characters behind it. -/
abbrev Reader (α : Type) := Chars → Option (α × Chars)

def beginsName (c : Char) : Bool :=
  c.isAlpha || c == '_'

/-- Whether a character can stand in a name. -/
def isNameChar (c : Char) : Bool :=
  c.isAlphanum || c == '_'

/-- The number that digits stand for. -/
def decimal (digits : Chars) : Nat :=
  digits.foldl (fun value digit => value * 10 + (digit.toNat - 48)) 0

/-- The parameter whose name follows a dollar sign. -/
def readParameterName : Reader Parameter
  | '@' :: rest => some (.arguments, rest)
  | '*' :: rest => some (.joined, rest)
  | '#' :: rest => some (.argumentCount, rest)
  | '?' :: rest => some (.status, rest)
  | '$' :: rest => some (.process, rest)
  | c :: rest =>
    if c.isDigit then some (.argument (decimal [c]), rest)
    else if beginsName c then
      let name := (c :: rest).takeWhile isNameChar
      let parameter :=
        if name == "PPID".toList then Parameter.parentProcess else Parameter.variable name
      some (parameter, (c :: rest).dropWhile isNameChar)
    else none
  | [] => none

/-- The parameter that follows a dollar sign, in braces or without. -/
def readParameter : Reader Parameter
  | '{' :: rest => do
    if rest.head?.any Char.isDigit then
      match rest.dropWhile Char.isDigit with
      | '}' :: behind => return (.argument (decimal (rest.takeWhile Char.isDigit)), behind)
      | _ => none
    match ← readParameterName rest with
    | (parameter, '}' :: behind) => return (parameter, behind)
    | _ => none
  | text => readParameterName text

namespace Arithmetic

/-- Characters without the blanks in front. -/
def skip (text : Chars) : Chars :=
  text.dropWhile fun c => c == ' ' || c == '\t' || c == '\n'

/-- The operators of each level, those that bind least first. Of two that begin alike the longer
one stands first. -/
def levels : List (List (Chars × Operator)) := [
  [(['|', '|'], .or)],
  [(['&', '&'], .and)],
  [(['=', '='], .equal), (['!', '='], .unequal)],
  [(['<', '='], .atMost), (['>', '='], .atLeast), (['<'], .less), (['>'], .greater)],
  [(['+'], .plus), (['-'], .minus)],
  [(['*'], .times), (['/'], .divide), (['%'], .remainder)]]

/-- The operator of a level that a text begins with. -/
def readOperator (operators : List (Chars × Operator)) : Reader Operator := fun text =>
  operators.findSome? fun (sign, operator) =>
    if sign.isPrefixOf text then some (operator, text.drop sign.length) else none

mutual

/-- An expression of the given levels. `fuel` bounds the number of nested readings. -/
def readLevels : Nat → List (List (Chars × Operator)) → Reader Arithmetic
  | 0, _, _ => none
  | fuel + 1, [], text => readOperand fuel (skip text)
  | fuel + 1, operators :: higher, text => do
    let (left, rest) ← readLevels fuel higher text
    readMore fuel operators higher left (skip rest)

/-- The operators of a level behind a left operand, each with its right operand. -/
def readMore : Nat → List (Chars × Operator) → List (List (Chars × Operator)) → Arithmetic →
    Reader Arithmetic
  | 0, _, _, _, _ => none
  | fuel + 1, operators, higher, left, text =>
    match readOperator operators text with
    | none => some (left, text)
    | some (operator, rest) => do
      let (right, rest) ← readLevels fuel higher rest
      readMore fuel operators higher (.operation operator left right) (skip rest)

def readOperand : Nat → Reader Arithmetic
  | 0, _ => none
  | _ + 1, [] => none
  | fuel + 1, c :: rest =>
    if c == '-' then (readOperand fuel (skip rest)).map fun (e, rest) => (.negate e, rest)
    else if c == '+' then readOperand fuel (skip rest)
    else if c == '!' then (readOperand fuel (skip rest)).map fun (e, rest) => (.isZero e, rest)
    else if c == '(' then do
      let (inner, rest) ← readLevels fuel levels rest
      match skip rest with
      | ')' :: rest => some (inner, rest)
      | _ => none
    else if c == '$' then
      (readParameter rest).map fun (source, rest) => (.parameter source, rest)
    else if c.isDigit then
      some (.number (decimal ((c :: rest).takeWhile Char.isDigit)),
        (c :: rest).dropWhile Char.isDigit)
    else (readParameterName (c :: rest)).map fun (source, rest) => (.parameter source, rest)

end

/-- An expression up to the two parentheses that close it. -/
def read : Reader Arithmetic := fun text => do
  let (expression, rest) ← readLevels (8 * text.length + 8) levels text
  match skip rest with
  | ')' :: ')' :: rest => some (expression, rest)
  | _ => none

/-- Why an expression has no value. -/
inductive Fault where
  | divisionByZero
  | notANumber (chars : Chars)
  deriving Repr

def truth (holds : Bool) : Int64 :=
  if holds then 1 else 0

end Arithmetic

def Operator.apply (operator : Operator) (left right : Int64) : Except Arithmetic.Fault Int64 :=
  match operator with
  | or => .ok (Arithmetic.truth (left != 0 || right != 0))
  | and => .ok (Arithmetic.truth (left != 0 && right != 0))
  | equal => .ok (Arithmetic.truth (left == right))
  | unequal => .ok (Arithmetic.truth (left != right))
  | atMost => .ok (Arithmetic.truth (left ≤ right))
  | atLeast => .ok (Arithmetic.truth (right ≤ left))
  | less => .ok (Arithmetic.truth (left < right))
  | greater => .ok (Arithmetic.truth (right < left))
  | plus => .ok (left + right)
  | minus => .ok (left - right)
  | times => .ok (left * right)
  | divide => if right == 0 then .error .divisionByZero else .ok (left / right)
  | remainder => if right == 0 then .error .divisionByZero else .ok (left % right)

/-- The value of an expression, given the values of parameters. -/
def Arithmetic.value (valueOf : Parameter → Except Fault Int64) :
    Arithmetic → Except Fault Int64
  | number value => .ok (.ofInt value)
  | parameter source => valueOf source
  | negate operand => (operand.value valueOf).map fun value => -value
  | isZero operand => (operand.value valueOf).map fun value => truth (value == 0)
  | operation operator left right => do
    let left ← left.value valueOf
    operator.apply left (← right.value valueOf)

end FileSearch.Shell
