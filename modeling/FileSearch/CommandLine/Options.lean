/-!
# Options and operands

The arguments of a program are read level by level: the program itself, then its command, then the
command of that. Each level has options of its own, and either commands or operands.
-/

set_option autoImplicit false

namespace FileSearch.CommandLine

/-- An option: its names, whether a value belongs to it, and which values it takes. -/
structure Switch where
  long : String
  short? : Option Char := none
  hasValue : Bool := false
  accepts : String → Bool := fun _ => true

structure Level where
  /-- The name that the version is given under. -/
  name : String
  switches : List Switch
  /-- The commands of the level. A level with commands has no operands. -/
  commands : List String := []
  /-- The most operands of the level. -/
  operands : Nat := 0

/-- The options and operands that are given on a level. Options are given by their long names; one
without a value has an empty one. -/
structure Given where
  options : List (String × String) := []
  operands : List String := []
  deriving DecidableEq, Repr

/-- Why arguments are not carried out. -/
inductive Refusal where
  /-- They make no sense. -/
  | usage
  /-- They ask for help. -/
  | help
  /-- They ask for the version of what has this name. -/
  | version (name : String)
  deriving DecidableEq, Repr

namespace Given

def has (given : Given) (option : String) : Bool :=
  (given.options.lookup option).isSome

def value? (given : Given) (option : String) : Option String :=
  given.options.lookup option

end Given

namespace Level

/-- The given options with another one, which must not be given already. -/
def give (switch : Switch) (value : String) (given : Given) : Except Refusal Given :=
  if given.has switch.long || !switch.accepts value then .error .usage
  else .ok { given with options := given.options ++ [(switch.long, value)] }

/-- Whether a short option asks for help or the version. -/
def information? (level : Level) (c : Char) : Option Refusal :=
  if c == 'h' then some .help else if c == 'V' then some (.version level.name) else none

/-- The value behind a short option in the same argument. An equals sign may stand before it. -/
def attached? : List Char → Option String
  | [] => none
  | '=' :: value => some (String.ofList value)
  | value => some (String.ofList value)

/-- Short options in one argument. The last one may still await its value. -/
def readShort (level : Level) (given : Given) : List Char → Except Refusal (Given × Option Switch)
  | [] => .ok (given, none)
  | c :: rest =>
    match level.information? c with
    | some refusal => .error refusal
    | none =>
      match level.switches.find? fun switch => switch.short? == some c with
      | none => .error .usage
      | some switch =>
        if switch.hasValue then
          match attached? rest with
          | some value => (give switch value given).map fun given => (given, none)
          | none => .ok (given, some switch)
        else
          match give switch "" given with
          | .ok given => readShort level given rest
          | .error refusal => .error refusal

/-- A long option, which may have its value behind an equals sign or still await it. -/
def readLong (level : Level) (given : Given) (chars : List Char) :
    Except Refusal (Given × Option Switch) :=
  let name := String.ofList (chars.takeWhile (· != '='))
  let value? := attached? (chars.dropWhile (· != '='))
  match level.switches.find? fun switch => switch.long == name with
  | some switch =>
    match switch.hasValue, value? with
    | true, some value => (give switch value given).map fun given => (given, none)
    | true, none => .ok (given, some switch)
    | false, none => (give switch "" given).map fun given => (given, none)
    | false, some _ => .error .usage
  | none =>
    if value?.isSome then .error .usage
    else if name == "help" then .error .help
    else if name == "version" then .error (.version level.name)
    else .error .usage

/-- An argument that is an option: one with a dash in front and something behind it. -/
def readOption? (level : Level) (given : Given) (argument : String) :
    Option (Except Refusal (Given × Option Switch)) :=
  match argument.toList with
  | '-' :: '-' :: chars => some (level.readLong given chars)
  | '-' :: c :: chars => some (level.readShort given (c :: chars))
  | _ => none

/-- Whether an argument cannot be the value of the option before it. -/
def isOptionLike (argument : String) : Bool :=
  argument.startsWith "-" && argument != "-"

/-- The given operands with further ones, if there are not too many. -/
def addOperands (level : Level) (given : Given) (operands : List String) : Except Refusal Given :=
  if given.operands.length + operands.length ≤ level.operands then
    .ok { given with operands := given.operands ++ operands }
  else .error .usage

/-- The arguments of a level, and the command that follows with its arguments. Two dashes end the
options; only operands can follow. -/
def read (level : Level) (given : Given) :
    List String → Except Refusal (Given × Option (String × List String))
  | [] => .ok (given, none)
  | argument :: rest =>
    if argument == "--" then (level.addOperands given rest).map fun given => (given, none)
    else
      match level.readOption? given argument with
      | some (.error refusal) => .error refusal
      | some (.ok (given, none)) => read level given rest
      | some (.ok (given, some switch)) =>
        match rest with
        | [] => .error .usage
        | value :: rest =>
          if isOptionLike value then .error .usage
          else
            match give switch value given with
            | .ok given => read level given rest
            | .error refusal => .error refusal
      | none =>
        if level.commands.contains argument then .ok (given, some (argument, rest))
        else if !level.commands.isEmpty && argument == "help" then .error .help
        else
          match level.addOperands given [argument] with
          | .ok given => read level given rest
          | .error refusal => .error refusal

end Level

end FileSearch.CommandLine
