import ModerationGateway.Number.Digits

/-!
# Arguments of a command

An argument is an option, the value of one, or an operand. A long option is `--name`, with its
value after an equals sign or as the next argument; short options are single letters that may
follow one hyphen together, a value ending the run. After `--` everything is an operand.

* `Flag`: an option that a command has;
* `Arguments`: what was given;
* `Stop`: a wish for help, or misuse;
* `readArguments`: the arguments of a command, read from left to right; the first misuse counts.
-/

namespace ModerationGateway.Cli

/-- The value of an option: what it is called, and what it must satisfy. -/
structure FlagValue where
  name : String
  accepts : String → Bool

/-- An option: its long name, its letter, its value, if it has one, and what it is for. -/
structure Flag where
  name : String
  letter : Option Char
  value : Option FlagValue
  purpose : String

/-- What was given: the options with their values, empty for those without, and the operands. -/
structure Arguments where
  options : List (String × String)
  operands : List String
  deriving DecidableEq, Repr

namespace Arguments

/-- Nothing given. -/
def none : Arguments := ⟨[], []⟩

/-- An option was given. -/
def has (a : Arguments) (name : String) : Bool := (a.options.lookup name).isSome

/-- The value of an option. -/
def value? (a : Arguments) (name : String) : Option String := a.options.lookup name

end Arguments

/-- Why arguments are not carried out. -/
inductive Stop where
  | help
  | misuse
  deriving DecidableEq, Repr

/-- Give an option a value. No option is given twice, and a value must be acceptable. -/
def give (flag : Flag) (value : String) (a : Arguments) : Except Stop Arguments :=
  if a.has flag.name then .error .misuse
  else
    match flag.value with
    | some expected =>
      if expected.accepts value then .ok { a with options := a.options ++ [(flag.name, value)] }
      else .error .misuse
    | none => .ok { a with options := a.options ++ [(flag.name, "")] }

/-- Add an operand, of which there are only so many. -/
def operand (limit : Nat) (s : String) (a : Arguments) : Except Stop Arguments :=
  if a.operands.length < limit then .ok { a with operands := a.operands ++ [s] }
  else .error .misuse

/-- What an option still needs. -/
inductive Need where
  | nothing (a : Arguments)
  | value (flag : Flag) (a : Arguments)

/-- An option by its long name, with a value if there is an equals sign. -/
def long (flags : List Flag) (cs : List Char) (a : Arguments) : Except Stop Need :=
  let name := String.ofList (cs.takeWhile (· != '='))
  match cs.dropWhile (· != '='), flags.find? (·.name == name) with
  | [], none => .error (if name = "help" then .help else .misuse)
  | _, none => .error .misuse
  | attached, some flag =>
    match flag.value, attached with
    | none, [] => (give flag "" a).map .nothing
    | none, _ => .error .misuse
    | some _, [] => .ok (.value flag a)
    | some _, _ :: value => (give flag (String.ofList value) a).map .nothing

/-- A run of letters. -/
def short (flags : List Flag) (a : Arguments) : List Char → Except Stop Need
  | [] => .ok (.nothing a)
  | c :: rest =>
    match flags.find? (·.letter == some c) with
    | none => .error (if c = 'h' then .help else .misuse)
    | some flag =>
      match flag.value, rest with
      | none, _ =>
        match give flag "" a with
        | .error stop => .error stop
        | .ok a => short flags a rest
      | some _, [] => .ok (.value flag a)
      | some _, '=' :: value => (give flag (String.ofList value) a).map .nothing
      | some _, value => (give flag (String.ofList value) a).map .nothing

/-- What an argument looks like. -/
inductive Shape where
  | operand
  | escape
  | long (cs : List Char)
  | short (cs : List Char)

/-- The shape of an argument. A single hyphen is an operand. -/
def shapeOf (s : String) : Shape :=
  match s.toList with
  | ['-', '-'] => .escape
  | '-' :: '-' :: cs => .long cs
  | ['-'] => .operand
  | '-' :: cs => .short cs
  | _ => .operand

/-- Read arguments after some were read. -/
def readFrom (flags : List Flag) (limit : Nat) (a : Arguments) :
    List String → Except Stop Arguments
  | [] => .ok a
  | s :: rest =>
    let read : Except Stop Need ⊕ List String :=
      match shapeOf s with
      | .operand => .inl ((operand limit s a).map .nothing)
      | .escape => .inr rest
      | .long cs => .inl (long flags cs a)
      | .short cs => .inl (short flags a cs)
    match read with
    | .inr operands => operands.foldlM (fun a s => operand limit s a) a
    | .inl (.error stop) => .error stop
    | .inl (.ok (.nothing a)) => readFrom flags limit a rest
    | .inl (.ok (.value flag a)) =>
      match rest with
      | [] => .error .misuse
      | value :: rest =>
        match shapeOf value with
        | .operand =>
          match give flag value a with
          | .error stop => .error stop
          | .ok a => readFrom flags limit a rest
        | _ => .error .misuse

/-- The arguments of a command with some options and at most so many operands. -/
def readArguments (flags : List Flag) (limit : Nat) (args : List String) :
    Except Stop Arguments :=
  readFrom flags limit .none args

/-- Decimal digits that write a number up to a bound. -/
def isBelow (bound : Nat) (digits : List Char) : Bool :=
  !digits.isEmpty && digits.all Char.isDigit && ofDigits 10 digits ≤ bound

/-- A number up to a bound, a plus sign allowed in front. -/
def isNumberUpTo (bound : Nat) (s : String) : Bool :=
  match s.toList with
  | '+' :: digits => isBelow bound digits
  | digits => isBelow bound digits

/-- A number up to a bound, either sign allowed in front. Only zero has a minus sign. -/
def isSignedUpTo (bound : Nat) (s : String) : Bool :=
  match s.toList with
  | '-' :: digits => isBelow 0 digits
  | _ => isNumberUpTo bound s

end ModerationGateway.Cli
