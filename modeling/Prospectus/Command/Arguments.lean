import Prospectus.Text.Digit

/-!
# Arguments of a command

A command takes operands, which are known by their place, parameters, which have
a name and a value, and switches, which only have a name.  A parameter is
written `--name value`, `--name=value` or, if it has a letter, `-n value`,
`-nvalue` or `-n=value`.  After `--` there are only operands.  Nothing may be
given twice.
-/

namespace Prospectus.Command

/-- What a value must be. -/
inductive Form where
  | text
  /-- A text that is not empty. -/
  | path
  /-- A number below `2 ^ 32`. -/
  | count32
  /-- A number below `2 ^ 64`. -/
  | count64
deriving Repr, DecidableEq

/-- A number with a sign or without. -/
def integer? (s : String) : Option Int :=
  match s.toList with
  | '+' :: digits => (Text.digitsValue? digits).map fun n => (n : Int)
  | '-' :: digits => (Text.digitsValue? digits).map fun n => -(n : Int)
  | digits => (Text.digitsValue? digits).map fun n => (n : Int)

/-- Whether a value has a form.  A small number may be a zero with a minus. -/
def Form.accepts (form : Form) (s : String) : Bool :=
  match form with
  | text => true
  | path => !s.isEmpty
  | count32 => (integer? s).any fun n => 0 ≤ n && n < 0x100000000
  | count64 =>
    s.toList.head? ≠ some '-' && (integer? s).any fun n =>
      0 ≤ n && n < 0x10000000000000000

/-- A value that a command takes, by its place or by its name. -/
structure Parameter where
  name : String
  form : Form := .text
  letter : Option Char := none
  required : Bool := false
deriving Repr

/-- What a command takes. -/
structure Grammar where
  operands : List Parameter := []
  parameters : List Parameter := []
  switches : List String := []
deriving Repr

/-- What is wrong with arguments. -/
inductive Misuse where
  | noCommand
  | unknownCommand (name : String)
  | unexpected (argument : String)
  | valueMissing (name : String)
  | valueRefused (name value : String)
  | repeated (name : String)
  | absent (name : String)
deriving Repr, DecidableEq

/-- What is wrong, in words. -/
def Misuse.message : Misuse → String
  | noCommand => "a command is required"
  | unknownCommand name => "unknown command '" ++ name ++ "'"
  | unexpected argument => "unexpected argument '" ++ argument ++ "'"
  | valueMissing name => "a value is required for '" ++ name ++ "'"
  | valueRefused name value =>
    "invalid value '" ++ value ++ "' for '" ++ name ++ "'"
  | repeated name => "'" ++ name ++ "' cannot be given more than once"
  | absent name => "'" ++ name ++ "' is required"

/-- Why there is no command to perform. -/
inductive Stop where
  /-- Help was asked for. -/
  | help
  /-- The version was asked for. -/
  | version
  | misuse (reason : Misuse)
deriving Repr, DecidableEq

/-- What was given: values by name, and switches. -/
structure Given where
  values : List (String × String) := []
  switches : List String := []
deriving Repr, DecidableEq

namespace Given

/-- The value of a name. -/
def value? (g : Given) (name : String) : Option String := g.values.lookup name

/-- The value of a name, or what stands for it. -/
def value (g : Given) (name standard : String) : String :=
  (g.value? name).getD standard

/-- The number given for a name, or what stands for it. -/
def count (g : Given) (name : String) (standard : Nat) : Nat :=
  ((g.value? name).bind integer?).elim standard Int.toNat

/-- Whether a switch was given. -/
def has (g : Given) (switch : String) : Bool := g.switches.contains switch

/-- Adds a value. -/
def add (g : Given) (p : Parameter) (value : String) : Except Stop Given :=
  if !p.form.accepts value then .error (.misuse (.valueRefused p.name value))
  else if (g.value? p.name).isSome then .error (.misuse (.repeated p.name))
  else .ok { g with values := g.values ++ [(p.name, value)] }

/-- Adds a switch. -/
def turnOn (g : Given) (switch : String) : Except Stop Given :=
  if g.has switch then .error (.misuse (.repeated switch))
  else .ok { g with switches := g.switches ++ [switch] }

end Given

/-- How an argument is spelled. -/
inductive Spelling where
  /-- Two hyphens and nothing else. -/
  | divider
  /-- A name after two hyphens, and what follows an equals sign. -/
  | name (name : String) (value : Option String)
  /-- A letter after a hyphen, and what follows it. -/
  | letter (letter : Char) (value : Option String)
  /-- Anything else. -/
  | plain
deriving Repr, DecidableEq

/-- How an argument is spelled. -/
def Spelling.of (argument : String) : Spelling :=
  match argument.toList with
  | ['-', '-'] => .divider
  | '-' :: '-' :: cs =>
    let name := String.ofList (cs.takeWhile (· ≠ '='))
    match cs.dropWhile (· ≠ '=') with
    | [] => .name name none
    | _ :: value => .name name (some (String.ofList value))
  | '-' :: c :: cs =>
    match cs with
    | [] => .letter c none
    | '=' :: value => .letter c (some (String.ofList value))
    | value => .letter c (some (String.ofList value))
  | _ => .plain

namespace Grammar

/-- The parameter that a spelling names, with the value in it. -/
def parameter? (g : Grammar) : Spelling → Option (Parameter × Option String)
  | .name name value => (g.parameters.find? (·.name = name)).map fun p => (p, value)
  | .letter letter value =>
    (g.parameters.find? (·.letter = some letter)).map fun p => (p, value)
  | _ => none

/-- Takes arguments as operands, whatever their spelling. -/
def readOperands : List Parameter → Given → List String → Except Stop Given
  | _, given, [] => .ok given
  | [], _, argument :: _ => .error (.misuse (.unexpected argument))
  | p :: operands, given,
      argument :: rest => do readOperands operands (← given.add p argument) rest

/-- Reads arguments, with the operands that are still to come. -/
def readFrom (g : Grammar) (operands : List Parameter) (given : Given) :
    List String → Except Stop Given
  | [] => .ok given
  | argument :: rest =>
    match Spelling.of argument with
    | .divider => readOperands operands given rest
    | .plain =>
      match operands with
      | [] => .error (.misuse (.unexpected argument))
      | p :: operands => do g.readFrom operands (← given.add p argument) rest
    | .name "help" none => .error .help
    | .letter 'h' _ => .error .help
    | spelling =>
      match g.switches.find? fun s => spelling = .name s none with
      | some switch => do g.readFrom operands (← given.turnOn switch) rest
      | none =>
        match g.parameter? spelling, rest with
        | none, _ => .error (.misuse (.unexpected argument))
        | some (p, some value),
            rest => do g.readFrom operands (← given.add p value) rest
        | some (p, none), [] => .error (.misuse (.valueMissing p.name))
        | some (p, none), value :: rest =>
          if Spelling.of value = .plain
            then do g.readFrom operands (← given.add p value) rest
          else .error (.misuse (.valueMissing p.name))

/-- Reads all arguments of a command and sees that none is lacking. -/
def read (g : Grammar) (arguments : List String) : Except Stop Given := do
  let given ← g.readFrom g.operands {} arguments
  let needed := g.operands ++ g.parameters.filter (·.required)
  match needed.find? fun p => (given.value? p.name).isNone with
  | some p => .error (.misuse (.absent p.name))
  | none => .ok given

end Grammar

end Prospectus.Command
