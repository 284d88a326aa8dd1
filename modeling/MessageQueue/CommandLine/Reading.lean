import MessageQueue.CommandLine.Usage
import MessageQueue.Text.Fields

/-!
# Reading arguments

Arguments are read from left to right.  Two dashes and a name give a parameter, with its value after
an equals sign or in the next argument; one dash and letters give parameters one after another, the
last of which may have its value right after it.  Two dashes alone end the parameters.  All else is
a value that is awaited, or a command, or the operand.

A value is put into the record only when the next parameter or operand begins, or at the end.  So of
two faults the later one can be the one that is reported: an argument that nobody knows is reported
at once.
-/

namespace MessageQueue.CommandLine

/-! ## Words -/

/-- What an argument looks like. -/
inductive Word where
  /-- Two dashes alone. -/
  | divider
  /-- A name after two dashes, and a value after an equals sign. -/
  | long (name : String) (value : Option String)
  /-- Letters after a dash. -/
  | short (letters : List Char)
  | plain
deriving DecidableEq, Repr

/-- What an argument looks like. -/
def Word.ofArgument (argument : String) : Word :=
  match argument.toList with
  | ['-', '-'] => .divider
  | '-' :: '-' :: text =>
    match Text.cut? '=' text with
    | some (name, value) => .long (String.ofList name) (some (String.ofList value))
    | none => .long (String.ofList text) none
  | '-' :: c :: letters => .short (c :: letters)
  | _ => .plain

/-- Whether letters after a dash write a number: digits, with a point and an exponent at most once,
and neither of them first, nor the exponent last. -/
def isNumber : List Char → Bool
  | [] => true
  | c :: rest => c.isDigit && go false rest
where
  go (point : Bool) : List Char → Bool
    | [] => true
    | c :: rest =>
      if c.isDigit then go point rest
      else if c = '.' && !point then go true rest
      else c = 'e' && rest ≠ [] && rest.all Char.isDigit

/-! ## What has been read -/

/-- What is to be done before the next parameter begins. -/
inductive Pending (α : Type) where
  | nothing
  /-- The value of a parameter is the next argument. -/
  | awaiting (p : Parameter α)
  /-- A value is to be put. -/
  | noted (p : Parameter α) (value : String)
  /-- The operand is to be put. -/
  | operand (o : Operand α) (value : String)

/-- What has been read of some arguments. -/
structure Reading (α : Type) where
  record : α
  /-- The names of the parameters that were given. -/
  given : List String := []
  /-- Whether the operand was given. -/
  hasOperand : Bool := false
  pending : Pending α := .nothing

namespace Reading

variable {α : Type}

/-- The reading with the value of a parameter, of which there may be another one only if it is
repeatable. -/
def enter (r : Reading α) (p : Parameter α) (value : String) : Except UsageError (Reading α) :=
  if p.kind ≠ .repeatable ∧ p.long ∈ r.given then .error (.repeated p.long)
  else match p.put value r.record with
    | .ok record => .ok { r with record, given := p.long :: r.given }
    | .error e => .error e

/-- The reading with nothing to be done. -/
def settle (r : Reading α) : Except UsageError (Reading α) :=
  let rest := { r with pending := .nothing }
  match r.pending with
  | .nothing => .ok rest
  | .awaiting p => .error (.noValue p.long)
  | .noted p value => rest.enter p value
  | .operand o value =>
    match o.put value r.record with
    | .ok record => .ok { rest with record }
    | .error e => .error e

/-- The reading with a parameter and its value. -/
def attach (r : Reading α) (p : Parameter α) (value : String) : Except UsageError (Reading α) :=
  match r.settle with
  | .ok r => r.enter p value
  | .error e => .error e

/-- The reading with a parameter whose value is to come. -/
def await (r : Reading α) (p : Parameter α) : Except UsageError (Reading α) :=
  match r.settle with
  | .ok r => .ok { r with pending := .awaiting p }
  | .error e => .error e

/-- Whether an argument of letters is the negative number that is awaited. -/
def awaitsNumber (r : Reading α) (letters : List Char) : Bool :=
  match r.pending with
  | .awaiting p => p.negative && isNumber letters
  | _ => false

/-- A parameter by name. -/
def takeLong (u : Usage α) (r : Reading α) (name : String) (value : Option String) :
    Except UsageError (Reading α) :=
  match u.parameters.find? (·.long = name) with
  | none => .error (.unknownArgument ("--" ++ name))
  | some p =>
    if p.kind = .switch then
      match value with
      | some value => .error (.unneededValue p.long value)
      | none => r.attach p ""
    else match value with
      | some value => r.attach p value
      | none => r.await p

/-- Parameters by letters. -/
def takeShort (u : Usage α) (r : Reading α) : List Char → Except UsageError (Reading α)
  | [] => .ok r
  | c :: rest =>
    match u.parameters.find? (·.short = some c) with
    | none => .error (.unknownArgument ("-" ++ String.ofList [c]))
    | some p =>
      if p.kind = .switch then
        match r.attach p "" with
        | .ok r => takeShort u r rest
        | .error e => .error e
      else match rest with
        | [] => r.await p
        | '=' :: value => r.attach p (String.ofList value)
        | value => r.attach p (String.ofList value)

/-- The operand. -/
def takeOperand (u : Usage α) (r : Reading α) (divided : Bool) (argument : String) :
    Except UsageError (Reading α) :=
  match u.operand, r.hasOperand with
  | some o, false =>
    match r.settle with
    | .ok r => .ok { r with hasOperand := true, pending := .operand o argument }
    | .error e => .error e
  | _, _ =>
    if u.commands = [] ∨ (divided ∧ argument ∈ u.commands.map (·.1))
      then .error (.unknownArgument argument)
    else .error (.unknownCommand argument)

/-- A value that is awaited, or the operand. -/
def takePlain (u : Usage α) (r : Reading α) (argument : String) : Except UsageError (Reading α) :=
  match r.pending with
  | .awaiting p => .ok { r with pending := .noted p argument }
  | _ => r.takeOperand u false argument

/-- Whether an argument is a command. -/
def isCommand (u : Usage α) (r : Reading α) (argument : String) : Bool :=
  match r.pending with
  | .awaiting _ => false
  | _ => argument ∈ u.commands.map (·.1)

/-- The reading with an argument that is no command.  There is none if the argument ends the
parameters. -/
def take? (u : Usage α) (r : Reading α) (argument : String) :
    Option (Except UsageError (Reading α)) :=
  match Word.ofArgument argument with
  | .divider => none
  | .long name value => some (r.takeLong u name value)
  | .short letters =>
    some (if r.awaitsNumber letters then r.takePlain u argument else r.takeShort u letters)
  | .plain => some (r.takePlain u argument)

/-- Reads operands only, to the end. -/
def readDivided (u : Usage α) (r : Reading α) : List String → Except UsageError (Reading α)
  | [] => .ok r
  | argument :: rest =>
    match r.takeOperand u true argument with
    | .ok r => readDivided u r rest
    | .error e => .error e

/-- Reads arguments up to the first command, which comes back with the arguments after it. -/
def read (u : Usage α) (r : Reading α) :
    List String → Except UsageError (Reading α × Option (String × List String))
  | [] => .ok (r, none)
  | argument :: rest =>
    if r.isCommand u argument then .ok (r, some (argument, rest))
    else
      match r.take? u argument with
      | none =>
        match r.readDivided u rest with
        | .ok r => .ok (r, none)
        | .error e => .error e
      | some (.ok r) => read u r rest
      | some (.error e) => .error e

end Reading
end MessageQueue.CommandLine
