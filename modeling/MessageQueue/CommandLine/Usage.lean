import MessageQueue.Text.Shown

/-!
# How a command is used

The usage of a command names its parameters, its operand and its commands.  A parameter knows how
its value is put into the record that is being filled in, so that reading arguments needs to know
nothing of what they mean.  The page that explains a command is written from its usage.

A page has one column for the parameters and one for what they do.  If the first is wide and some
explanation would run over the end of the line, all explanations stand on lines of their own.
-/

namespace MessageQueue.CommandLine

/-! ## Errors -/

/-- Why arguments are not carried out. -/
inductive UsageError where
  /-- The page of a command was asked for. -/
  | help (page : String)
  /-- The version was asked for. -/
  | version (text : String)
  /-- Nothing at all was given. -/
  | nothingGiven (page : String)
  | missingCommand
  | missingOperand (name : String)
  | unknownArgument (argument : String)
  | unknownCommand (name : String)
  /-- A parameter was given twice that has one value. -/
  | repeated (name : String)
  /-- A parameter has no value, or an empty one. -/
  | noValue (name : String)
  /-- A parameter that takes no value was given one. -/
  | unneededValue (name value : String)
  /-- A value cannot be read. -/
  | badValue (name value reason : String)
deriving DecidableEq, Repr

namespace UsageError

/-- What is written to explain the error. -/
def message : UsageError → String
  | help page | version page | nothingGiven page => page
  | missingCommand => "error: a command is required\n"
  | missingOperand name => "error: the argument <" ++ name ++ "> was not given\n"
  | unknownArgument argument => "error: unexpected argument '" ++ argument ++ "'\n"
  | unknownCommand name => "error: unknown command '" ++ name ++ "'\n"
  | repeated name => "error: the argument '" ++ name ++ "' cannot be used multiple times\n"
  | noValue name => "error: a value is required for '" ++ name ++ "'\n"
  | unneededValue name value => "error: unexpected value '" ++ value ++ "' for '" ++ name ++ "'\n"
  | badValue name value reason =>
    "error: invalid value '" ++ value ++ "' for '" ++ name ++ "': " ++ reason ++ "\n"

/-- Whether the text is what was asked for, and not an error. -/
def wanted : UsageError → Bool
  | help _ | version _ => true
  | _ => false

def exitCode (e : UsageError) : UInt8 := if e.wanted then 0 else 2

end UsageError

/-! ## Usages -/

/-- How often a parameter is given, and whether it has a value. -/
inductive ParameterKind where
  /-- Once, without a value. -/
  | switch
  /-- Once, with a value. -/
  | single
  /-- As often as one likes, each time with a value. -/
  | repeatable
deriving DecidableEq, Repr

/-- A parameter of a command, whose value goes into records of a type. -/
structure Parameter (α : Type) where
  /-- The name after two dashes. -/
  long : String
  /-- The letter after one dash. -/
  short : Option Char := none
  kind : ParameterKind := .single
  /-- What its value is called. -/
  valueName : String := ""
  /-- What it does. -/
  summary : String
  /-- Where a value comes from if none is given. -/
  fallback : Option String := none
  /-- Whether a negative number after it is its value. -/
  negative : Bool := false
  put : String → α → Except UsageError α

/-- An argument without a name. -/
structure Operand (α : Type) where
  valueName : String
  summary : String
  put : String → α → Except UsageError α

/-- The usage of a command. -/
structure Usage (α : Type) where
  /-- The command as it is called. -/
  title : String
  /-- What it does. -/
  about : String
  operand : Option (Operand α) := none
  parameters : List (Parameter α)
  /-- Its commands, and what they do. -/
  commands : List (String × String) := []

/-! ## Pages -/

/-- Blanks. -/
def blanks (n : Nat) : String := String.ofList (List.replicate n ' ')

/-- Text filled up with blanks. -/
def filled (text : String) (width : Nat) : String := text ++ blanks (width - text.length)

/-- The width of a line. -/
def lineWidth : Nat := 100

/-- The parameter with its value, as it is called by its name. -/
def Parameter.call {α : Type} (p : Parameter α) : String :=
  "--" ++ p.long ++ if p.kind = .switch then "" else " <" ++ p.valueName ++ ">"

/-- What a parameter does, and where its value comes from otherwise. -/
def Parameter.explanation {α : Type} (p : Parameter α) : String :=
  p.summary ++ match p.fallback with
    | some source => " [" ++ source ++ "]"
    | none => ""

/-- The letter of a parameter, or room for it. -/
def Parameter.mark {α : Type} (p : Parameter α) : String :=
  match p.short with
  | some c => "-" ++ String.ofList [c] ++ ", "
  | none => blanks 4

/-- The greatest of some widths. -/
def greatest (widths : List Nat) : Nat := widths.foldl max 0

/-- The lines on parameters. -/
def parameterLines {α : Type} (ps : List (Parameter α)) : List String :=
  let width := greatest (ps.map (·.call.length))
  let margin := width + 8
  let apart := ps.any fun p =>
    margin ≤ lineWidth ∧ lineWidth * 2 < margin * 5 ∧ lineWidth - margin < p.explanation.length
  ps.flatMap fun p =>
    if apart then ["  " ++ p.mark ++ p.call, blanks 10 ++ p.explanation]
    else ["  " ++ p.mark ++ filled p.call width ++ "  " ++ p.explanation]

/-- The lines on names and what they mean, in two columns. -/
def pairLines (pairs : List (String × String)) : List String :=
  let width := greatest (pairs.map (·.1.length))
  pairs.map fun (name, meaning) => "  " ++ filled name width ++ "  " ++ meaning

/-- A part of a page with its heading, if it has lines. -/
def part (heading : String) (lines : List String) : List String :=
  if lines = [] then [] else "" :: heading :: lines

namespace Usage

variable {α : Type}

/-- The call of a command in short. -/
def call (u : Usage α) : String :=
  u.title ++ " [OPTIONS]" ++
    (match u.operand with
      | some o => " <" ++ o.valueName ++ ">"
      | none => "") ++
    if u.commands = [] then "" else " <COMMAND>"

/-- The page that explains a command. -/
def page (u : Usage α) : String :=
  let operands := match u.operand with
    | some o => [("<" ++ o.valueName ++ ">", o.summary)]
    | none => []
  let lines := [u.about, "", "Usage: " ++ u.call] ++ part "Commands:" (pairLines u.commands) ++
    part "Arguments:" (pairLines operands) ++ part "Options:" (parameterLines u.parameters)
  String.join (lines.map (· ++ "\n"))

/-- The same usage with the parameters that ask for the page, and for the version if there is
one. -/
def withHelp (u : Usage α) (version : Option String) : Usage α :=
  let help (put : String → α → Except UsageError α) : Parameter α :=
    { long := "help", short := some 'h', kind := .switch, summary := "Print help", put }
  let versions : List (Parameter α) := version.toList.map fun text =>
    { long := "version", short := some 'V', kind := .switch, summary := "Print version"
      put := fun _ _ => .error (.version text) }
  let full := { u with parameters := u.parameters ++ help (fun _ a => .ok a) :: versions }
  { u with parameters := u.parameters ++ help (fun _ _ => .error (.help full.page)) :: versions }

end Usage
end MessageQueue.CommandLine
