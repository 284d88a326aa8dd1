import MessageQueue.CommandLine.Arguments
import MessageQueue.CommandLine.LogFilter
import MessageQueue.Consumer.Service
import MessageQueue.Json.Printer
import MessageQueue.Settings.Source
import MessageQueue.Settings.Stored
import MessageQueue.Writer

/-!
# Running the program

The program reads its arguments, checks what is to be logged, loads the settings, and carries out
its command.  To send prints the identifier of the message.  To consume prints each message as a
line of JSON.  What is read, printed and posted is up to a world, which is a parameter.
-/

namespace MessageQueue.CommandLine

/-- What the program needs of the world. -/
structure World (m : Type → Type) where
  transport : Transport m
  /-- What a file holds, if it exists. -/
  fileContent : String → m (Option String)
  /-- The standard input, to its end. -/
  input : m (Except String Bytes)
  /-- Writes to the standard output. -/
  print : String → m Unit
  /-- Whether the user wants the program to stop. -/
  interrupted : m Bool

/-- How the program ends. -/
inductive Completion where
  | done
  /-- The arguments say something else than what to do. -/
  | usage (e : UsageError)
  | failed (e : CommandError)
  /-- There is no span of time as long as the delay. -/
  | delayOutOfRange
deriving DecidableEq, Repr

namespace Completion

def exitCode : Completion → UInt8
  | done => 0
  | usage e => e.exitCode
  | failed e => e.exitCode
  | delayOutOfRange => 101

/-- The error that is reported, if one is. -/
def error? : Completion → Option CommandError
  | failed e => some e
  | _ => none

/-- What is written to the standard error. -/
def complaint : Completion → String
  | done => ""
  | usage e => if e.wanted then "" else e.message
  | failed e => "Error: " ++ e.message ++ "\n"
  | delayOutOfRange => "the delay is out of range\n"

end Completion

variable {m : Type → Type} [Monad m]

/-! ## Sending -/

/-- A writer with attributes and a delay. -/
def prepared (w : Writer) (attributes : List (String × String)) (delay : Span) :
    Except WriterError Writer := do
  let w ← attributes.foldlM (fun w (name, value) => w.addAttribute name value) w
  w.setDelay delay

/-- Sends a message. -/
def send (world : World m) (connection : ConnectionSettings) (queueUrl : QueueUrl)
    (body : Option String)
    (attributes : List (String × String)) (delaySeconds : Int) : m Completion := do
  match Topic.connect connection queueUrl, Span.ofSeconds? delaySeconds with
  | .error e, _ => pure (.failed (.queue e))
  | .ok _, none => pure .delayOutOfRange
  | .ok topic, some delay =>
    match prepared topic.writer attributes delay with
    | .error e => pure (.failed (.writer e))
    | .ok writer =>
      let content ← match body with
        | some text => pure (.ok (Utf8.encode text))
        | none => world.input
      match content with
      | .error e => pure (.failed (.stream e))
      | .ok bytes =>
        match writer.write bytes with
        | .error e => pure (.failed (.writer e))
        | .ok writer =>
          let (_, answer) ← writer.close (topic.client.service world.transport)
          match answer with
          | .error e => pure (.failed (.writer e))
          | .ok id =>
            world.print (id.text ++ "\n")
            pure .done

/-! ## Consuming -/

/-- A message as it is printed.  What is not UTF-8 in its body is replaced. -/
def rendered (message : Message) : Json :=
  .object
    [("attributes", message.attributes.toJson), ("body", .text (Utf8.decodeLossy message.body))]

/-- Consumes a queue, for so many steps. -/
def consume (world : World m) (connection : ConnectionSettings) (settings : ConsumerSettings)
    (shutdownTimeoutSeconds : UInt64) (steps : Nat) : m Completion := do
  match Consumer.connect connection settings with
  | .error e => pure (.failed (.queue e))
  | .ok (client, consumer) =>
    let surroundings : Consumer.Surroundings m :=
      { queue := client.service world.transport
        handler := fun given => do
          world.print ((rendered given.toMessage).toText ++ "\n")
          pure .done
        interrupted := world.interrupted
        allowed := 1000 * shutdownTimeoutSeconds.toNat }
    match ← consumer.consume surroundings steps with
    | some (.error e) => pure (.failed (.consumer e))
    | _ => pure .done

/-! ## The program -/

/-- What is logged: what the environment says if it can be read, and what the arguments say
otherwise. -/
def logFilterOk (environment : List (String × String)) (a : ProgramArguments) : Bool :=
  (environment.lookup "RUST_LOG").any LogFilter.isFilter || LogFilter.isFilter a.logLevel

/-- Goes on under the connection settings that the program is given. -/
def withSettings (world : World m) (environment : List (String × String)) (a : ProgramArguments)
    (next : ConnectionSettings → m Completion) : m Completion := do
  if !logFilterOk environment a then
    return .failed (.invalidArgument "log-level" "invalid filter directive")
  let file ← match a.config with
    | some path => do pure (some { path, content := ← world.fileContent path })
    | none => pure none
  match ConnectionSettings.load file a.region a.endpoint environment with
  | .error e => pure (.failed (.configuration e))
  | .ok connection => next connection

/-- Carries out a command. -/
def Command.execute (world : World m) (steps : Nat) (command : Command)
    (connection : ConnectionSettings) :
    m Completion :=
  match command with
  | .send queueUrl body attributes delaySeconds =>
    CommandLine.send world connection queueUrl body attributes delaySeconds
  | .consume settings shutdownTimeoutSeconds =>
    CommandLine.consume world connection settings shutdownTimeoutSeconds steps

/-- Carries out what the arguments say. -/
def execute (world : World m) (environment : List (String × String)) (invocation : Invocation)
    (steps : Nat) :
    m Completion :=
  withSettings world environment invocation.program (invocation.command.execute world steps)

/-- The program.  A consumer stops after so many steps. -/
def run (world : World m) (environment : List (String × String)) (arguments : List String)
    (steps : Nat) :
    m Completion := do
  match readArguments environment arguments with
  | .ok invocation => execute world environment invocation steps
  | .error e =>
    if e.wanted then world.print e.message
    pure (.usage e)

end MessageQueue.CommandLine
