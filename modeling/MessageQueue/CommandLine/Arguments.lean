import MessageQueue.CommandLine.Reading
import MessageQueue.Decimal.Whole
import MessageQueue.Identifier
import MessageQueue.Settings.Consumer

/-!
# The arguments of the program

The program sends one message or consumes a queue.  What is said before the command holds for both:
where the settings are, what stands in place of theirs, and what is logged.  The file of settings
can also be named by a variable of the environment.

A command is read to its end before what stands before it is checked, so a fault in a command is
reported first.
-/

namespace MessageQueue.CommandLine

/-! ## Values -/

/-- An attribute given as a name and a value around the first equals sign.  The name is not
empty. -/
def readAttribute (argument : String) : Except String (String × String) :=
  match Text.cut? '=' argument.toList with
  | some (c :: name, value) => .ok (String.ofList (c :: name), String.ofList value)
  | _ => .error ("expected KEY=VALUE, got '" ++ argument ++ "'")

/-- A value that a reader accepts. -/
def accepted {α β : Type} (name reason : String) (read : String → Option β) (put : β → α → α)
    (value : String) (a : α) : Except UsageError α :=
  match read value with
  | some b => .ok (put b a)
  | none => .error (.badValue name value reason)

/-- Any text as a value. -/
def text {α : Type} (put : String → α → α) (value : String) (a : α) : Except UsageError α :=
  .ok (put value a)

/-- A natural number of 64 bits. -/
def natural64? (value : String) : Option UInt64 :=
  ((Decimal.natural? value).filter (· < Nat.pow 2 64)).map UInt64.ofNat

/-- A natural number of 32 bits, of which zero may also be negative. -/
def natural32? (value : String) : Option UInt32 :=
  ((Decimal.integer? value).filter fun n => 0 ≤ n ∧ n < Int.pow 2 32).map fun n =>
    UInt32.ofNat n.toNat

/-- An integer of 64 bits. -/
def integer64? (value : String) : Option Int :=
  (Decimal.integer? value).filter fun n => -Int.pow 2 63 ≤ n ∧ n < Int.pow 2 63

/-- The operand that names a queue. -/
def queueOperand {α : Type} (put : QueueUrl → α → α) : Operand α where
  valueName := "QUEUE_URL"
  summary := "Queue URL"
  put value a :=
    match QueueUrl.parse value with
    | .ok queueUrl => .ok (put queueUrl a)
    | .error e => .error (.badValue "<QUEUE_URL>" value e.message)

/-! ## Sending -/

/-- What to send besides the queue. -/
structure SendArguments where
  queueUrl : Option QueueUrl := none
  /-- The body; absent if it is read from the standard input. -/
  body : Option String := none
  /-- The attributes, last first. -/
  attributes : List (String × String) := []
  delaySeconds : Int := 0

/-- The body of the message. -/
def bodyParameter : Parameter SendArguments where
  long := "body"
  short := some 'b'
  valueName := "BODY"
  summary := "Message body; read from stdin when omitted"
  put := text fun body a => { a with body := some body }

/-- An attribute of the message. -/
def attributeParameter : Parameter SendArguments where
  long := "attribute"
  short := some 'a'
  kind := .repeatable
  valueName := "ATTRIBUTES"
  summary := "Message attribute as KEY=VALUE; repeat a key to add values"
  put value a :=
    match readAttribute value with
    | .ok pair => .ok { a with attributes := pair :: a.attributes }
    | .error reason => .error (.badValue "attribute" value reason)

/-- The delay of the message. -/
def delayParameter : Parameter SendArguments where
  long := "delay"
  short := some 'd'
  valueName := "DELAY"
  summary := "Delivery delay in seconds (clamped to 0..=900)"
  fallback := some "default: 0"
  negative := true
  put := accepted "delay" "no number of seconds" integer64? fun n a => { a with delaySeconds := n }

/-- The queue of the message. -/
def sendOperand : Operand SendArguments :=
  queueOperand fun queueUrl a => { a with queueUrl := some queueUrl }

/-- The usage of the command to send. -/
def sendUsage : Usage SendArguments :=
  let usage : Usage SendArguments := {
    title := "sqs-msg send"
    about := "Publish a single message"
    operand := some sendOperand
    parameters := [bodyParameter, attributeParameter, delayParameter] }
  usage.withHelp none

/-! ## Consuming -/

/-- How to consume besides the queue. -/
structure ConsumeArguments where
  queueUrl : Option QueueUrl := none
  concurrency : UInt64 := 1
  retryTimeoutSeconds : UInt32 := 30
  waitSeconds : UInt32 := 20
  shutdownTimeoutSeconds : UInt64 := 30
  credentialRetryDelaySeconds : UInt64 := 2
  maxRetries : UInt32 := 7

/-- The usage of the command to consume. -/
def consumeUsage : Usage ConsumeArguments :=
  let usage : Usage ConsumeArguments := {
    title := "sqs-msg consume"
    about := "Receive messages and print them as JSON lines"
    operand := some (queueOperand fun queueUrl a => { a with queueUrl := some queueUrl })
    parameters := [
      { long := "concurrency", short := some 'n', valueName := "CONCURRENCY"
        summary := "Maximum number of messages handled at once", fallback := some "default: 1"
        put :=
          accepted "concurrency" "no number" natural64? fun n a => { a with concurrency := n } },
      { long := "retry-timeout", valueName := "RETRY_TIMEOUT"
        summary := "Visibility timeout applied to messages that failed, in seconds",
        fallback := some "default: 30"
        put :=
          accepted "retry-timeout" "no number" natural32?
            fun n a => { a with retryTimeoutSeconds := n } },
      { long := "wait-time", valueName := "WAIT_TIME"
        summary := "Long-poll wait per receive call, in seconds", fallback := some "default: 20"
        put := accepted "wait-time" "no number" natural32? fun n a => { a with waitSeconds := n } },
      { long := "shutdown-timeout", valueName := "SHUTDOWN_TIMEOUT"
        summary := "Time allowed for running handlers after Ctrl-C, in seconds",
        fallback := some "default: 30"
        put :=
          accepted "shutdown-timeout" "no number" natural64?
            fun n a => { a with shutdownTimeoutSeconds := n } },
      { long := "credential-retry-delay", valueName := "CREDENTIAL_RETRY_DELAY"
        summary := "Delay between retries of credential (HTTP 403) failures, in seconds"
        fallback := some "default: 2"
        put := accepted "credential-retry-delay" "no number" natural64? fun n a =>
          { a with credentialRetryDelaySeconds := n } },
      { long := "max-retries", valueName := "MAX_RETRIES"
        summary := "Maximum retries of a failed SQS call", fallback := some "default: 7"
        put :=
          accepted "max-retries" "no number" natural32? fun n a => { a with maxRetries := n } }] }
  usage.withHelp none

/-! ## The program -/

/-- What the program is to do. -/
inductive Command where
  | send (queueUrl : QueueUrl) (body : Option String) (attributes : List (String × String))
      (delaySeconds : Int)
  | consume (settings : ConsumerSettings) (shutdownTimeoutSeconds : UInt64)
deriving DecidableEq

/-- What is said before the command. -/
structure ProgramArguments where
  /-- The file of settings. -/
  config : Option String := none
  region : Option String := none
  endpoint : Option String := none
  /-- What is logged, unless the environment says. -/
  logLevel : String := "info"
  jsonLogs : Bool := false

/-- The arguments of the program. -/
structure Invocation where
  program : ProgramArguments
  command : Command

/-- The variable that names the file of settings. -/
def configVariable : String := "SQS_MSG_CONFIG"

/-- What the command does that explains the others. -/
def helpAbout : String := "Print this message or the help of the given subcommand(s)"

/-- The version of the program. -/
def versionText : String := "sqs-msg 0.1.0\n"

/-- The name of a file is not empty. -/
def putConfig (value : String) (a : ProgramArguments) : Except UsageError ProgramArguments :=
  if value = "" then .error (.noValue "config") else .ok { a with config := some value }

/-- The usage of the program in an environment. -/
def programUsage (environment : List (String × String)) : Usage ProgramArguments :=
  let usage : Usage ProgramArguments := {
    title := "sqs-msg"
    about := "Send to and consume from SQS queues"
    parameters := [
      { long := "config", short := some 'c', valueName := "CONFIG"
        summary := "Configuration file with SQS connection settings"
        fallback :=
          some ("env: " ++ configVariable ++ "=" ++ (environment.lookup configVariable).getD "")
        put := putConfig },
      { long := "region", valueName := "REGION", summary := "AWS region"
        put := text fun region a => { a with region := some region } },
      { long := "endpoint", valueName := "ENDPOINT",
        summary := "SQS endpoint, e.g. a local emulator"
        put := text fun endpoint a => { a with endpoint := some endpoint } },
      { long := "log-level", short := some 'l', valueName := "LOG_LEVEL"
        summary := "Logging level, used when RUST_LOG is not set", fallback := some "default: info"
        put := text fun logLevel a => { a with logLevel } },
      { long := "json-logs", kind := .switch, summary := "Enable JSON logging"
        put := fun _ a => .ok { a with jsonLogs := true } }]
    commands := [("send", sendUsage.about), ("consume", consumeUsage.about), ("help", helpAbout)] }
  usage.withHelp (some versionText)

/-- The page of the program, or of the command that is named. -/
def helpOn (environment : List (String × String)) : List String → UsageError
  | [] => .help (programUsage environment).page
  | ["send"] => .help sendUsage.page
  | ["consume"] => .help consumeUsage.page
  | ["help"] =>
    .help (helpAbout ++ "\n\nUsage: sqs-msg help [COMMAND]...\n\n" ++
      "Arguments:\n  [COMMAND]...  Print help for the subcommand(s)\n")
  | [name] => .unknownCommand name
  | command :: name :: _ =>
    .unknownCommand
      (if command = "send" ∨ command = "consume" ∨ command = "help" then name else command)

/-- The arguments of a command, all of them. -/
def readCommand {α : Type} (u : Usage α) (unset : α) (arguments : List String) :
    Except UsageError α := do
  let (r, _) ← Reading.read u { record := unset } arguments
  let r ← r.settle
  pure r.record

/-- A command needs its queue. -/
def required (queueUrl : Option QueueUrl) : Except UsageError QueueUrl :=
  match queueUrl with
  | some queueUrl => .ok queueUrl
  | none => .error (.missingOperand "QUEUE_URL")

/-- The command to send. -/
def readSend (arguments : List String) : Except UsageError Command := do
  let a ← readCommand sendUsage {} arguments
  pure (.send (← required a.queueUrl) a.body a.attributes.reverse a.delaySeconds)

/-- The settings of a consumer that arguments give. -/
def ConsumeArguments.settings (a : ConsumeArguments) (queueUrl : QueueUrl) : ConsumerSettings :=
  let settings : ConsumerSettings :=
    { queueUrl, maxConcurrency := a.concurrency, retryTimeoutSeconds := a.retryTimeoutSeconds }
  (settings.withWait a.waitSeconds).withCredentialRetry
    (.ofSeconds a.credentialRetryDelaySeconds.toNat) a.maxRetries

/-- The command to consume. -/
def readConsume (arguments : List String) : Except UsageError Command := do
  let a ← readCommand consumeUsage {} arguments
  pure (.consume (a.settings (← required a.queueUrl)) a.shutdownTimeoutSeconds)

/-- The command of a name. -/
def readNamed (environment : List (String × String)) (name : String) (arguments : List String) :
    Except UsageError Command :=
  if name = "help" then .error (helpOn environment arguments)
  else if name = "send" then readSend arguments
  else readConsume arguments

/-- The file of settings that the environment names.  It does not count if an argument names one. -/
def configFrom (environment : List (String × String)) (r : Reading ProgramArguments) :
    Option String :=
  if "config" ∈ r.given then none else environment.lookup configVariable

/-- What is said before the command, by arguments and by the environment. -/
def programArguments (environment : List (String × String)) (r : Reading ProgramArguments) :
    Except UsageError ProgramArguments :=
  match configFrom environment r with
  | some path => putConfig path r.record
  | none => .ok r.record

/-- The arguments of the program. -/
def readArguments (environment : List (String × String)) (arguments : List String) :
    Except UsageError Invocation := do
  let usage := programUsage environment
  let (r, command) ← Reading.read usage { record := {} } arguments
  let command ← match command with
    | some (name, rest) => (readNamed environment name rest).map some
    | none => pure none
  let r ← r.settle
  let program ← programArguments environment r
  match command with
  | some command => pure { program, command }
  | none =>
    if r.given = [] ∧ configFrom environment r = none then throw (.nothingGiven usage.page)
    else throw .missingCommand

end MessageQueue.CommandLine
