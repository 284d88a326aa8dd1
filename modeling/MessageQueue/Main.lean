import MessageQueue.Client.Unreachable
import MessageQueue.CommandLine.Run

/-!
# The program

The outermost layer: standard streams, files, the environment and pauses.  No connection can be
opened from here, so every request is answered as if nothing listened at its address.
-/

namespace MessageQueue.Program

open CommandLine

/-- The variables of the environment that the program reads. -/
def variableNames : List String :=
  ["AWS_REGION", "SQS_ENDPOINT", "AWS_ACCESS_KEY_ID", "AWS_SECRET_ACCESS_KEY", "AWS_SESSION_TOKEN",
    "RUST_LOG", configVariable]

/-- The variables that are set, with their values. -/
def environment : IO (List (String × String)) :=
  variableNames.filterMapM fun name => do return (← IO.getEnv name).map fun value => (name, value)

/-- The milliseconds of a number of seconds. -/
def milliseconds (seconds : Float) : Nat := (seconds * 1000).toUInt64.toNat

/-- Waits for a pause. -/
def rest : Option Pause → IO Unit
  | some (.exact d) => IO.sleep (UInt32.ofNat (min d.milliseconds (Nat.pow 2 32 - 1)))
  | some (.jittered least greatest) => do
    IO.sleep (UInt32.ofNat (← IO.rand (milliseconds least) (milliseconds greatest)))
  | _ => pure ()

/-- What a file holds, if it can be read. -/
def fileContent (path : String) : IO (Option String) := do
  try
    return some (Utf8.decodeLossy (← IO.FS.readBinFile path).toList)
  catch _ => return none

/-- The rest of a stream after what has been read. -/
partial def restOf (stream : IO.FS.Stream) (before : ByteArray) : IO ByteArray := do
  let more ← stream.read 65536
  if more.isEmpty then return before else restOf stream (before ++ more)

/-- The standard input, to its end. -/
def input : IO (Except String Bytes) := do
  try
    return .ok (← restOf (← IO.getStdin) .empty).toList
  catch e => return .error (toString e)

/-- Writes to the standard output. -/
def print (text : String) : IO Unit := do
  let output ← IO.getStdout
  output.putStr text
  output.flush

/-- The world of a process. -/
def world : World IO where
  transport := .unreachable (pure ⟨0⟩) fun _ pause => rest pause
  fileContent
  input
  print
  interrupted := pure false

/-- The most steps of a consumer. -/
def steps : Nat := Nat.pow 2 62

end MessageQueue.Program

open MessageQueue in
/-- The program. -/
def main (arguments : List String) : IO UInt32 := do
  let completion ← CommandLine.run Program.world (← Program.environment) arguments Program.steps
  (← IO.getStderr).putStr completion.complaint
  return completion.exitCode.toUInt32
