import MessageQueue.Json.Reader
import MessageQueue.Settings.Connection
import MessageQueue.Settings.Consumer
import MessageQueue.Settings.Toml
import MessageQueue.Settings.Yaml

/-!
# Where settings come from

Connection settings come from a file, if one is named, and else from the environment; arguments for
the region and the address win over both, and only what comes out is validated.  The format of a
file follows from the end of its name.  In the environment an empty variable is as good as none.
-/

namespace MessageQueue

/-! ## Fields -/

namespace Setting

/-- Reads a field, which may be missing if it has a default. -/
def field {α : Type} (members : List (String × Setting)) (name : String) (read : Setting → Option α)
    (default : Option α) : Option α :=
  match member? name members with
  | some s => read s
  | none => default

/-- A number of 32 bits. -/
def toCount32? (s : Setting) : Option UInt32 := (s.toNat? (Nat.pow 2 32)).map UInt32.ofNat

/-- A number of 64 bits. -/
def toCount64? (s : Setting) : Option UInt64 := (s.toNat? (Nat.pow 2 64)).map UInt64.ofNat

end Setting

namespace ConnectionSettings

/-- The settings in a table. -/
def ofMembers? (members : List (String × Setting)) : Option ConnectionSettings := do
  let unset : ConnectionSettings := {}
  let region ← Setting.field members "region" Setting.toText? unset.region
  let endpoint ← Setting.field members "endpoint" Setting.toOptionalText? (some none)
  let accessKeyId ← Setting.field members "access_key_id" Setting.toOptionalText? (some none)
  let secretAccessKey ← Setting.field members "secret_access_key" Setting.toOptionalText?
      (some none)
  let sessionToken ← Setting.field members "session_token" Setting.toOptionalText? (some none)
  let requestTimeoutSeconds ←
    Setting.field members "request_timeout_seconds" Setting.toCount64? unset.requestTimeoutSeconds
  pure { region, endpoint, accessKeyId, secretAccessKey, sessionToken, requestTimeoutSeconds }

end ConnectionSettings

namespace CredentialSettings

/-- The settings in a table. -/
def ofSetting? (s : Setting) : Option CredentialSettings := do
  let members ← s.toTable?
  let unset : CredentialSettings := {}
  let delaySeconds ← Setting.field members "delay_seconds" Setting.toCount64? unset.delaySeconds
  let maxAttempts ← Setting.field members "max_attempts" Setting.toCount32? unset.maxAttempts
  pure { delaySeconds, maxAttempts }

end CredentialSettings

namespace ConsumerSettings

/-- The settings in a table. -/
def ofMembers? (members : List (String × Setting)) : Option ConsumerSettings := do
  let url ← Setting.field members "queue_url" Setting.toText? none
  let queueUrl ← (QueueUrl.parse url).toOption
  let unset : ConsumerSettings := { queueUrl }
  let maxConcurrency ← Setting.field members "max_concurrency" Setting.toCount64?
      unset.maxConcurrency
  let retryTimeoutSeconds ←
    Setting.field members "retry_timeout_seconds" Setting.toCount32? unset.retryTimeoutSeconds
  let maxMessages ← Setting.field members "max_messages" Setting.toCount32? unset.maxMessages
  let waitSeconds ← Setting.field members "wait_time_seconds" Setting.toCount32? unset.waitSeconds
  let shutdownPollMilliseconds ←
    Setting.field members "shutdown_poll_interval_ms" Setting.toCount64?
      unset.shutdownPollMilliseconds
  let credentialRetry ←
    Setting.field members "credential_retry" CredentialSettings.ofSetting? unset.credentialRetry
  pure { queueUrl, maxConcurrency, retryTimeoutSeconds, maxMessages, waitSeconds,
         shutdownPollMilliseconds, credentialRetry }

end ConsumerSettings

/-! ## Files -/

/-- The formats of files. -/
inductive SettingsFormat where
  | json
  | toml
  | yaml
deriving DecidableEq, Repr

namespace SettingsFormat

/-- The end of a file's name behind its last full stop, which must not be its first character. -/
def extension? (path : String) : Option String :=
  let name := (path.toList.reverse.takeWhile (· ≠ '/')).reverse
  let back := name.reverse
  match back.dropWhile (· ≠ '.') with
  | _ :: _ :: _ => some (String.ofList (back.takeWhile (· ≠ '.')).reverse)
  | _ => none

/-- The format that a file's name asks for. -/
def ofPath? (path : String) : Option SettingsFormat :=
  match extension? path with
  | some "json" => some json
  | some "toml" => some toml
  | some "yaml" => some yaml
  | some "yml" => some yaml
  | _ => none

/-- The table that a text in the format holds. -/
def read? (format : SettingsFormat) (text : String) : Option (List (String × Setting)) :=
  let members := match format with
    | json => ((Json.read? text).bind (Setting.ofJson? 127)).bind Setting.toTable?
    | toml => Toml.read? text
    | yaml => Yaml.read? text
  members.map Setting.resolve

end SettingsFormat

/-- A file that is named as the source of settings. -/
structure SettingsFile where
  path : String
  /-- What it holds; absent if there is no such file. -/
  content : Option String

namespace ConnectionSettings

/-- The value of an environment variable, whose name may be in any case.  Of several spellings the
last one counts. -/
def variableOf (environment : List (String × String)) (name : String) : Option String :=
  match environment.reverse.find? fun v => v.1.map Char.toLower = name with
  | some (_, value) => if value = "" then none else some value
  | none => none

/-- The settings that the environment gives. -/
def ofEnvironment (environment : List (String × String)) : ConnectionSettings :=
  let unset : ConnectionSettings := {}
  { region := (variableOf environment "aws_region").getD unset.region
    endpoint := variableOf environment "sqs_endpoint"
    accessKeyId := variableOf environment "aws_access_key_id"
    secretAccessKey := variableOf environment "aws_secret_access_key"
    sessionToken := variableOf environment "aws_session_token"
    requestTimeoutSeconds := unset.requestTimeoutSeconds }

/-- The settings that a file holds. -/
def ofFile (file : SettingsFile) : Except ConfigurationError ConnectionSettings :=
  match file.content with
  | none => .error (.missing file.path)
  | some text =>
    match SettingsFormat.ofPath? file.path with
    | none =>
      .error
        (.parsing ("configuration file \"" ++ file.path ++ "\" is not of a registered file format"))
    | some format =>
      match (format.read? text).bind ofMembers? with
      | some settings => .ok settings
      | none => .error (.parsing ("cannot read settings from \"" ++ file.path ++ "\""))

/-- The settings with the arguments that are given in place of theirs. -/
def override (s : ConnectionSettings) (region endpoint : Option String) : ConnectionSettings :=
  { s with region := region.getD s.region, endpoint := endpoint.orElse fun _ => s.endpoint }

/-- The settings from their source, overridden by arguments and validated. -/
def load (file : Option SettingsFile) (region endpoint : Option String)
    (environment : List (String × String)) : Except ConfigurationError ConnectionSettings := do
  let source ← match file with
    | some file => ofFile file
    | none => pure (ofEnvironment environment)
  let settings := source.override region endpoint
  settings.validate
  pure settings

end ConnectionSettings
end MessageQueue
