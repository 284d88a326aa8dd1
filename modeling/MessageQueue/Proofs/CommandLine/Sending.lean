import MessageQueue.Client.Unreachable
import MessageQueue.CommandLine.Run
import MessageQueue.Proofs.Attributes
import MessageQueue.Proofs.CommandLine.SendArguments

/-!
# The command to send

What is said of a message is sent in one request, with the values of each attribute together and the
delay brought within what a queue grants (`send_of_span`).  But the delay is made a span of time
before, and there are no spans for the longest delays that can be said.  Then nothing is sent
(`send_of_no_span`).  Nothing is done at all if the arguments cannot be read.

`run_send` puts this together, for the program and all its arguments.
-/

namespace MessageQueue.CommandLine

variable {body : Option String} {pairs : List (String × String)}

/-! ## What is sent -/

/-- The request that sends a message as it was said. -/
def parcel (queueUrl : QueueUrl) (body : String) (pairs : List (String × String))
    (delaySeconds : Int) :
    SendRequest where
  queueUrl
  body
  delaySeconds := UInt32.ofNat (min delaySeconds.toNat maxDelaySeconds)
  attributes := (Attributes.ofPairs pairs).toSend

/-- The delay of the request is the one that was said, within what a queue grants. -/
theorem parcel_delaySeconds (queueUrl : QueueUrl) (body : String) (pairs : List (String × String))
    (delaySeconds : Int) :
    ((parcel queueUrl body pairs delaySeconds).delaySeconds.toNat : Int) =
      max 0 (min 900 delaySeconds) := by
  have small : min delaySeconds.toNat maxDelaySeconds < 2 ^ 32 := by
    simp only [maxDelaySeconds]
    omega
  rw [parcel, UInt32.toNat_ofNat_of_lt' small, maxDelaySeconds]
  omega

/-- The attribute of a name has the values that were said of it, with commas between them. -/
theorem parcel_attribute (queueUrl : QueueUrl) (body : String) (pairs : List (String × String))
    (delaySeconds : Int) (name : String) :
    (parcel queueUrl body pairs delaySeconds).attributes.get? name =
      if Attributes.valuesIn pairs name = [] then none
      else some (.ofText (String.intercalate "," (Attributes.valuesIn pairs name))) := by
  rw [parcel, Attributes.get?_toSend, Attributes.all_ofPairs]

variable {m : Type → Type} [Monad m] (world : World m)

/-- Sends a request and prints what the queue calls the message. -/
def publish (client : Client) (request : SendRequest) : m Completion := do
  match ← (client.service world.transport).send request with
  | .error e => pure (.failed (.writer (.send e)))
  | .ok id =>
    world.print (id.text ++ "\n")
    pure .done

/-- Goes on with the body that was said, or else with the standard input, which must be a text. -/
def withBody (body : Option String) (next : String → m Completion) : m Completion :=
  match body with
  | some text => next text
  | none => do
    match ← world.input with
    | .error e => pure (.failed (.stream e))
    | .ok bytes =>
      match Utf8.decode? bytes with
      | none => pure (.failed (.writer (.serialization .invalidUtf8)))
      | some text => next text

theorem foldlM_addAttribute (pairs : List (String × String)) {w : Writer}
    (isOpen : w.closed = false) :
    pairs.foldlM (fun w (name, value) => w.addAttribute name value) w =
      .ok { w with attributes := pairs.foldl (fun a p => a.add p.1 p.2) w.attributes } := by
  induction pairs generalizing w with
  | nil => rfl
  | cons p rest ih =>
    obtain ⟨name, value⟩ := p
    have added : w.addAttribute name value =
        .ok { w with attributes := w.attributes.add name value } := by
      simp [Writer.addAttribute, Writer.whileOpen, isOpen]
    rw [List.foldlM_cons]
    simp only [added]
    exact ih isOpen

theorem prepared_writer (t : Topic) (pairs : List (String × String)) (delay : Span) :
    prepared t.writer pairs delay =
      .ok ⟨t.queueUrl, [], .ofPairs pairs, .ofSeconds (delay.secondsWithin maxDelaySeconds),
        false⟩ := by
  rw [prepared, foldlM_addAttribute pairs rfl]
  rfl

/-- A writer that was prepared, with octets in it. -/
def loaded (queueUrl : QueueUrl) (pairs : List (String × String)) (delaySeconds : Int)
    (bytes : Bytes) : Writer where
  queueUrl
  buffer := bytes
  attributes := .ofPairs pairs
  delay := .ofSeconds (Span.secondsWithin ⟨delaySeconds * 1000000000⟩ maxDelaySeconds)
  closed := false

variable {queueUrl : QueueUrl} {delaySeconds : Int}

theorem request_loaded (bytes : Bytes) :
    (loaded queueUrl pairs delaySeconds bytes).request =
      match Utf8.decode? bytes with
      | none => .error .invalidUtf8
      | some text => .ok (parcel queueUrl text pairs delaySeconds) := by
  have whole : Span.seconds ⟨delaySeconds * 1000000000⟩ = delaySeconds :=
    Int.mul_tdiv_cancel delaySeconds (by decide)
  cases decoded : Utf8.decode? bytes <;>
    simp only [Writer.request, loaded, Duration.seconds_ofSeconds, Span.secondsWithin, whole,
      parcel, decoded]

/-- What is done with a writer that holds a message. -/
def finish (client : Client) (w : Writer) : m Completion := do
  let (_, answer) ← w.close (client.service world.transport)
  match answer with
  | .error e => pure (.failed (.writer e))
  | .ok id =>
    world.print (id.text ++ "\n")
    pure .done

theorem finish_loaded [LawfulMonad m] (client : Client) (bytes : Bytes) :
    finish world client (loaded queueUrl pairs delaySeconds bytes) =
      match Utf8.decode? bytes with
      | none => pure (.failed (.writer (.serialization .invalidUtf8)))
      | some text => publish world client (parcel queueUrl text pairs delaySeconds) := by
  have begun : (loaded queueUrl pairs delaySeconds bytes).beginClose =
      .ok ({ loaded queueUrl pairs delaySeconds bytes with buffer := [], closed := true },
        (loaded queueUrl pairs delaySeconds bytes).request) := rfl
  simp only [finish, Writer.close, begun, request_loaded]
  cases Utf8.decode? bytes with
  | none => simp
  | some text =>
    simp only [publish, bind_assoc, pure_bind]
    refine bind_congr fun answer => ?_
    cases answer <;> rfl

section

variable {connection : ConnectionSettings} {client : Client}

/-- If the delay is a span, the message is put into a writer and finished. -/
theorem send_eq_finish (connected : Client.connect connection = .ok client)
    (span : delaySeconds.natAbs ≤ Span.maxMilliseconds / 1000) :
    send world connection queueUrl body pairs delaySeconds =
      (match body with
        | some text => pure (.ok (Utf8.encode text))
        | none => world.input) >>= fun content =>
        match content with
        | .error e => pure (.failed (.stream e))
        | .ok bytes => finish world client (loaded queueUrl pairs delaySeconds bytes) := by
  have some_span : Span.ofSeconds? delaySeconds = some ⟨delaySeconds * 1000000000⟩ := if_pos span
  simp only [send, Topic.connect, connected, some_span, prepared_writer]
  cases body <;> rfl

/-- If the delay is a span, what was said is sent in one request. -/
theorem send_of_span [LawfulMonad m] (connected : Client.connect connection = .ok client)
    (span : delaySeconds.natAbs ≤ Span.maxMilliseconds / 1000) :
    send world connection queueUrl body pairs delaySeconds =
      withBody world body fun text =>
        publish world client (parcel queueUrl text pairs delaySeconds) := by
  rw [send_eq_finish world connected span]
  cases body with
  | some text => simp [finish_loaded, Utf8.decode?_encode, withBody]
  | none => simp only [finish_loaded, withBody]

/-- If it is none, nothing is read or sent. -/
theorem send_of_no_span (connected : Client.connect connection = .ok client)
    (long : Span.maxMilliseconds / 1000 < delaySeconds.natAbs) :
    send world connection queueUrl body pairs delaySeconds = pure .delayOutOfRange := by
  have spanless : Span.ofSeconds? delaySeconds = none := if_neg (Nat.not_le.mpr long)
  simp only [send, Topic.connect, connected, spanless]

end

/-! ## The program -/

/-- What stands before the command, and what the program is told by it. -/
def Introduces (environment : List (String × String)) (front : List String)
    (program : ProgramArguments) : Prop :=
  ∃ r s, Reading.read (programUsage environment) { record := {} } (front ++ ["send"]) = .ok (r,
    some ("send", [])) ∧
    r.settle = .ok s ∧ programArguments environment s = .ok program

/-- Goes on with a client for the connection settings that the program is given. -/
def withClient (environment : List (String × String)) (a : ProgramArguments)
    (next : Client → m Completion) :
    m Completion :=
  withSettings world environment a fun connection =>
    match Client.connect connection with
    | .error e => pure (.failed (.queue e))
    | .ok client => next client

section

variable {environment : List (String × String)} {front : List String} {program : ProgramArguments}

/-- A command that is refused is refused before anything that stands in front of it. -/
theorem readArguments_of_introduces (introduced : Introduces environment front program)
    (arguments : List String) :
    readArguments environment (front ++ "send" :: arguments) =
      (readSend arguments).map fun command => ⟨program, command⟩ := by
  obtain ⟨r, s, read, settled, said⟩ := introduced
  have named : readNamed environment "send" arguments = readSend arguments := rfl
  rw [readArguments, Reading.read_of_command read]
  simp only [bind, Except.bind, named]
  cases readSend arguments with
  | error e => rfl
  | ok command => simp only [Except.map, settled, said]; rfl

theorem run_of_read (introduced : Introduces environment front program) {arguments : List String}
    {command : Command} (read : readSend arguments = .ok command) (steps : Nat) :
    run world environment (front ++ "send" :: arguments) steps =
      withSettings world environment program (command.execute world steps) := by
  rw [run, readArguments_of_introduces introduced, read]
  rfl

theorem run_of_refused (introduced : Introduces environment front program) {arguments : List String}
    {e : UsageError}
    (refused : readSend arguments = .error e) (unwanted : e.wanted = false) (steps : Nat) :
    run world environment (front ++ "send" :: arguments) steps = pure (.usage e) := by
  rw [run, readArguments_of_introduces introduced, refused]
  simp only [Except.map, unwanted]
  rfl

/-- What the command does under settings is what it does with a client for them. -/
theorem withSettings_send {next : Client → m Completion} {queueUrl : QueueUrl} {delaySeconds : Int}
    (sent : ∀ connection client, Client.connect connection = .ok client →
      send world connection queueUrl body pairs delaySeconds = next client) (steps : Nat) :
    withSettings world environment program
      ((Command.send queueUrl body pairs delaySeconds).execute world steps) =
      withClient world environment program next := by
  refine congrArg (withSettings world environment program) (funext fun connection => ?_)
  cases connected : Client.connect connection with
  | error e => simp only [Command.execute, send, Topic.connect, connected]
  | ok client => exact sent connection client connected

/-- The command publishes what its arguments say.  If the delay is a span of time, the program goes
on to a client and the body and then makes one request.  This holds the queue and the body, the
delay within what a queue grants, and under the name of each attribute all the values that were said
of it, in order and with commas between them.  If it is not too large, it is posted in one call.  If
the delay is no span, the program ends without any request.  An attribute without a name or an
equals sign is refused, and the program has done nothing. -/
theorem run_send (introduced : Introduces environment front program) {items : List SendItem}
    {arguments : List String}
    (spelled : Spells sendUsage (items.map SendItem.item) arguments) [LawfulMonad m] (steps : Nat) :
    (∀ queueUrl body pairs delay, Say items (some queueUrl) body pairs delay →
      let seconds := delay.getD 0
      (seconds.natAbs ≤ 9223372036854775 →
        run world environment (front ++ "send" :: arguments) steps =
          withClient world environment program fun client =>
            withBody world body fun text =>
              publish world client (parcel queueUrl text pairs seconds)) ∧
      (9223372036854775 < seconds.natAbs →
        run world environment (front ++ "send" :: arguments) steps =
          withClient world environment program fun _ => pure .delayOutOfRange)) ∧
    (∀ queueUrl text pairs seconds,
      let request := parcel queueUrl text pairs seconds
      request.queueUrl = queueUrl ∧ request.body = text ∧
      (request.delaySeconds.toNat : Int) = max 0 (min 900 seconds) ∧
      (∀ name, request.attributes.get? name =
        if Attributes.valuesIn pairs name = [] then none
        else some (.ofText (String.intercalate "," (Attributes.valuesIn pairs name)))) ∧
      (request.size ≤ maxMessageSize →
        ∀ client : Client, (client.service world.transport).send request = do
        return Client.reading Answer.sent
          (← client.call world.transport "SendMessage" (.send request)))) ∧
    (∀ raw, .pair raw ∈ items → Unnamed raw → (items.filterMap SendItem.queue?).length ≤ 1 →
      ∃ e, e.wanted = false ∧
        run world environment (front ++ "send" :: arguments) steps = pure (.usage e)) := by
  refine ⟨?sent, ?described, ?refused⟩
  case sent =>
    intro queueUrl body pairs delay say seconds
    have read := readSend_of_spells say spelled
    constructor
    · intro span
      rw [run_of_read world introduced read]
      exact withSettings_send world (fun _ _ connected => send_of_span world connected span) steps
    · intro long
      rw [run_of_read world introduced read]
      exact withSettings_send world (fun _ _ connected => send_of_no_span world connected long)
        steps
  case described =>
    intro queueUrl text pairs seconds request
    refine ⟨rfl, rfl, parcel_delaySeconds queueUrl text pairs seconds,
      parcel_attribute queueUrl text pairs seconds, ?_⟩
    intro small client
    exact if_neg (Nat.not_lt.mpr small)
  case refused =>
    intro raw said unnamed single
    obtain ⟨e, refused, unwanted⟩ := readSend_of_unnamed single spelled said unnamed
    exact ⟨e, unwanted, run_of_refused world introduced refused unwanted steps⟩

end

/-- A world in which nothing listens, nothing is stored and nothing is said. -/
def World.deserted : World Id where
  transport := .unreachable (pure ⟨0⟩) fun _ _ => pure ()
  fileContent _ := pure none
  input := pure (.ok [])
  print _ := pure ()
  interrupted := pure false

/-- A negative delay, and an attribute with two values, the first of which holds an equals sign. -/
theorem run_send_of_two_values :
    ∃ request : SendRequest,
      request.body = "x" ∧ request.delaySeconds = 0 ∧
        request.attributes.get? "k" = some (.ofText "a=b,c") ∧
      run World.deserted []
        ["--region=eu-west-1", "send", "http://localhost:9324/queue/default", "-ak=a=b",
          "--delay", "-5", "--attribute=k=c", "-b", "x"] 0 =
        withClient World.deserted [] { region := some "eu-west-1" } fun client =>
          publish World.deserted client request := by
  have introduced : Introduces [] ["--region=eu-west-1"] { region := some "eu-west-1" } :=
    ⟨_, _, rfl, rfl, rfl⟩
  let queueUrl : QueueUrl := ⟨"http://localhost:9324/queue/default", by decide +kernel⟩
  let items : List SendItem := [.queue queueUrl, .pair "k=a=b", .delay "-5", .pair "k=c", .body "x"]
  let pairs := [("k", "a=b"), ("k", "c")]
  have say : Say items (some queueUrl) (some "x") pairs (some (-5)) :=
    ⟨rfl, rfl, rfl, by decide, by decide⟩
  have spelled : Spells sendUsage (items.map SendItem.item)
      ["http://localhost:9324/queue/default", "-ak=a=b", "--delay", "-5", "--attribute=k=c", "-b",
        "x"] := by
    have plain : Word.ofArgument "x" = .plain := by decide
    have number : Word.ofArgument "-5" = .short ['5'] := by decide
    refine .operand rfl (ofArgument_queueUrl queueUrl)
      (.joined nofun ?_ (.apart nofun ?_ ?_ (.joined nofun ?_ (.apart nofun ?_ ?_ .nil))))
    · have word : Word.ofArgument "-ak=a=b" = .short ['a', 'k', '=', 'a', '=', 'b'] := by decide
      rw [word]
      exact .letterValue rfl (by decide) ['=', 'a', '=', 'b']
    · exact .long rfl none
    · rw [Parameter.takes, number]
      exact ⟨rfl, rfl⟩
    · exact .long rfl (some "k=c")
    · exact .letter rfl
    · rw [Parameter.takes, plain]
      trivial
  obtain ⟨sent, -, -⟩ := run_send World.deserted introduced spelled 0
  refine ⟨parcel queueUrl "x" pairs (-5), rfl, by decide, by decide +kernel, ?_⟩
  exact (sent queueUrl (some "x") pairs (some (-5)) say).1 (by decide)

/-- The longest delay that can be said would be brought to a quarter of an hour.  But there is no
span so long, and the program breaks off. -/
theorem longest_delay_not_sent :
    let queueUrl : QueueUrl := ⟨"http://localhost:9324/queue/default", by decide +kernel⟩
    let arguments := [queueUrl.text, "-b", "x", "-d", "9223372036854775807"]
    readSend arguments = .ok (.send queueUrl (some "x") [] 9223372036854775807) ∧
      (parcel queueUrl "x" [] 9223372036854775807).delaySeconds = 900 ∧
      Id.run (run World.deserted [] ("send" :: arguments) 0) = .delayOutOfRange ∧
      Completion.delayOutOfRange.exitCode = 101 := by
  decide +kernel

end MessageQueue.CommandLine
