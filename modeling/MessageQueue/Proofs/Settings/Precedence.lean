import MessageQueue.Settings.Source

/-!
# Which settings count

Settings come from one source: from a file if one is named, and else from the environment
(`ofSource`).  What is read there is overridden by the arguments, and only then checked
(`load_eq_ok`, `load_eq_error`).  So a file leaves nothing to the environment, and an argument can
repair what is wrong with a source, or spoil it.

In the environment an empty variable is as good as none (`variableOf_without`), unless its name is
there once more in another spelling: of several spellings the last one counts, also when it is empty
(`emptied_not_unset`).  In a file, and as an argument, an empty region is a region, and a wrong one.

`load_precedence` puts this together.
-/

namespace MessageQueue.ConnectionSettings

/-! ## The environment -/

/-- Whether a variable has one of these names, in any case. -/
def hasName (names : List String) (v : String × String) : Bool :=
  names.any fun name => name.map Char.toLower = v.1.map Char.toLower

/-- The environment without the variables of these names. -/
def without (names : List String) (environment : List (String × String)) : List (String × String) :=
  environment.filter fun v => !hasName names v

section

variable {names : List String} {environment : List (String × String)}

/-- Variables that are empty may as well not be there.  If the one that counts is among them it
gives no value, like one that is missing; every other is found where it was. -/
theorem variableOf_without (empty : ∀ v ∈ environment, hasName names v = true → v.2 = "")
    (name : String) :
    variableOf environment name = variableOf (without names environment) name := by
  have kept : (without names environment).reverse.find? (fun v => v.1.map Char.toLower = name) =
      environment.reverse.find? fun v =>
        !hasName names v && decide (v.1.map Char.toLower = name) := by
    rw [without, ← List.filter_reverse, List.find?_filter]
    congr
    simp
  rw [variableOf, variableOf, kept]
  by_cases listed : name ∈ names.map (String.map Char.toLower)
  · have named : ∀ v : String × String, v.1.map Char.toLower = name → hasName names v = true := by
      rintro v rfl
      simpa [hasName] using listed
    have gone : environment.reverse.find?
        (fun v => !hasName names v && decide (v.1.map Char.toLower = name)) = none := by
      rw [List.find?_eq_none]
      intro v _
      simp only [Bool.and_eq_true, Bool.not_eq_true', decide_eq_true_eq, not_and]
      intro other same
      exact absurd (named v same) (by simp [other])
    rw [gone]
    cases found : environment.reverse.find? fun v => v.1.map Char.toLower = name with
    | none => rfl
    | some v =>
      have member := List.mem_reverse.mp (List.mem_of_find?_eq_some found)
      have same := List.find?_some found
      simp [empty v member (named v (by simpa using same))]
  · have other : ∀ v : String × String, v.1.map Char.toLower = name → hasName names v = false := by
      rintro v rfl
      simpa [hasName] using listed
    have same :
        (fun v : String × String => !hasName names v && decide (v.1.map Char.toLower = name)) =
        fun v => decide (v.1.map Char.toLower = name) := by
      funext v
      by_cases h : v.1.map Char.toLower = name <;> simp [h, other v]
    rw [same]

/-- So the environment gives the same settings without them. -/
theorem ofEnvironment_without (empty : ∀ v ∈ environment, hasName names v = true → v.2 = "") :
    ofEnvironment environment = ofEnvironment (without names environment) := by
  simp only [ofEnvironment, variableOf_without empty]

variable {before after : List (String × String)} {name : String}

/-- A single empty variable is passed over unless it hides a value.  It hides none if its name
comes once more after it, or if what comes before it gives the name no value. -/
theorem variableOf_emptied
    (hidden : variableOf before (name.map Char.toLower) = none ∨
      ∃ v ∈ after, hasName [name] v = true) (key : String) :
    variableOf (before ++ (name, "") :: after) key = variableOf (before ++ after) key := by
  simp only [variableOf, List.reverse_append, List.reverse_cons, List.append_assoc,
    List.find?_append]
  cases later : after.reverse.find? fun v => v.1.map Char.toLower = key with
  | some v => rfl
  | none =>
    by_cases named : name.map Char.toLower = key
    · have last : ¬ ∃ v ∈ after, hasName [name] v = true := by
        rintro ⟨v, member, spelled⟩
        have other := List.find?_eq_none.mp later v (List.mem_reverse.mpr member)
        simp [hasName, named] at spelled
        simp [spelled] at other
      subst named
      simpa [variableOf, eq_comm] using hidden.resolve_right last
    · simp [named]

/-- So the environment gives the same settings without it. -/
theorem ofEnvironment_emptied
    (hidden : variableOf before (name.map Char.toLower) = none ∨
      ∃ v ∈ after, hasName [name] v = true) :
    ofEnvironment (before ++ (name, "") :: after) = ofEnvironment (before ++ after) := by
  simp only [ofEnvironment, variableOf_emptied hidden]

end

/-! ## The source and the arguments -/

/-- The settings that the source gives, before any argument counts. -/
def ofSource (file : Option SettingsFile) (environment : List (String × String)) :
    Except ConfigurationError ConnectionSettings :=
  match file with
  | some file => ofFile file
  | none => .ok (ofEnvironment environment)

section

variable {file : Option SettingsFile} {region endpoint : Option String}
  {environment : List (String × String)}

/-- What cannot be read is refused for that, whatever the arguments are. -/
theorem load_of_unread {e : ConfigurationError} (unread : ofSource file environment = .error e) :
    load file region endpoint environment = .error e := by
  cases file with
  | some file =>
    have : ofFile file = .error e := unread
    simp [load, this, bind, Except.bind]
  | none => cases unread

variable {s : ConnectionSettings}

/-- What is read is overridden, and the outcome is that of checking it. -/
theorem load_of_read (read : ofSource file environment = .ok s) :
    load file region endpoint environment =
      (s.override region endpoint).validate.map fun _ => s.override region endpoint := by
  have checked (t : ConnectionSettings) : (do t.validate; pure t) = t.validate.map fun _ => t := by
    cases t.validate <;> rfl
  cases file with
  | some file =>
    have : ofFile file = .ok s := read
    simpa [load, this, bind, Except.bind] using checked _
  | none =>
    cases read
    exact checked _

/-- An argument wins over the source, and what there is no argument for stays as it was read. -/
theorem override_eq : s.override region endpoint =
    { s with region := region.getD s.region, endpoint := endpoint.or s.endpoint } := by
  cases endpoint <;> rfl

/-- Settings are given only if the merged ones have nothing wrong, and then those are. -/
theorem load_eq_ok (read : ofSource file environment = .ok s) (r : ConnectionSettings) :
    load file region endpoint environment = .ok r ↔
      (s.override region endpoint).validate = .ok () ∧ r = s.override region endpoint := by
  rw [load_of_read read]
  cases (s.override region endpoint).validate with
  | ok u => simp [Except.map, eq_comm]
  | error e => simp [Except.map]

/-- They are refused for what is wrong with the merged ones. -/
theorem load_eq_error (read : ofSource file environment = .ok s) (e : ConfigurationError) :
    load file region endpoint environment = .error e ↔
      (s.override region endpoint).validate = .error e := by
  rw [load_of_read read]
  cases (s.override region endpoint).validate <;> simp [Except.map]

/-- Settings have nothing wrong if there is a region, the key and its secret come together, and a
request may take longer than the longest wait. -/
theorem validate_eq_ok : s.validate = .ok () ↔
    s.region ≠ "" ∧ s.accessKeyId.isSome = s.secretAccessKey.isSome ∧
      maxWaitSeconds.toNat < s.requestTimeoutSeconds.toNat := by
  rw [validate, fault?]
  by_cases region : s.region = ""
  · simp [region]
  by_cases together : s.accessKeyId.isSome = s.secretAccessKey.isSome
  · by_cases short : s.requestTimeoutSeconds.toNat ≤ maxWaitSeconds.toNat
    · simp [region, together, short]
    · simp [region, together, short, Nat.lt_of_not_le short]
  · simp [region, together]

/-- An empty region is what is refused first. -/
theorem validate_of_regionless (regionless : s.region = "") :
    s.validate = .error (.missing "region") := by
  simp [validate, fault?, regionless]

end

/-! ## Precedence -/

/-- A file replaces the environment, in which variables that are empty in every spelling count like
missing ones, and so does a single empty one unless it hides another spelling.  What the source
gives is overridden by the arguments and then checked: if the merged settings have nothing wrong
they are the outcome, and else the outcome is what is wrong with them.  So a region that is given
repairs a source that has none, and an empty one is refused for every source.  A source that cannot
be read is refused for that, a missing file first of all. -/
theorem load_precedence :
    (∀ (file : SettingsFile) (region endpoint : Option String)
        (environment environment' : List (String × String)),
      load (some file) region endpoint environment =
        load (some file) region endpoint environment') ∧
    (∀ (names : List String) (region endpoint : Option String)
        (environment : List (String × String)),
      (∀ v ∈ environment, hasName names v = true → v.2 = "") →
        load none region endpoint environment =
          load none region endpoint (without names environment)) ∧
    (∀ (before after : List (String × String)) (name : String) (region endpoint : Option String),
      variableOf before (name.map Char.toLower) = none ∨ (∃ v ∈ after, hasName [name] v = true) →
        load none region endpoint (before ++ (name, "") :: after) =
          load none region endpoint (before ++ after)) ∧
    (∀ (file : Option SettingsFile) (region endpoint : Option String)
        (environment : List (String × String)) (s merged : ConnectionSettings),
      ofSource file environment = .ok s →
      merged = { s with region := region.getD s.region, endpoint := endpoint.or s.endpoint } →
        (∀ r, load file region endpoint environment = .ok r ↔
          merged.validate = .ok () ∧ r = merged) ∧
        (∀ e, load file region endpoint environment = .error e ↔ merged.validate = .error e)) ∧
    (∀ (file : Option SettingsFile) (given : String) (endpoint : Option String)
        (environment : List (String × String)) (s : ConnectionSettings),
      ofSource file environment = .ok s →
        ((∃ r, load file (some given) endpoint environment = .ok r) ↔
          given ≠ "" ∧ s.accessKeyId.isSome = s.secretAccessKey.isSome ∧
            maxWaitSeconds.toNat < s.requestTimeoutSeconds.toNat) ∧
        load file (some "") endpoint environment = .error (.missing "region") ∧
        (s.region = "" → load file none endpoint environment = .error (.missing "region"))) ∧
    (∀ (file : Option SettingsFile) (region endpoint : Option String)
        (environment : List (String × String)) (e : ConfigurationError),
      ofSource file environment = .error e → load file region endpoint environment = .error e) ∧
    (∀ (path : String) (region endpoint : Option String) (environment : List (String × String)),
      load (some ⟨path, none⟩) region endpoint environment = .error (.missing path)) := by
  refine ⟨?replaced, ?passedOver, ?emptied, ?merged, ?repaired, ?unread, ?missing⟩
  case replaced =>
    intro file region endpoint environment environment'
    rfl
  case passedOver =>
    intro names region endpoint environment empty
    have same : ofSource none (without names environment) = .ok (ofEnvironment environment) := by
      rw [ofEnvironment_without empty, ofSource]
    rw [load_of_read same, load_of_read rfl]
  case emptied =>
    intro before after name region endpoint hidden
    have same : ofSource none (before ++ after) =
        .ok (ofEnvironment (before ++ (name, "") :: after)) := by
      rw [ofEnvironment_emptied hidden, ofSource]
    rw [load_of_read same, load_of_read rfl]
  case merged =>
    rintro file region endpoint environment s _ read rfl
    rw [← override_eq]
    exact ⟨load_eq_ok read, load_eq_error read⟩
  case repaired =>
    intro file given endpoint environment s read
    refine ⟨?_, ?_, ?_⟩
    · simp only [load_eq_ok read, validate_eq_ok, exists_and_left, exists_eq, and_true]
      rfl
    · rw [load_eq_error read]
      exact validate_of_regionless rfl
    · intro regionless
      rw [load_eq_error read]
      exact validate_of_regionless regionless
  case unread =>
    intro file region endpoint environment e unread
    exact load_of_unread unread
  case missing =>
    intro path region endpoint environment
    exact load_of_unread rfl

/-- An environment in which a variable is empty in two spellings. -/
def partlyEmpty : List (String × String) :=
  [("AWS_REGION", ""), ("SQS_ENDPOINT", "http://localhost:9324"), ("aws_region", "")]

/-- The environment is as good as one without the empty variable, in both spellings or in the first
of them, and an argument stands in for the region. -/
theorem load_precedence_partlyEmpty :
    load none none none partlyEmpty =
      load none none none [("SQS_ENDPOINT", "http://localhost:9324")] ∧
      load none none none partlyEmpty =
        load none none none [("SQS_ENDPOINT", "http://localhost:9324"), ("aws_region", "")] ∧
      (∃ r, load none (some "eu-west-1") none partlyEmpty = .ok r) ∧
      load none (some "") none partlyEmpty = .error (.missing "region") ∧
      load (some ⟨"absent.json", none⟩) none none partlyEmpty =
        .error (.missing "absent.json") := by
  obtain ⟨-, passedOver, emptied, -, repaired, -, missing⟩ := load_precedence
  have upper : "AWS_REGION".map Char.toLower = "aws_region" := by decide +kernel
  have lower : "aws_region".map Char.toLower = "aws_region" := by decide +kernel
  have other : "SQS_ENDPOINT".map Char.toLower = "sqs_endpoint" := by decide +kernel
  have empty : ∀ v ∈ partlyEmpty, hasName ["AWS_REGION"] v = true → v.2 = "" := by
    simp [partlyEmpty, hasName, upper, other]
  have left : without ["AWS_REGION"] partlyEmpty = [("SQS_ENDPOINT", "http://localhost:9324")] := by
    simp [without, partlyEmpty, hasName, upper, lower, other]
  have same := passedOver ["AWS_REGION"] none none partlyEmpty empty
  have unkeyed : (ofEnvironment partlyEmpty).accessKeyId = none ∧
      (ofEnvironment partlyEmpty).secretAccessKey = none := by
    simp [ofEnvironment, variableOf, partlyEmpty, upper, lower, other]
  have together : (ofEnvironment partlyEmpty).accessKeyId.isSome =
      (ofEnvironment partlyEmpty).secretAccessKey.isSome := by rw [unkeyed.1, unkeyed.2]
  have patient : maxWaitSeconds.toNat <
      (ofEnvironment partlyEmpty).requestTimeoutSeconds.toNat := by
    decide
  obtain ⟨given, regionless, -⟩ :=
    repaired none "eu-west-1" none partlyEmpty (ofEnvironment partlyEmpty) rfl
  rw [left] at same
  have first := emptied [] [("SQS_ENDPOINT", "http://localhost:9324"), ("aws_region", "")]
    "AWS_REGION" none none (.inr ⟨("aws_region", ""), by simp, by simp [hasName, upper, lower]⟩)
  exact ⟨same, first, given.mpr ⟨by decide, together, patient⟩, regionless,
    missing "absent.json" none none partlyEmpty⟩

/-- Of two spellings the last one counts.  So an empty variable hides the other spelling of its
name, which counts if the variable is left unset. -/
theorem emptied_not_unset :
    let region (environment : List (String × String)) :=
      (load none none none environment).toOption.map ConnectionSettings.region
    region [("aws_region", "us-east-1"), ("AWS_REGION", "")] = some "us-west-2" ∧
      region [("aws_region", "us-east-1")] = some "us-east-1" ∧
      region [("AWS_REGION", "us-east-1"), ("aws_region", "")] = some "us-west-2" ∧
      region [("AWS_REGION", "us-east-1")] = some "us-east-1" ∧
      load none none none [("aws_region", "us-east-1"), ("AWS_REGION", "")] ≠
        load none none none [("aws_region", "us-east-1")] := by
  intro region
  have hidden : region [("aws_region", "us-east-1"), ("AWS_REGION", "")] = some "us-west-2" := by
    decide +kernel
  have shown : region [("aws_region", "us-east-1")] = some "us-east-1" := by decide +kernel
  refine ⟨hidden, shown, by decide +kernel, by decide +kernel, fun same => ?_⟩
  have alike : region [("aws_region", "us-east-1"), ("AWS_REGION", "")] =
      region [("aws_region", "us-east-1")] :=
    congrArg (fun outcome => outcome.toOption.map ConnectionSettings.region) same
  rw [hidden, shown] at alike
  exact absurd alike (by decide)

end MessageQueue.ConnectionSettings
