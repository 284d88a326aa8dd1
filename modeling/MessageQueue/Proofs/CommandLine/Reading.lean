import MessageQueue.CommandLine.Reading

/-!
# Reading undoes spelling

What is said to a command is a list of items, the values of parameters and the operand.  A value
stands in the same argument as the name or the letter of its parameter, or in the next one, and the
items may come in any order (`Spells`).  Reading puts one item after the other into the record
(`read_of_spells`).

A value in an argument of its own is put only when the next item begins, and so is the operand.  So
what is read is compared with the items only after it is settled: this holds at every point between
two items, and is what the induction on the spelling carries along.
-/

namespace MessageQueue.CommandLine

/-! ## Words -/

theorem Word.ofArgument_long {name : String} (sign : '=' ∉ name.toList) (value : String) :
    ofArgument ("--" ++ name ++ "=" ++ value) = .long name (some value) := by
  have text : ("--" ++ name ++ "=" ++ value).toList =
      '-' :: '-' :: (name.toList ++ '=' :: value.toList) := by
    simp [String.toList_append]
  have cut := Text.cut?_append '=' name.toList value.toList sign
  have more : name.toList ++ '=' :: value.toList ≠ [] := by simp
  rw [ofArgument, text]
  generalize name.toList ++ '=' :: value.toList = rest at cut more
  cases rest with
  | nil => exact absurd rfl more
  | cons c rest => simp [cut]

theorem Word.ofArgument_plain {argument : String} (dash : argument.toList.head? ≠ some '-') :
    ofArgument argument = .plain := by
  rw [ofArgument]
  split <;> simp_all

/-! ## Items -/

/-- One thing that is said to a command. -/
inductive Item (α : Type) where
  | parameter (p : Parameter α) (value : String)
  | operand (o : Operand α) (value : String)

variable {α : Type}

/-- Whether an item is the operand. -/
def Item.isOperand : Item α → Bool
  | .operand .. => true
  | .parameter .. => false

@[simp] theorem Item.isOperand_parameter (p : Parameter α) (value : String) :
    (parameter p value).isOperand = false :=
  rfl

@[simp] theorem Item.isOperand_operand (o : Operand α) (value : String) :
    (operand o value).isOperand = true := rfl

/-- The reading with an item. -/
def Item.enter (r : Reading α) : Item α → Except UsageError (Reading α)
  | .parameter p value => r.enter p value
  | .operand o value =>
    match o.put value r.record with
    | .ok record => .ok { r with record, hasOperand := true }
    | .error e => .error e

/-- The words that name a parameter, and the value that stands in the same argument. -/
inductive Names (u : Usage α) (p : Parameter α) : Word → Option String → Prop
  | long (found : u.parameters.find? (·.long = p.long) = some p) (value : Option String) :
      Names u p (.long p.long value) value
  | letter {c : Char} (found : u.parameters.find? (·.short = some c) = some p) :
      Names u p (.short [c]) none
  | letterEquals {c : Char} (found : u.parameters.find? (·.short = some c) = some p)
      (value : List Char) :
      Names u p (.short (c :: '=' :: value)) (some (String.ofList value))
  | letterValue {c d : Char} (found : u.parameters.find? (·.short = some c) = some p)
      (sign : d ≠ '=')
      (value : List Char) : Names u p (.short (c :: d :: value)) (some (String.ofList (d :: value)))

/-- Any text can stand behind the name of a parameter and an equals sign. -/
theorem Names.of_long {u : Usage α} {p : Parameter α}
    (found : u.parameters.find? (·.long = p.long) = some p)
    (sign : '=' ∉ p.long.toList) (value : String) :
    Names u p (Word.ofArgument ("--" ++ p.long ++ "=" ++ value)) (some value) := by
  rw [Word.ofArgument_long sign]
  exact .long found (some value)

/-- Whether an argument can be the value of a parameter that stands before it. -/
def Parameter.takes (p : Parameter α) (argument : String) : Prop :=
  match Word.ofArgument argument with
  | .plain => True
  | .short letters => p.negative = true ∧ isNumber letters = true
  | _ => False

/-- The arguments that spell items. -/
inductive Spells (u : Usage α) : List (Item α) → List String → Prop
  | nil : Spells u [] []
  | joined {p : Parameter α} {argument value : String} {items : List (Item α)}
      {arguments : List String}
      (valued : p.kind ≠ .switch) (named : Names u p (Word.ofArgument argument) (some value))
      (rest : Spells u items arguments) :
      Spells u (.parameter p value :: items) (argument :: arguments)
  | apart {p : Parameter α} {argument value : String} {items : List (Item α)}
      {arguments : List String}
      (valued : p.kind ≠ .switch) (named : Names u p (Word.ofArgument argument) none)
        (takes : p.takes value)
      (rest : Spells u items arguments) :
      Spells u (.parameter p value :: items) (argument :: value :: arguments)
  | operand {o : Operand α} {value : String} {items : List (Item α)} {arguments : List String}
      (has : u.operand = some o) (plain : Word.ofArgument value = .plain)
        (rest : Spells u items arguments) :
      Spells u (.operand o value :: items) (value :: arguments)

/-! ## What is settled -/

namespace Reading

variable {u : Usage α} {p : Parameter α} {r s : Reading α}

/-- Whether the next argument is not a value that is awaited. -/
def Free (r : Reading α) : Prop := ∀ p, r.pending ≠ .awaiting p

theorem free_of_nothing (nothing : r.pending = .nothing) : r.Free := by
  intro p
  rw [nothing]
  nofun

theorem settle_of_nothing (nothing : r.pending = .nothing) : r.settle = .ok r := by
  cases r
  cases nothing
  rfl

theorem enter_inv {value : String} (entered : r.enter p value = .ok s) :
    s.pending = r.pending ∧ s.hasOperand = r.hasOperand := by
  rw [enter] at entered
  split at entered
  · cases entered
  · cases put : p.put value r.record with
    | ok record =>
      rw [put] at entered
      cases entered
      exact ⟨rfl, rfl⟩
    | error e =>
      rw [put] at entered
      cases entered

theorem settle_inv (settled : r.settle = .ok s) :
    s.pending = .nothing ∧ s.hasOperand = r.hasOperand := by
  obtain ⟨record, given, hasOperand, pending⟩ := r
  cases pending with
  | nothing =>
    cases settled
    exact ⟨rfl, rfl⟩
  | awaiting p => cases settled
  | noted p value => exact enter_inv settled
  | operand o value =>
    simp only [settle] at settled
    cases put : o.put value record with
    | ok record =>
      rw [put] at settled
      cases settled
      exact ⟨rfl, rfl⟩
    | error e =>
      rw [put] at settled
      cases settled

theorem attach_eq (value : String) : r.attach p value = r.settle >>= (·.enter p value) := by
  rw [attach]
  cases r.settle <;> rfl

/-- The reading with a parameter, whose value stands in the same argument or is to come. -/
def begin (r : Reading α) (p : Parameter α) : Option String → Except UsageError (Reading α)
  | some value => r.attach p value
  | none => r.await p

theorem takeLong_of_found (found : u.parameters.find? (·.long = p.long) = some p)
    (valued : p.kind ≠ .switch)
    (value : Option String) : r.takeLong u p.long value = r.begin p value := by
  simp only [takeLong, found, if_neg valued]
  cases value <;> rfl

section

variable {c : Char} (found : u.parameters.find? (·.short = some c) = some p)
  (valued : p.kind ≠ .switch)
include found valued

theorem takeShort_alone : r.takeShort u [c] = r.begin p none := by
  simp only [takeShort, found, if_neg valued]
  rfl

theorem takeShort_equals (value : List Char) :
    r.takeShort u (c :: '=' :: value) = r.begin p (some (String.ofList value)) := by
  simp only [takeShort, found, if_neg valued]
  rfl

theorem takeShort_value {d : Char} (sign : d ≠ '=') (value : List Char) :
    r.takeShort u (c :: d :: value) = r.begin p (some (String.ofList (d :: value))) := by
  simp only [takeShort, found, if_neg valued]
  split
  next same => exact absurd same (by simp)
  next same => exact absurd (List.cons.inj same).1 sign
  next => rfl

end

/-! ## One argument -/

section

variable (single : u.commands = [])
include single

theorem isCommand_of_single (argument : String) : r.isCommand u argument = false := by
  rw [isCommand, single]
  cases r.pending <;> simp

theorem read_of_take {argument : String} {taken : Except UsageError (Reading α)}
    (take : r.take? u argument = some taken) (rest : List String) :
    read u r (argument :: rest) = taken >>= fun r => read u r rest := by
  rw [read, isCommand_of_single single, take]
  cases taken <;> rfl

/-- An argument that names a parameter is read as the parameter with its value, or before it. -/
theorem read_of_names (free : r.Free) (valued : p.kind ≠ .switch) {argument : String}
    {value : Option String}
    (named : Names u p (Word.ofArgument argument) value) (rest : List String) :
    read u r (argument :: rest) = r.begin p value >>= fun r => read u r rest := by
  have unnumbered (letters : List Char) : r.awaitsNumber letters = false := by
    rw [awaitsNumber]
    cases pending : r.pending with
    | awaiting p => exact absurd pending (free p)
    | _ => rfl
  have take : r.take? u argument = some (r.begin p value) := by
    rw [take?]
    generalize Word.ofArgument argument = word at named
    cases named with
    | long found => exact congrArg some (takeLong_of_found found valued value)
    | letter found => simp only [unnumbered, takeShort_alone found valued]; rfl
    | letterEquals found value => simp only [unnumbered, takeShort_equals found valued]; rfl
    | letterValue found sign value => simp only [unnumbered, takeShort_value found valued sign]; rfl
  exact read_of_take single take rest

/-- A value that is awaited is noted. -/
theorem read_of_takes {value : String} (takes : p.takes value) (rest : List String) :
    read u { r with pending := .awaiting p } (value :: rest) =
      read u { r with pending := .noted p value } rest := by
  have take : take? u { r with pending := .awaiting p } value =
      some (.ok { r with pending := .noted p value }) := by
    rw [Parameter.takes] at takes
    rw [take?]
    split at takes
    next plain =>
      rw [plain]
      rfl
    next letters short =>
      have awaited : awaitsNumber { r with pending := .awaiting p } letters = true := by
        simp [awaitsNumber, takes]
      simp only [short, awaited, takePlain]
      rfl
    next => exact absurd takes id
  exact read_of_take single take rest

/-- An operand is noted, once. -/
theorem read_of_operand {o : Operand α} (has : u.operand = some o) (free : r.Free)
    (first : r.hasOperand = false)
    {value : String} (plain : Word.ofArgument value = .plain) (rest : List String) :
    read u r (value :: rest) =
      r.settle >>=
        fun r => read u { r with hasOperand := true, pending := .operand o value } rest := by
  have taken : r.takePlain u value = r.takeOperand u false value := by
    rw [takePlain]
    cases pending : r.pending with
    | awaiting p => exact absurd pending (free p)
    | _ => rfl
  have take : r.take? u value = some (r.takeOperand u false value) := by rw [take?, plain, ← taken]
  rw [read_of_take single take]
  simp only [takeOperand, has, first]
  cases r.settle <;> rfl

/-! ## All arguments -/

/-- Arguments that spell items are read as these items, one after the other.  The operand is given
once. -/
theorem read_of_spells {items : List (Item α)} {arguments : List String}
    (spelled : Spells u items arguments)
    (free : r.Free) (once : items.countP Item.isOperand + r.hasOperand.toNat ≤ 1) :
    (read u r arguments >>= fun end_ => end_.1.settle) = r.settle >>= items.foldlM Item.enter := by
  induction spelled generalizing r with
  | nil =>
    rw [read]
    exact (bind_pure r.settle).symm
  | @joined p argument value items arguments valued named rest ih =>
    rw [read_of_names single free valued named, begin, attach_eq]
    simp only [bind_assoc, List.foldlM_cons, Item.enter]
    cases settled : r.settle with
    | error e => rfl
    | ok r₀ =>
      cases entered : r₀.enter p value with
      | error e => simp [bind, Except.bind, entered]
      | ok r₁ =>
        have nothing : r₁.pending = .nothing := (enter_inv entered).1.trans (settle_inv settled).1
        have kept : r₁.hasOperand = r.hasOperand :=
          (enter_inv entered).2.trans (settle_inv settled).2
        have later := ih (free_of_nothing nothing) (by simpa [kept] using once)
        rw [settle_of_nothing nothing] at later
        simpa [bind, Except.bind, entered] using later
  | @apart p argument value items arguments valued named takes rest ih =>
    rw [read_of_names single free valued named, begin, await]
    cases settled : r.settle with
    | error e => rfl
    | ok r₀ =>
      obtain ⟨nothing, kept⟩ := settle_inv settled
      have later := @ih { r₀ with pending := .noted p value } nofun (by simpa [kept] using once)
      have noted : settle { r₀ with pending := .noted p value } = r₀.enter p value := by
        rw [settle, ← nothing]
      rw [noted] at later
      simpa [bind, Except.bind, read_of_takes single takes, Item.enter] using later
  | @operand o value items arguments has plain rest ih =>
    rw [List.countP_cons_of_pos rfl] at once
    have first : r.hasOperand = false := by
      cases already : r.hasOperand with
      | false => rfl
      | true => simp [already] at once
    rw [first] at once
    rw [read_of_operand single has free first plain]
    cases settled : r.settle with
    | error e => rfl
    | ok r₀ =>
      obtain ⟨nothing, -⟩ := settle_inv settled
      have later := @ih { r₀ with hasOperand := true, pending := .operand o value } nofun once
      have noted : settle { r₀ with hasOperand := true, pending := .operand o value } =
          Item.enter r₀ (.operand o value) := by
        cases put : o.put value r₀.record <;> simp only [settle, Item.enter, ← nothing, put]
      rw [noted] at later
      simpa [bind, Except.bind] using later

end

/-- What stands before a command is read in the same way whatever comes after it. -/
theorem read_of_command {front : List String} {name : String}
    (upTo : read u r (front ++ [name]) = .ok (s, some (name, []))) (rest : List String) :
    read u r (front ++ name :: rest) = .ok (s, some (name, rest)) := by
  induction front generalizing r with
  | nil =>
    rw [List.nil_append, read] at upTo ⊢
    split at upTo
    next command =>
      cases upTo
      rw [if_pos command]
    next =>
      -- Without the command all is read, and nothing is left to come after it.
      split at upTo
      next => cases upTo
      next => cases upTo
      next => cases upTo
  | cons argument front ih =>
    rw [List.cons_append, read] at upTo ⊢
    split at upTo
    next => simp at upTo
    next uncommon =>
      rw [if_neg uncommon]
      split at upTo
      next => cases divided : r.readDivided u (front ++ [name]) <;> simp [divided] at upTo
      next => exact ih upTo
      next => cases upTo

end Reading

/-! ## Items that are refused -/

section

variable {σ ι : Type} {f : σ → ι → Except UsageError σ} {items : List ι} {a : σ}

/-- If all items are put, each of them was. -/
theorem step_of_foldlM_ok {b : σ} (done : items.foldlM f a = .ok b) {item : ι}
    (member : item ∈ items) :
    ∃ a b, f a item = .ok b := by
  induction items generalizing a with
  | nil => cases member
  | cons first rest ih =>
    rw [List.foldlM_cons] at done
    cases step : f a first with
    | error e =>
      rw [step] at done
      cases done
    | ok next =>
      rw [step] at done
      rcases List.mem_cons.mp member with rfl | later
      · exact ⟨a, next, step⟩
      · exact ih done later

/-- If the items are refused, one of them was. -/
theorem step_of_foldlM_error {e : UsageError} (refused : items.foldlM f a = .error e) :
    ∃ item ∈ items, ∃ a, f a item = .error e := by
  induction items generalizing a with
  | nil => cases refused
  | cons first rest ih =>
    rw [List.foldlM_cons] at refused
    cases step : f a first with
    | error other =>
      rw [step] at refused
      cases refused
      exact ⟨first, List.mem_cons_self, a, step⟩
    | ok next =>
      rw [step] at refused
      obtain ⟨item, member, found⟩ := ih refused
      exact ⟨item, List.mem_cons_of_mem first member, found⟩

end

end MessageQueue.CommandLine
