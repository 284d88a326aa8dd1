/-!
# Fields between separators

Cutting a text at every occurrence of a separator, or at the first one only.
-/

namespace MessageQueue.Text

/-- The parts of a text between occurrences of a separator; `part` is the part being read,
reversed. -/
def fieldsFrom (separator : Char) (part : List Char) : List Char → List (List Char)
  | [] => [part.reverse]
  | c :: rest =>
    if c = separator then part.reverse :: fieldsFrom separator [] rest
    else fieldsFrom separator (c :: part) rest

/-- The parts of a text between all occurrences of a separator.  There is always one more part than
there are separators. -/
def fields (separator : Char) (text : List Char) : List (List Char) := fieldsFrom separator [] text

/-- What stands before and after the first occurrence of a character; `before` is what has been
read, reversed. -/
def cutFrom (separator : Char) (before : List Char) : List Char → Option (List Char × List Char)
  | [] => none
  | c :: rest =>
    if c = separator then some (before.reverse, rest) else cutFrom separator (c :: before) rest

/-- What stands before and after the first occurrence of a character. -/
def cut? (separator : Char) (text : List Char) : Option (List Char × List Char) :=
  cutFrom separator [] text

/-- Parts with a separator between them. -/
def joined (separator : Char) : List (List Char) → List Char
  | [] => []
  | [part] => part
  | part :: rest => part ++ separator :: joined separator rest

/-- What follows a given beginning, if a text begins so. -/
def after? : List Char → List Char → Option (List Char)
  | [], text => some text
  | _ :: _, [] => none
  | b :: beginning, c :: text => if b = c then after? beginning text else none

example : fields ',' ['a', ',', ',', 'b'] = [['a'], [], ['b']] := by decide

example : cut? '=' ['k', '=', 'a', '=', 'b'] = some (['k'], ['a', '=', 'b']) := by decide

theorem fieldsFrom_of_not_mem (separator : Char) (part text rest : List Char)
    (h : separator ∉ text) :
    fieldsFrom separator part (text ++ separator :: rest)
      = (part.reverse ++ text) :: fieldsFrom separator [] rest := by
  induction text generalizing part with
  | nil => simp [fieldsFrom]
  | cons c r ih =>
    have hc : c ≠ separator := fun e => h (e ▸ List.mem_cons_self)
    have hr : separator ∉ r := fun e => h (List.mem_cons_of_mem _ e)
    simp [fieldsFrom, hc, ih (c :: part) hr]

theorem fieldsFrom_last (separator : Char) (part text : List Char) (h : separator ∉ text) :
    fieldsFrom separator part text = [part.reverse ++ text] := by
  induction text generalizing part with
  | nil => simp [fieldsFrom]
  | cons c r ih =>
    have hc : c ≠ separator := fun e => h (e ▸ List.mem_cons_self)
    have hr : separator ∉ r := fun e => h (List.mem_cons_of_mem _ e)
    simp [fieldsFrom, hc, ih (c :: part) hr]

/-- Cutting undoes joining, for parts without the separator and at least one of them. -/
theorem fields_joined (separator : Char) (parts : List (List Char)) (some_part : parts ≠ [])
    (h : ∀ part ∈ parts, separator ∉ part) : fields separator (joined separator parts) = parts := by
  induction parts with
  | nil => exact absurd rfl some_part
  | cons part rest ih =>
    have hp := h part List.mem_cons_self
    cases rest with
    | nil => simp [fields, joined, fieldsFrom_last _ _ _ hp]
    | cons q r =>
      have hr := ih (by simp) fun x hx => h x (List.mem_cons_of_mem _ hx)
      simp only [fields, joined] at hr ⊢
      rw [fieldsFrom_of_not_mem _ _ _ _ hp, hr]
      rfl

theorem cutFrom_of_not_mem (separator : Char) (before text rest : List Char)
    (h : separator ∉ text) :
    cutFrom separator before (text ++ separator :: rest) = some (before.reverse ++ text, rest) := by
  induction text generalizing before with
  | nil => simp [cutFrom]
  | cons c r ih =>
    have hc : c ≠ separator := fun e => h (e ▸ List.mem_cons_self)
    have hr : separator ∉ r := fun e => h (List.mem_cons_of_mem _ e)
    simp [cutFrom, hc, ih (c :: before) hr]

/-- A text is cut at the first separator. -/
theorem cut?_append (separator : Char) (text rest : List Char) (h : separator ∉ text) :
    cut? separator (text ++ separator :: rest) = some (text, rest) :=
  cutFrom_of_not_mem separator [] text rest h

end MessageQueue.Text
