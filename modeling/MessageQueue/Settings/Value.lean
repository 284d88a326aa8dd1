import MessageQueue.Decimal.Whole
import MessageQueue.Json.Basic
import MessageQueue.Table

/-!
# Settings read leniently

A file of settings may be written in several formats, which agree on little but tables, lists,
texts, numbers and truth values.  A value of any of them becomes a `Setting`, and is then converted
to the type that a field asks for: a number or a truth value serves as a text; a text of digits, a
truth value or a fraction serves as a number, the fraction rounded, halves away from zero.  Nothing
serves as nothing but a field that may be missing.
-/

namespace MessageQueue

/-- A value in a file of settings. -/
inductive Setting where
  | nothing
  | truth (value : Bool)
  | integer (value : Int)
  | real (value : Float)
  | text (value : String)
  | list (items : List Setting)
  | table (members : List (String × Setting))

namespace Setting

instance : Inhabited Setting := ⟨nothing⟩

/-! ## Conversions -/

/-- A fraction as text: in positional notation, without a point if it is whole. -/
def realText (x : Float) : String :=
  match Binary64.ofFloat x with
  | .nan => "NaN"
  | .infinite negative => if negative then "-inf" else "inf"
  | .finite negative mantissa exponent =>
    let sign := if negative then "-" else ""
    if mantissa = 0 then sign ++ "0"
    else
      let d := Decimal.shortest mantissa exponent
      let digits := Nat.toDigits 10 d.value
      if 0 ≤ d.exponent then sign ++ String.ofList (digits ++ Decimal.zeros d.exponent.toNat)
      else sign ++ String.ofList (Decimal.positional d)

/-- A text that spells a truth value as a number. -/
def spelledTruth? (word : String) : Option Nat :=
  if word = "true" ∨ word = "on" ∨ word = "yes" then some 1
  else if word = "false" ∨ word = "off" ∨ word = "no" then some 0
  else none

/-- A fraction rounded to a natural number, a half upwards; what lies outside 64 bits is brought to
the nearest end. -/
def roundedReal (x : Float) : Nat :=
  match Binary64.ofFloat x with
  | .nan => 0
  | .infinite negative => if negative then 0 else Nat.pow 2 64 - 1
  | .finite negative mantissa exponent =>
    if negative then 0
    else if 64 < exponent + mantissa.log2 then Nat.pow 2 64 - 1
    else
      let (n, d) := Binary64.scaled mantissa 1 exponent
      min ((2 * n + d) / (2 * d)) (Nat.pow 2 64 - 1)

/-- The value as a natural number below a bound of at most 64 bits. -/
def toNat? (bound : Nat) (s : Setting) : Option Nat :=
  let n := match s with
    | truth value => some (if value then 1 else 0)
    | integer value => if 0 ≤ value then some value.toNat else none
    | real value => some (roundedReal value)
    | text value => (spelledTruth? (value.map Char.toLower)).orElse fun _ => Decimal.natural? value
    | _ => none
  n.bind fun n => if n < bound then some n else none

/-- The value as a text. -/
def toText? : Setting → Option String
  | text value => some value
  | truth value => some (if value then "true" else "false")
  | integer value => some (toString value)
  | real value => some (realText value)
  | _ => none

/-- The value as a text that may be missing. -/
def toOptionalText? : Setting → Option (Option String)
  | nothing => some none
  | s => s.toText?.map some

/-- The members of a table. -/
def toTable? : Setting → Option (List (String × Setting))
  | table members => some members
  | _ => none

/-! ## Tables -/

/-- The last member of a name. -/
def member? (name : String) (members : List (String × Setting)) : Option Setting :=
  (members.reverse.find? (·.1 = name)).map (·.2)

/-- Puts a value at a place in a table.  Tables on the way are made where there are none, and a
table put in place of a table adds to it. -/
def place (members : List (String × Setting)) : List String → Setting → List (String × Setting)
  | [], _ => members
  | [name], value =>
    match value, member? name members with
    | table added, some (table old) => members.filter (·.1 ≠ name) ++ [(name, table (old ++ added))]
    | _, _ => members.filter (·.1 ≠ name) ++ [(name, value)]
  | name :: rest, value =>
    let inner := match member? name members with
      | some (table old) => old
      | _ => []
    members.filter (·.1 ≠ name) ++ [(name, table (place inner rest value))]

/-- Whether a character may stand in a step of a path. -/
def isStepChar (c : Char) : Bool := c.isAlphanum || c = '_' || c = '-'

/-- The place that a name at the top of a file means: full stops lead into tables. -/
def pathOf (name : String) : List String :=
  let steps := name.splitOn "."
  if steps.all (fun s => s ≠ "" && s.all isStepChar) then steps else [name]

/-- The table that a file holds, with the paths at its top resolved. -/
def resolve (members : List (String × Setting)) : List (String × Setting) :=
  members.foldl (fun done m => place done (pathOf m.1) m.2) []

/-! ## From JSON -/

mutual

/-- A JSON value as a setting, if its numbers are in range; `depth` bounds how far values may be
nested. -/
def ofJson? : Nat → Json → Option Setting
  | _, .null => some nothing
  | _, .bool value => some (truth value)
  | _, .number n =>
    match n with
    | .integer value =>
      if -Int.pow 2 63 ≤ value ∧ value < Int.pow 2 64 then some (integer value)
        else finite? n.toFloat
    | _ => finite? n.toFloat
  | _, .text value => some (text value)
  | _, .brokenText => none
  | 0, .array _ => none
  | 0, .object _ => none
  | depth + 1, .array items => (ofItems? depth items).map list
  | depth + 1, .object members => (ofMembers? depth members).map table

/-- A number that is finite. -/
def finite? (x : Float) : Option Setting := if x.isFinite then some (real x) else none

/-- The items of an array as settings. -/
def ofItems? : Nat → List Json → Option (List Setting)
  | _, [] => some []
  | depth, item :: rest =>
    match ofJson? depth item, ofItems? depth rest with
    | some s, some r => some (s :: r)
    | _, _ => none

/-- The members of an object as settings. -/
def ofMembers? : Nat → List (String × Json) → Option (List (String × Setting))
  | _, [] => some []
  | depth, (name, item) :: rest =>
    match ofJson? depth item, ofMembers? depth rest with
    | some s, some r => some ((name, s) :: r)
    | _, _ => none

end

end Setting
end MessageQueue
