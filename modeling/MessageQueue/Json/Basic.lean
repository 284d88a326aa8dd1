import MessageQueue.Decimal.Notation

/-!
# JSON values

A value as it stands in a JSON text.  Members of an object keep their order and may repeat a name,
because readers of records have to tell.  A number keeps its digits, so that integers of any size
are exact.  A string with half of a surrogate pair is well formed JSON but no text; it has a
constructor of its own, so that a reader can pass over it where its value does not matter.  The same
constructor stands for an object with such a string among its names.
-/

namespace MessageQueue

namespace Json

/-- A number as written. -/
inductive Number where
  /-- Written with digits alone.  Zero with a minus sign is not among them. -/
  | integer (value : Int)
  /-- `mantissa * 10 ^ exponent`, negated if `negative`. -/
  | decimal (negative : Bool) (mantissa : Nat) (exponent : Int)
deriving DecidableEq, Repr

/-- The closest floating point number. -/
def Number.toFloat : Number → Float
  | .integer value => Decimal.toFloat (value < 0) value.natAbs 0
  | .decimal negative mantissa exponent => Decimal.toFloat negative mantissa exponent

end Json

/-- A JSON value. -/
inductive Json where
  | null
  | bool (value : Bool)
  | number (value : Json.Number)
  | text (value : String)
  /-- A string with half of a surrogate pair, or an object that has one for a name. -/
  | brokenText
  | array (items : List Json)
  | object (members : List (String × Json))
deriving Repr

namespace Json

instance : Inhabited Json := ⟨null⟩

/-- A natural number. -/
def ofNat (n : Nat) : Json := .number (.integer n)

/-- The first member of a name. -/
def member? (name : String) : List (String × Json) → Option Json
  | [] => none
  | (k, v) :: rest => if k = name then some v else member? name rest

/-- A member of an object; `null` counts as none. -/
def get? (j : Json) (name : String) : Option Json :=
  match j with
  | object members =>
    match member? name members with
    | some null => none
    | found => found
  | _ => none

/-- The text, if the value is one. -/
def asText? : Json → Option String
  | text s => some s
  | _ => none

/-- The truth value, if the value is one. -/
def asBool? : Json → Option Bool
  | bool b => some b
  | _ => none

/-- The integer, if the value is one. -/
def asInt? : Json → Option Int
  | number (.integer n) => some n
  | _ => none

/-- The natural number below a bound, if the value is one. -/
def asNatBelow? (bound : Nat) : Json → Option Nat
  | number (.integer n) => if 0 ≤ n ∧ n.toNat < bound then some n.toNat else none
  | _ => none

/-- The items, if the value is an array. -/
def asArray? : Json → Option (List Json)
  | array items => some items
  | _ => none

/-- The members, if the value is an object. -/
def asObject? : Json → Option (List (String × Json))
  | object members => some members
  | _ => none

end Json
end MessageQueue
