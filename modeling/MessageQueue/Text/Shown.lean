import MessageQueue.Text.Quoted

/-!
# Values shown in diagnostics

A value is shown as its constructor's name followed by its named fields between braces or its bare
arguments between parentheses.  A class gathers the types that can be shown.
-/

namespace MessageQueue

/-- Types whose values can be shown in a diagnostic. -/
class Shown (α : Type) where
  shown : α → String

export Shown (shown)

namespace Shown

/-- A name followed by its fields: `Name { first: 1, second: 2 }`. -/
def record (name : String) (fields : List (String × String)) : String :=
  name ++ " \x7b " ++ String.intercalate ", " (fields.map fun (f, v) => f ++ ": " ++ v) ++ " \x7d"

/-- A name followed by one argument: `Name(argument)`. -/
def applied (name argument : String) : String := name ++ "(" ++ argument ++ ")"

instance : Shown String := ⟨Text.quoted⟩
instance : Shown Nat := ⟨Nat.repr⟩
instance : Shown UInt16 := ⟨fun n => n.toNat.repr⟩
instance : Shown UInt32 := ⟨fun n => n.toNat.repr⟩
instance : Shown UInt64 := ⟨fun n => n.toNat.repr⟩
instance : Shown Bool := ⟨fun b => if b then "true" else "false"⟩

instance {α : Type} [Shown α] : Shown (Option α) :=
  ⟨fun | none => "None" | some a => applied "Some" (shown a)⟩

/-- Values in order, between brackets. -/
def list {α : Type} [Shown α] (items : List α) : String :=
  "[" ++ String.intercalate ", " (items.map shown) ++ "]"

instance {α : Type} [Shown α] : Shown (List α) := ⟨list⟩

/-- Keys with their values, between braces. -/
def mapping {α : Type} [Shown α] (entries : List (String × α)) : String :=
  "\x7b" ++ String.intercalate ", " (entries.map fun (k, v) => shown k ++ ": " ++ shown v) ++ "\x7d"

end Shown
end MessageQueue
