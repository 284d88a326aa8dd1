import MessageQueue.Table
import MessageQueue.Text.Shown

/-!
# Attributes

A message carries attributes: under each name an ordered list of values.  Adding a value puts it
behind those already there, setting one replaces them.  Attributes built by these operations have no
empty list, but attributes read back from storage may.
-/

namespace MessageQueue

/-- Attribute names with their values. -/
structure Attributes where
  /-- The values under each name. -/
  lists : Table (List String)
deriving DecidableEq

namespace Attributes

/-- No attributes. -/
def empty : Attributes := ⟨.empty⟩

instance : Inhabited Attributes := ⟨empty⟩

/-- All values under a name, in the order in which they were added. -/
def all (a : Attributes) (name : String) : List String := (a.lists.get? name).getD []

/-- The first value under a name. -/
def first? (a : Attributes) (name : String) : Option String := (a.all name).head?

/-- Replaces all values under a name by one. -/
def set (a : Attributes) (name value : String) : Attributes := ⟨a.lists.insert name [value]⟩

/-- Puts a value behind those under a name. -/
def add (a : Attributes) (name value : String) : Attributes :=
  ⟨a.lists.insert name (a.all name ++ [value])⟩

/-- Removes a name with all its values. -/
def remove (a : Attributes) (name : String) : Attributes := ⟨a.lists.erase name⟩

/-- How many names there are. -/
def size (a : Attributes) : Nat := a.lists.size

/-- Whether there is no name. -/
def isEmpty (a : Attributes) : Bool := a.lists.entries.isEmpty

/-- The names in order, each with its values. -/
def toList (a : Attributes) : List (String × List String) := a.lists.entries

/-- The attributes made by adding pairs of a name and a value one after the other. -/
def ofPairs (pairs : List (String × String)) : Attributes :=
  pairs.foldl (fun a p => a.add p.1 p.2) empty

instance : Shown Attributes := ⟨fun a => Shown.applied "Attributes" (Shown.mapping a.toList)⟩

/-! ## What the operations do -/

@[simp] theorem all_empty (name : String) : empty.all name = [] := rfl

@[simp] theorem all_set (a : Attributes) (name value other : String) :
    (a.set name value).all other = if name = other then [value] else a.all other := by
  simp only [all, set, Table.get?_insert]
  split <;> rfl

@[simp] theorem all_add (a : Attributes) (name value other : String) :
    (a.add name value).all other
      = if name = other then a.all other ++ [value] else a.all other := by
  simp only [all, add, Table.get?_insert]
  split
  · rename_i h
    subst h
    rfl
  · rfl

@[simp] theorem all_remove (a : Attributes) (name other : String) :
    (a.remove name).all other = if name = other then [] else a.all other := by
  simp only [all, remove, Table.get?_erase]
  split <;> rfl

end Attributes
end MessageQueue
