import MessageQueue.Bytes

/-!
# Tables of characters

The character data of the standards are long lists of ranges, some with values.  A table is written
as lines of hexadecimal numbers, its rows apart by blanks, and read once into an array.  A row is

* a number, or two with a hyphen between them for a range,
* then, if the row has values, a colon and the values with full stops between them; a solidus in
  place of the colon says that only every second number of the range belongs to the row.
-/

namespace MessageQueue.Text

/-- A row: the numbers it is for, and its values. -/
structure CharRow where
  first : Nat
  last : Nat
  /-- The distance between the numbers of the row. -/
  step : Nat
  values : List Nat
deriving DecidableEq, Repr

/-- Rows in the order in which they were written. -/
structure CharTable where
  rows : Array CharRow

namespace CharTable

/-- A table read up to some character. -/
private structure Scan where
  /-- The first end of the range, once its hyphen has come. -/
  first : Option Nat
  /-- The last end of the range and its step, once the values have begun. -/
  range : Option (Nat × Nat × Nat)
  /-- The values read, last first. -/
  values : List Nat
  /-- The number being read. -/
  number : Nat
  done : Array CharRow

/-- The row that ends here. -/
private def Scan.row (s : Scan) : CharRow :=
  match s.range with
  | none => ⟨s.first.getD s.number, s.number, 1, []⟩
  | some (first, last, step) => ⟨first, last, step, (s.number :: s.values).reverse⟩

/-- Begins the values of a row. -/
private def Scan.begin (s : Scan) (step : Nat) : Scan :=
  { s with range := some (s.first.getD s.number, s.number, step), number := 0 }

/-- Takes one character of the table. -/
private def Scan.step (s : Scan) (c : Char) : Scan :=
  if c = ' ' then ⟨none, none, [], 0, s.done.push s.row⟩
  else if c = '-' then { s with first := some s.number, number := 0 }
  else if c = ':' then s.begin 1
  else if c = '/' then s.begin 2
  else if c = '.' then { s with values := s.number :: s.values, number := 0 }
  else { s with number := 16 * s.number + (Bytes.hexValue? c).getD 0 }

/-- Reads a line that has at least one row, behind the rows of earlier lines. -/
private def readLine (done : Array CharRow) (line : String) : Array CharRow :=
  let s := line.toList.foldl Scan.step ⟨none, none, [], 0, done⟩
  s.done.push s.row

/-- Reads a table of lines, each of which has at least one row. -/
def ofLines (lines : List String) : CharTable := ⟨lines.foldl readLine #[]⟩

end CharTable

/-- Whether a row is for a number. -/
def CharRow.covers (r : CharRow) (n : Nat) : Bool :=
  r.first ≤ n && n ≤ r.last && (n - r.first) % r.step = 0

namespace CharTable

/-- Whether some row of the table is for the number. -/
def contains (t : CharTable) (n : Nat) : Bool := t.rows.any (·.covers n)

/-- The row for a number. -/
def row? (t : CharTable) (n : Nat) : Option CharRow := t.rows.find? (·.covers n)

example : (ofLines ["7f-a0", "ad"]).rows = #[⟨0x7F, 0xA0, 1, []⟩, ⟨0xAD, 0xAD, 1, []⟩] := by
  decide +kernel

example : (ofLines ["c0-d6:e0 100-12e/101 fb01:66.69"]).rows =
    #[⟨0xC0, 0xD6, 1, [0xE0]⟩, ⟨0x100, 0x12E, 2, [0x101]⟩, ⟨0xFB01, 0xFB01, 1, [0x66, 0x69]⟩] := by
  decide +kernel

end CharTable
end MessageQueue.Text
