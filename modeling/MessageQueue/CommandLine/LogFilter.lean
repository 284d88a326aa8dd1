import MessageQueue.Decimal.Whole
import MessageQueue.Text.Fields

/-!
# What is logged

A filter is a list of directives with commas between them.  A directive is a level, or a target with
a level after an equals sign.  A span in brackets may follow the target, with fields in braces, each
a name that may have a value.  The level may be left out, and blanks around a directive do not
count.  Whether a text is a filter is all that is needed here: nothing is logged.
-/

namespace MessageQueue.CommandLine.LogFilter

/-- The names of the levels. -/
def levels : List String := ["off", "error", "warn", "info", "debug", "trace"]

/-- Whether a text is a level: a name in any case, a number up to five, or nothing. -/
def isLevel (text : List Char) : Bool :=
  text = [] || levels.contains (String.ofList (text.map Char.toLower)) ||
    match Decimal.natural? (String.ofList text) with
    | some n => n ≤ 5
    | none => false

/-- Where one is in a directive. -/
inductive Spot where
  | start
  /-- In the target, or in a level that stands alone. -/
  | target
  | span
  /-- In a field; whether it has begun. -/
  | field (begun : Bool)
  /-- After the fields. -/
  | fields
  /-- After the span. -/
  | afterSpan
  /-- In the level, which has been read so far in reverse. -/
  | level (before : List Char)

/-- A character that a target can begin with. -/
def beginsTarget (c : Char) : Bool := c.isAlphanum || c = '-' || c = ':' || c = '_' || 128 ≤ c.toNat

/-- The spot after one more character. -/
def Spot.next : Spot → Char → Option Spot
  | .start, c => if c = '[' then some .span else if beginsTarget c then some .target else none
  | .target, c => if c = '=' then some (.level []) else if c = '[' then some .span else some .target
  | .span, c =>
    if c = ']' then some .afterSpan else if c = '\x7b' then some (.field false) else some .span
  | .field begun, c =>
    if c = '\x7d' then (if begun then some .fields else none) else some (.field true)
  | .fields, c => if c = ']' then some .afterSpan else none
  | .afterSpan, c => if c = '=' then some (.level []) else none
  | .level before, c => some (.level (c :: before))

/-- Whether a directive can end at a spot. -/
def Spot.final : Spot → Bool
  | .target | .afterSpan => true
  | .level before => isLevel before.reverse
  | _ => false

/-- The spot at the end of a text. -/
def Spot.after? : Spot → List Char → Option Spot
  | s, [] => some s
  | s, c :: rest =>
    match s.next c with
    | some s => s.after? rest
    | none => none

/-- A text without the blanks around it. -/
def stripped (text : List Char) : List Char :=
  ((text.dropWhile Char.isWhitespace).reverse.dropWhile Char.isWhitespace).reverse

/-- Whether a text is a directive. -/
def isDirective (text : List Char) : Bool :=
  match Spot.start.after? (stripped text) with
  | some s => s.final
  | none => false

/-- Whether a text is a filter.  Directives without a character are passed over. -/
def isFilter (text : String) : Bool :=
  (Text.fields ',' text.toList).all fun directive => directive = [] || isDirective directive

end MessageQueue.CommandLine.LogFilter
