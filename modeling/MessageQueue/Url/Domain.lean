import MessageQueue.Text.Composition
import MessageQueue.Text.Fields
import MessageQueue.Text.Utf8
import MessageQueue.Url.Direction
import MessageQueue.Url.DomainTables
import MessageQueue.Url.Joining
import MessageQueue.Url.Punycode

/-!
# Domain names in ASCII

A domain name is brought to small letters and composed form, cut into labels, and each label that
still holds characters beyond ASCII is written in Punycode behind `xn--`.  A label that already
stands in that form has to be the form of some label.  A name with a character that no name may hold
is refused, and so is one whose joiners or directions of writing do not fit.
-/

namespace MessageQueue.Domain

open MessageQueue.Text

/-- What a character of a name becomes; `none` if no name may hold it. -/
def replaced? (c : Char) : Option (List Char) :=
  let n := c.toNat
  if n < 128 then some [c.toLower]
  else if refusedTable.contains n then none
  else match replacedTable.row? n with
    | none => some [c]
    | some row =>
      match row.values with
      | [value] => if value = 0 then some [] else some [Char.ofNat (value + (n - row.first))]
      | values => some (values.map Char.ofNat)

/-- The name with every character replaced. -/
def replaceAll (text : List Char) : Option (List Char) :=
  text.foldl (fun done c => done.bind fun d => (replaced? c).map fun r => r.reverse ++ d) (some [])
    |>.map List.reverse

/-- What a label in Punycode begins with. -/
def marker : List Char := ['x', 'n', '-', '-']

/-- Whether a label beyond ASCII may stand in a name: it does not begin with a mark, and its joiners
fit. -/
def standsWell (label : List Char) : Bool :=
  joinersFit [] label &&
    match label with
    | [] => true
    | c :: _ => !markTable.contains c.toNat

/-- Whether the characters decoded from Punycode are what a name would hold. -/
def isSettled (label : List Char) : Bool :=
  label.any (128 ≤ ·.toNat) && label.all (fun c => replaced? c = some [c])
    && Composition.compose label = label && standsWell label

/-- The characters of a label, if it may stand in a name. -/
def spelled? (label : List Char) : Option (List Char) :=
  match after? marker label with
  | some rest =>
    match Punycode.decode? rest with
    | some decoded => if isSettled decoded then some decoded else none
    | none => none
  | none => if label.all (·.toNat < 128) ∨ standsWell label then some label else none

/-- A label in ASCII. -/
def labelToAscii (label : List Char) : List Char :=
  if label.all (·.toNat < 128) then label else marker ++ Punycode.encode label

/-- The ASCII characters that no domain name may hold: controls, the blank, and those with a meaning
in URLs. -/
def isForbidden (c : Char) : Bool :=
  c.toNat ≤ 0x20 || c.toNat = 0x7F ||
    c ∈ ['%', '#', '/', ':', '<', '>', '?', '@', '[', '\\', ']', '^', '|']

/-- The name in ASCII, if it is a name. -/
def toAscii? (name : Bytes) : Option (List Char) :=
  match Utf8.decode? name with
  | none => none
  | some text =>
    match replaceAll text.toList with
    | none => none
    | some mapped =>
      let labels := fields '.' (Composition.compose mapped)
      match labels.mapM spelled? with
      | none => none
      | some spelled =>
        let ascii := joined '.' (labels.map labelToAscii)
        if !directed spelled ∨ ascii.any isForbidden then none else some ascii

end MessageQueue.Domain
