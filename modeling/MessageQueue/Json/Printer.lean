import MessageQueue.Json.Basic
import MessageQueue.Bytes

/-!
# Printing JSON

A value is printed without blanks.  In strings, quotes, backslashes and controls are escaped, and
all other characters stand as they are.
-/

namespace MessageQueue.Json

/-- How one character is written in a string. -/
def escapedChar (c : Char) : List Char :=
  if c = '"' then ['\\', '"']
  else if c = '\\' then ['\\', '\\']
  else if c = '\x08' then ['\\', 'b']
  else if c = '\x0c' then ['\\', 'f']
  else if c = '\n' then ['\\', 'n']
  else if c = '\x0d' then ['\\', 'r']
  else if c = '\t' then ['\\', 't']
  else if c.toNat < 0x20 then
    ['\\', 'u', '0', '0', Bytes.hexDigit (c.toNat / 16), Bytes.hexDigit (c.toNat % 16)]
  else [c]

/-- A text as a string. -/
def printText (s : String) : List Char := '"' :: (s.toList.flatMap escapedChar ++ ['"'])

/-- The digits of an integer, behind a minus sign if it is negative. -/
def printInt (n : Int) : List Char :=
  if n < 0 then '-' :: Nat.toDigits 10 n.natAbs else Nat.toDigits 10 n.natAbs

/-- A number as written. -/
def printNumber : Number → List Char
  | .integer n => printInt n
  | .decimal negative mantissa exponent =>
    (if negative then ['-'] else []) ++ Nat.toDigits 10 mantissa ++
      if exponent = 0 then [] else 'e' :: printInt exponent

mutual

/-- A value as text. -/
def print : Json → List Char
  | null => ['n', 'u', 'l', 'l']
  | bool true => ['t', 'r', 'u', 'e']
  | bool false => ['f', 'a', 'l', 's', 'e']
  | number n => printNumber n
  | text s => printText s
  | brokenText => ['"', '\\', 'u', 'd', '8', '0', '0', '"']
  | array items => '[' :: printItems items
  | object members => '\x7b' :: printMembers members

/-- The items of an array, and its closing bracket. -/
def printItems : List Json → List Char
  | [] => [']']
  | [item] => print item ++ [']']
  | item :: rest => print item ++ ',' :: printItems rest

/-- The members of an object, and its closing brace. -/
def printMembers : List (String × Json) → List Char
  | [] => ['\x7d']
  | [(name, item)] => printText name ++ ':' :: (print item ++ ['\x7d'])
  | (name, item) :: rest => printText name ++ ':' :: (print item ++ ',' :: printMembers rest)

end

/-- A value as a text on one line. -/
def toText (j : Json) : String := String.ofList (print j)

end MessageQueue.Json
