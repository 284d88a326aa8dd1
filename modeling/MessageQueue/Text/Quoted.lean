import MessageQueue.Text.Printable

/-!
# Text inside quotes

A text in a diagnostic stands between double quotes.  Quotes and backslashes are escaped, the usual
controls have their letters, and every other character that leaves no mark of its own is written as
its number in hexadecimal between braces.
-/

namespace MessageQueue.Text

/-- The hexadecimal digits of a number, most significant first, without leading zeros. -/
def hexDigits (n : Nat) : List Char := Nat.toDigits 16 n

/-- How one character is written between the quotes. -/
def quotedChar (c : Char) : List Char :=
  if c = '"' then ['\\', '"']
  else if c = '\\' then ['\\', '\\']
  else if c = '\n' then ['\\', 'n']
  else if c = '\r' then ['\\', 'r']
  else if c = '\t' then ['\\', 't']
  else if c = '\x00' then ['\\', '0']
  else if isPrintable c then [c]
  else ['\\', 'u', '\x7b'] ++ hexDigits c.toNat ++ ['\x7d']

/-- The text between quotes. -/
def quoted (text : String) : String :=
  String.ofList ('"' :: (text.toList.flatMap quotedChar ++ ['"']))

end MessageQueue.Text
