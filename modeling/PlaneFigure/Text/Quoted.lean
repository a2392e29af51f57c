import PlaneFigure.Text.Printable

/-!
# Quoting text in messages

A message repeats text from its input between quotation marks. Quotation marks, backslashes
and the common control characters are escaped by a letter, every other character that cannot
be shown as it is by its code point; apostrophes are left alone. The output is for reading,
not for reading back.
-/

namespace PlaneFigure.Text

/-- The digits of a code point in lower-case hexadecimal. -/
def hexDigits (value : Nat) : List Char := Nat.toDigits 16 value

/-- How a character is shown inside quotation marks. -/
def showChar (char : Char) : List Char :=
  if char = '"' then ['\\', '"']
  else if char = '\\' then ['\\', '\\']
  else if char = '\n' then ['\\', 'n']
  else if char = '\r' then ['\\', 'r']
  else if char = '\t' then ['\\', 't']
  else if char = '\x00' then ['\\', '0']
  else if isPrintable char then [char]
  else ['\\', 'u', '{'] ++ hexDigits char.toNat ++ ['}']

/-- A text between quotation marks. -/
def quoted (text : String) : String :=
  "\"" ++ String.ofList (text.toList.flatMap showChar) ++ "\""

end PlaneFigure.Text
