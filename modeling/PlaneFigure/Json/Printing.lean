import PlaneFigure.Json.Value
import PlaneFigure.Number.Shortest

/-!
# Writing JSON

Values are written either without any blanks or over several lines, two spaces of indent for
every level. Inside strings only quotation marks, backslashes and control characters are
escaped. Members are written in the order in which they are listed.
-/

namespace PlaneFigure.Json

/-- A hexadecimal digit. -/
def hexDigit (value : Nat) : Char := "0123456789abcdef".toList.getD value '0'

/-- How a character is written inside a string. -/
def escape (char : Char) : List Char :=
  if char = '"' then ['\\', '"']
  else if char = '\\' then ['\\', '\\']
  else if char = '\x08' then ['\\', 'b']
  else if char = '\x0c' then ['\\', 'f']
  else if char = '\n' then ['\\', 'n']
  else if char = '\r' then ['\\', 'r']
  else if char = '\t' then ['\\', 't']
  else if char.toNat < 32 then
    ['\\', 'u', '0', '0', hexDigit (char.toNat / 16), hexDigit (char.toNat % 16)]
  else [char]

/-- A string between quotation marks. -/
def quote (text : String) : String :=
  "\"" ++ String.ofList (text.toList.flatMap escape) ++ "\""

/-- The text of a number. Doubles always have a point or an exponent. -/
def numberText : Number → String
  | .integer value => toString value
  | .real value => value.text

mutual

/-- The text of a value without blanks. -/
def compact : Json → String
  | null => "null"
  | bool value => if value then "true" else "false"
  | number value => numberText value
  | string value => quote value
  | array items => "[" ++ ",".intercalate (compactItems items) ++ "]"
  | object members => r"{" ++ ",".intercalate (compactMembers members) ++ r"}"

/-- The texts of the items of an array. -/
def compactItems : List Json → List String
  | [] => []
  | item :: rest => item.compact :: compactItems rest

/-- The texts of the members of an object. -/
def compactMembers : List (String × Json) → List String
  | [] => []
  | (key, value) :: rest => (quote key ++ ":" ++ value.compact) :: compactMembers rest

end

/-- A line break and the indent of a level. -/
def newLine (level : Nat) : String := "\n" ++ String.ofList (List.replicate (2 * level) ' ')

/-- Enclose texts, each on a line of its own one level further in. Without texts there are no
line breaks either. -/
def enclose (level : Nat) (left right : String) (texts : List String) : String :=
  if texts.isEmpty then left ++ right
  else
    left ++ newLine (level + 1) ++ ("," ++ newLine (level + 1)).intercalate texts ++
      newLine level ++ right

mutual

/-- The text of a value over several lines, the first of them at a level of indentation. -/
def pretty (level : Nat) : Json → String
  | null => "null"
  | bool value => if value then "true" else "false"
  | number value => numberText value
  | string value => quote value
  | array items => enclose level "[" "]" (prettyItems (level + 1) items)
  | object members => enclose level r"{" r"}" (prettyMembers (level + 1) members)

/-- The texts of the items of an array. -/
def prettyItems (level : Nat) : List Json → List String
  | [] => []
  | item :: rest => item.pretty level :: prettyItems level rest

/-- The texts of the members of an object. -/
def prettyMembers (level : Nat) : List (String × Json) → List String
  | [] => []
  | (key, value) :: rest => (quote key ++ ": " ++ value.pretty level) :: prettyMembers level rest

end

end PlaneFigure.Json
