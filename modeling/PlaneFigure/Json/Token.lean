import PlaneFigure.Json.Value

/-!
# Tokens of JSON texts

A JSON text is divided into punctuation, words, numbers and strings. Where no token can be
recognised the rest of the text is unreadable, and one last token stands for it.

Two faults do not make a token unreadable, because its end can still be found: a number may
be out of range, and the escapes in a string may name half of a surrogate pair. Such tokens
have no value.
-/

namespace PlaneFigure.Json

/-- A token of a JSON text. -/
inductive Token where
  | openArray
  | closeArray
  | openObject
  | closeObject
  | comma
  | colon
  | null
  | bool (value : Bool)
  /-- A number, without a value if it is out of range. -/
  | number (value : Option Number)
  /-- A string, without a value if it escapes a lone surrogate. -/
  | string (value : Option String)
  /-- What follows is no token. -/
  | unreadable
deriving DecidableEq

/-- A part of a string: a character, or a UTF-16 unit that is escaped by its number. -/
inductive StringPart where
  | char (char : Char)
  | unit (value : Nat)
deriving DecidableEq

/-- The value of a hexadecimal digit. -/
def hexValue? (char : Char) : Option Nat :=
  if '0' ≤ char ∧ char ≤ '9' then some (char.toNat - '0'.toNat)
  else if 'a' ≤ char ∧ char ≤ 'f' then some (char.toNat - 'a'.toNat + 10)
  else if 'A' ≤ char ∧ char ≤ 'F' then some (char.toNat - 'A'.toNat + 10)
  else none

/-- The value of several hexadecimal digits. -/
def hexNumber? (digits : List Char) : Option Nat :=
  digits.foldlM (fun value digit => (value * 16 + ·) <$> hexValue? digit) 0

/-- The character that a backslash and a letter stand for. -/
def unescape? (letter : Char) : Option Char :=
  [('"', '"'), ('\\', '\\'), ('/', '/'), ('b', '\x08'), ('f', '\x0c'), ('n', '\n'), ('r', '\r'),
    ('t', '\t')].lookup letter

/-- Put a part of a string, spelled by so many characters, before parts with their length. -/
def addPart (part : Option StringPart) (length : Nat) (rest : Option (List StringPart × Nat)) :
    Option (List StringPart × Nat) :=
  match part, rest with
  | some part, some (parts, count) => some (part :: parts, count + length)
  | _, _ => none

/-- The parts of a string after its opening quotation mark, and how many characters they and
the closing quotation mark take. Control characters cannot occur. -/
def stringParts : List Char → Option (List StringPart × Nat)
  | [] => none
  | '"' :: _ => some ([], 1)
  | '\\' :: 'u' :: first :: second :: third :: fourth :: rest =>
    addPart (.unit <$> hexNumber? [first, second, third, fourth]) 6 (stringParts rest)
  | '\\' :: letter :: rest => addPart (.char <$> unescape? letter) 2 (stringParts rest)
  | char :: rest =>
    addPart (if char.toNat < 32 then none else some (.char char)) 1 (stringParts rest)

/-- Whether a unit is the first half of a surrogate pair. -/
def isHighSurrogate (unit : Nat) : Bool := 0xD800 ≤ unit && unit ≤ 0xDBFF

/-- Whether a unit is the second half of a surrogate pair. -/
def isLowSurrogate (unit : Nat) : Bool := 0xDC00 ≤ unit && unit ≤ 0xDFFF

/-- The characters of a string, if every half of a surrogate pair has its other half. -/
def joinParts : List StringPart → Option (List Char)
  | [] => some []
  | .char char :: rest => (char :: ·) <$> joinParts rest
  | .unit high :: .unit low :: rest =>
    if isHighSurrogate high then
      if isLowSurrogate low then
        (Char.ofNat (0x10000 + (high - 0xD800) * 0x400 + (low - 0xDC00)) :: ·) <$> joinParts rest
      else none
    else if isLowSurrogate high then none
    else (Char.ofNat high :: ·) <$> joinParts (.unit low :: rest)
  | .unit unit :: rest =>
    if isHighSurrogate unit || isLowSurrogate unit then none
    else (Char.ofNat unit :: ·) <$> joinParts rest

/-- The leading digits of a text. -/
def leadingDigits (chars : List Char) : List Nat :=
  (chars.takeWhile Char.isDigit).map fun digit => digit.toNat - '0'.toNat

/-- The digits of an exponent with their sign, and the number of characters they take, after
the letter that introduces them. -/
def exponentPart : List Char → Option ((Bool × List Nat) × Nat)
  | '+' :: rest => signed false 1 rest
  | '-' :: rest => signed true 1 rest
  | rest => signed false 0 rest
where
  signed (negative : Bool) (length : Nat) (rest : List Char) : Option ((Bool × List Nat) × Nat) :=
    match leadingDigits rest with
    | [] => none
    | digits => some ((negative, digits), length + digits.length)

/-- Complete a literal by the exponent at the beginning of a text, if there is one. Returns
the number of characters of the whole literal. -/
def withExponent (literal : Literal) (length : Nat) (rest : List Char) : Option (Literal × Nat) :=
  match rest with
  | letter :: rest =>
    if letter = 'e' ∨ letter = 'E' then
      match exponentPart rest with
      | none => none
      | some (exponent, count) => some ({ literal with exponent }, length + 1 + count)
    else some (literal, length)
  | [] => some (literal, length)

/-- The literal at the beginning of a text after its sign, and the number of its characters.
Whole digits have no superfluous zero in front; a point has digits on both sides. -/
def literal? (negative : Bool) (length : Nat) (chars : List Char) : Option (Literal × Nat) :=
  match leadingDigits chars with
  | [] => none
  | 0 :: _ :: _ => none
  | whole =>
    let literal : Literal := ⟨negative, whole, none, none⟩
    let length := length + whole.length
    match chars.drop whole.length with
    | '.' :: rest =>
      match leadingDigits rest with
      | [] => none
      | digits =>
        withExponent { literal with fraction := digits } (length + 1 + digits.length)
          (rest.drop digits.length)
    | rest => withExponent literal length rest

/-- The token of a word at the beginning of a text, whose first letter is given. -/
def word? (first : Char) (rest : List Char) : Option (Token × Nat) :=
  if ['n', 'u', 'l', 'l'].isPrefixOf (first :: rest) then some (.null, 3)
  else if ['t', 'r', 'u', 'e'].isPrefixOf (first :: rest) then some (.bool true, 3)
  else if ['f', 'a', 'l', 's', 'e'].isPrefixOf (first :: rest) then some (.bool false, 4)
  else none

/-- The token that begins with a character, and how many characters it has besides. -/
def token? (first : Char) (rest : List Char) : Option (Token × Nat) :=
  match first with
  | '[' => some (.openArray, 0)
  | ']' => some (.closeArray, 0)
  | '{' => some (.openObject, 0)
  | '}' => some (.closeObject, 0)
  | ',' => some (.comma, 0)
  | ':' => some (.colon, 0)
  | '"' =>
    (stringParts rest).map fun (parts, length) =>
      (.string (String.ofList <$> joinParts parts), length)
  | '-' => (literal? true 0 rest).map fun (literal, length) => (.number literal.number?, length)
  | _ =>
    if first.isDigit then
      (literal? false 0 (first :: rest)).map fun (literal, length) =>
        (.number literal.number?, length - 1)
    else word? first rest

/-- Whether a character may stand between tokens. -/
def isSpace (char : Char) : Bool :=
  char == ' ' || char == '\n' || char == '\t' || char == '\r'

/-- The tokens of a text after so many characters that belong to the token before. -/
def tokensAfter : Nat → List Char → List Token
  | _, [] => []
  | skipped + 1, _ :: rest => tokensAfter skipped rest
  | 0, char :: rest =>
    if isSpace char then tokensAfter 0 rest
    else
      match token? char rest with
      | none => [.unreadable]
      | some (token, length) => token :: tokensAfter length rest

/-- The tokens of a text. -/
def tokens (text : String) : List Token := tokensAfter 0 text.toList

end PlaneFigure.Json
