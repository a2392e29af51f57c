import PlaneFigure.Term.Basic
import PlaneFigure.Text.NameChar

/-!
# Reading terms from text

In the text of a term, juxtaposition is application and parentheses group. A name that
stands first in an application of two or more parts is a constant, every other name is a
local variable; parentheses around that first name make no difference.

Reading has two levels. The whole text is first divided into lexemes, the names being
maximal runs of name characters, so a character that cannot occur at all is reported before
any fault of grouping. The lexemes are then read from left to right, keeping the offsets of
the parentheses that are still open, each with the parts that precede it in the enclosing
group. Offsets count the bytes of the text in UTF-8.
-/

namespace PlaneFigure.Term

open Text

/-- Why a text is not a term. Every fault but a missing term has an offset. -/
inductive ReadError where
  /-- A term is expected where the text ends. -/
  | empty
  /-- The character belongs to no lexeme. -/
  | unexpectedChar (char : Char) (offset : Nat)
  /-- The parenthesis has no partner, or closes a group without parts. -/
  | unbalanced (offset : Nat)
  /-- The parenthesis opens one group more than may be open at a time. -/
  | tooDeep (offset : Nat)
deriving DecidableEq

/-- The account of a fault that is shown to users. -/
def ReadError.message : ReadError → String
  | .empty => "empty term"
  | .unexpectedChar char offset =>
    "unexpected character '" ++ char.toString ++ "' at offset " ++ toString offset
  | .unbalanced offset => "unbalanced parenthesis at offset " ++ toString offset
  | .tooDeep offset =>
    "parentheses nested deeper than " ++ toString maxDepth ++ " at offset " ++ toString offset

/-- A lexeme with the offset at which its spelling begins. -/
inductive Lexeme where
  | name (offset : Nat) (spelling : List Char)
  | opening (offset : Nat)
  | closing (offset : Nat)
deriving DecidableEq

namespace Lexeme

/-- Put a name character in front of lexemes. A name that begins right after the character
is extended, so that names are as long as they can be. -/
def extend (offset : Nat) (char : Char) : List Lexeme → List Lexeme
  | name start spelling :: rest =>
    if start = offset + char.utf8Size then name offset (char :: spelling) :: rest
    else name offset [char] :: name start spelling :: rest
  | rest => name offset [char] :: rest

/-- The lexemes of a text that begins at an offset, or its first character that belongs to
no lexeme. -/
def ofChars (offset : Nat) : List Char → Except ReadError (List Lexeme)
  | [] => .ok []
  | char :: rest =>
    let later := offset + char.utf8Size
    if isBlank char then ofChars later rest
    else if char = '(' then (opening offset :: ·) <$> ofChars later rest
    else if char = ')' then (closing offset :: ·) <$> ofChars later rest
    else if isNameChar char then extend offset char <$> ofChars later rest
    else .error (.unexpectedChar char offset)

end Lexeme

/-- The term that the parts of a group denote: a single part denotes itself, several denote
the application of the first to the others. There is none without parts. -/
def ofParts : List Term → Option Term
  | [] => none
  | [part] => some part
  | var name :: args => some (apply name args)
  | function :: args => some (applyTo function args)

/-- A group that is still open: the offset of its parenthesis, and the parts that precede
it in the enclosing group, the latest first. -/
structure OpenGroup where
  offset : Nat
  before : List Term

/-- Read lexemes into the innermost open group, whose parts so far are given with the latest
first. Groups are listed from the innermost outwards. -/
def ofLexemes : List Lexeme → List OpenGroup → List Term → Except ReadError Term
  | [], [], parts =>
    match ofParts parts.reverse with
    | some term => .ok term
    | none => .error .empty
  | [], group :: _, parts =>
    if parts.isEmpty then .error .empty else .error (.unbalanced group.offset)
  | .name _ spelling :: rest, groups, parts =>
    ofLexemes rest groups (var (String.ofList spelling) :: parts)
  | .opening offset :: rest, groups, parts =>
    if groups.length = maxDepth then .error (.tooDeep offset)
    else ofLexemes rest (⟨offset, parts⟩ :: groups) []
  | .closing offset :: _, [], _ => .error (.unbalanced offset)
  | .closing offset :: rest, group :: groups, parts =>
    match ofParts parts.reverse with
    | some term => ofLexemes rest groups (term :: group.before)
    | none => .error (.unbalanced offset)

/-- The term that a text denotes. -/
def read (text : String) : Except ReadError Term :=
  match Lexeme.ofChars 0 text.toList with
  | .error fault => .error fault
  | .ok lexemes => ofLexemes lexemes [] []

end PlaneFigure.Term
