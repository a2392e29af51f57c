import PlaneFigure.Diagram.Program
import PlaneFigure.Proofs.Text.NameChar

/-!
# Reading programs back from their text

The text of a program is read by the layout engine, so it should say which program it came
from. A line is the header, a kind with a key, or a predicate with keys in parentheses. The
word at its start tells which of these it is, and the character after this word tells
whether keys in parentheses follow.

This needs that keys are made of name characters, which are none of the marks that separate
things: the end of a line, the space, the comma and the parentheses. It does not need that
keys are not empty. Neither the header nor declarations are expected anywhere, and the
program may have any number of lines. One without lines has the empty text, which no line
has.
-/

namespace PlaneFigure

open Text

/-- The keys that occur in a line, in order. -/
def Line.keys : Line → List String
  | .autoLabel => []
  | .declare _ key => [key]
  | .fact stated => stated.operands

/-- The keys that occur in a program, in order and with repetitions. -/
def Program.keys (program : Program) : List String := program.lines.flatMap Line.keys

/-- What a line may be, up to its keys. -/
inductive Production where
  | header
  | declaration (kind : Kind)
  | fact (shape : Shape)
deriving DecidableEq

/-- The texts of lines. Facts may have any number of keys here, though not none, and keys may
be empty. -/
inductive Produces : Production → List String → String → Prop where
  | header : Produces .header [] "AutoLabel All"
  | declaration (kind : Kind) (key : String) (spelled : Spelled key) :
      Produces (.declaration kind) [key] (kind.name ++ " " ++ key)
  | fact (shape : Shape) (keys : List String) (inhabited : keys ≠ [])
      (spelled : ∀ key ∈ keys, Spelled key) :
      Produces (.fact shape) keys (shape.name ++ "(" ++ ", ".intercalate keys ++ ")")

/-- What a line is, up to its keys. -/
def Line.production : Line → Production
  | .autoLabel => .header
  | .declare kind _ => .declaration kind
  | .fact stated => .fact stated.shape

/-- The name of a kind is made of name characters. -/
theorem Kind.spelled_name (kind : Kind) : Spelled kind.name := by cases kind <;> decide

/-- The name of a shape is made of name characters. -/
theorem Shape.spelled_name (shape : Shape) : Spelled shape.name := by cases shape <;> decide

/-- The text of a line is what its production and its keys produce. -/
theorem Line.produces (line : Line) (spelled : ∀ key ∈ line.keys, Spelled key) :
    Produces line.production line.keys line.text := by
  cases line with
  | autoLabel => exact .header
  | declare kind key => exact .declaration kind key (spelled key List.mem_cons_self)
  | fact stated =>
    have inhabited : stated.operands ≠ [] := by cases stated <;> simp [Fact.operands]
    exact .fact stated.shape stated.operands inhabited spelled

/-- No line ends before its text does. -/
theorem Produces.unbroken (production : Production) (keys : List String) (text : String)
    (produces : Produces production keys text) : '\n' ∉ text.toList := by
  have separates := isNameChar_separators.1
  cases produces with
  | header => decide
  | declaration kind key spelled =>
    have inName := kind.spelled_name.not_mem kind.name '\n' separates
    have inKey := spelled.not_mem key '\n' separates
    simp [inName, inKey]
  | fact shape keys inhabited spelled =>
    have inName := shape.spelled_name.not_mem shape.name '\n' separates
    have inKeys : '\n' ∉ (", ".intercalate keys).toList := by
      intro member
      rcases mem_intercalate ", " keys '\n' member with inSeparator | ⟨key, found, inKey⟩
      · exact absurd inSeparator (by decide)
      · exact (spelled key found).not_mem key '\n' separates inKey
    simp only [String.toList_append, List.mem_append, not_or]
    exact ⟨⟨⟨inName, by decide⟩, inKeys⟩, by decide⟩

/-- The kind with a name. -/
def Kind.ofName? (name : List Char) : Option Kind :=
  [point, line, circle].find? fun kind => kind.name.toList = name

/-- The shape with a name. -/
def Shape.ofName? (name : List Char) : Option Shape :=
  all.find? fun shape => shape.name.toList = name

/-- The keys between parentheses. Commas separate them, other marks are disregarded. -/
def keysOfChars (text : List Char) : List String :=
  ((text.filter fun char => isNameChar char || char == ',').splitOn ',').map String.ofList

/-- Read the text of a line: a word at its start, and what follows the mark behind it. -/
def Production.ofChars? (text : List Char) : Option (Production × List String) :=
  let word := text.takeWhile isNameChar
  match text.dropWhile isNameChar with
  | ' ' :: rest =>
    if word = "AutoLabel".toList ∧ rest = "All".toList then some (header, [])
    else (Kind.ofName? word).map fun kind => (declaration kind, [String.ofList rest])
  | '(' :: rest => (Shape.ofName? word).map fun shape => (fact shape, keysOfChars rest)
  | _ => none

/-- The line with a production and keys, if the number of keys is right. -/
def Line.ofProduction? : Production → List String → Option Line
  | .header, [] => some autoLabel
  | .declaration kind, [key] => some (declare kind key)
  | .fact shape, keys => (Fact.ofOperands? shape keys).map fact
  | _, _ => none

/-- Read a line back from its text. -/
def Line.ofText? (text : String) : Option Line :=
  (Production.ofChars? text.toList).bind fun parts => Line.ofProduction? parts.1 parts.2

/-- The lines of a text, which the ends of lines separate. -/
def textLines (text : String) : List String := (text.toList.splitOn '\n').map String.ofList

/-- Read a program back from its text. -/
def Program.ofText? (text : String) : Option Program :=
  if text = "" then some ⟨[]⟩ else ((textLines text).mapM Line.ofText?).map Program.mk

/-- A kind is found by its name. -/
theorem Kind.ofName?_name (kind : Kind) : ofName? kind.name.toList = some kind := by
  cases kind <;> rfl

/-- A shape is found by its name. -/
theorem Shape.ofName?_name (shape : Shape) : ofName? shape.name.toList = some shape := by
  cases shape <;> rfl

/-- A word of name characters ends where another mark stands. -/
theorem takeWhile_word (word : String) (mark : Char) (rest : List Char) (spelled : Spelled word)
    (separates : isNameChar mark = false) :
    (word.toList ++ mark :: rest).takeWhile isNameChar = word.toList ∧
      (word.toList ++ mark :: rest).dropWhile isNameChar = mark :: rest := by
  rw [List.takeWhile_append_of_pos spelled, List.dropWhile_append_of_pos spelled]
  simp [separates]

/-- Dropping characters from a joined text drops them from the texts and the separator. -/
theorem filter_intercalate (keep : Char → Bool) (separator : List Char)
    (texts : List (List Char)) :
    (separator.intercalate texts).filter keep =
      (separator.filter keep).intercalate (texts.map fun text => text.filter keep) := by
  induction texts with
  | nil => rfl
  | cons text rest inductionHypothesis =>
    cases rest with
    | nil => simp
    | cons next others =>
      rw [List.intercalate_cons_cons, List.filter_append, List.filter_append,
        inductionHypothesis]
      simp only [List.map_cons, List.intercalate_cons_cons]

/-- Keys are read back from between parentheses. What is dropped are the space behind every
comma and the closing parenthesis. -/
theorem keysOfChars_intercalate (keys : List String) (inhabited : keys ≠ [])
    (spelled : ∀ key ∈ keys, Spelled key) :
    keysOfChars ((", ".intercalate keys).toList ++ [')']) = keys := by
  have apart : ∀ chars ∈ keys.map String.toList, ',' ∉ chars := by
    intro chars member comma
    obtain ⟨key, found, rfl⟩ := List.mem_map.mp member
    exact (spelled key found).not_mem key ',' isNameChar_separators.2.2 comma
  have kept : (keys.map String.toList).map
      (fun text => text.filter fun char => isNameChar char || char == ',') =
        keys.map String.toList := by
    rw [List.map_map]
    apply List.map_congr_left
    intro key found
    apply List.filter_eq_self.mpr
    intro char member
    simp [spelled key found char member]
  have separator : ", ".toList.filter (fun char => isNameChar char || char == ',') = [','] := by
    decide
  have closing : [')'].filter (fun char => isNameChar char || char == ',') = [] := by decide
  unfold keysOfChars
  rw [List.filter_append, closing, List.append_nil, String.toList_intercalate,
    filter_intercalate, separator, kept,
    List.splitOn_intercalate ',' apart (by simpa using inhabited), List.map_map]
  simp

/-- The text of a line determines its production and its keys. -/
theorem Produces.ofChars? (production : Production) (keys : List String) (text : String)
    (produces : Produces production keys text) :
    Production.ofChars? text.toList = some (production, keys) := by
  cases produces with
  | header => rfl
  | declaration kind key spelled =>
    have divided := takeWhile_word kind.name ' ' key.toList kind.spelled_name
      isNameChar_separators.2.1
    have other : kind.name.toList ≠ "AutoLabel".toList := by cases kind <;> decide
    have chars : (kind.name ++ " " ++ key).toList = kind.name.toList ++ ' ' :: key.toList := by
      simp
    simp only [Production.ofChars?, chars, divided, other, kind.ofName?_name]
    simp
  | fact shape keys inhabited spelled =>
    have divided := takeWhile_word shape.name '(' ((", ".intercalate keys).toList ++ [')'])
      shape.spelled_name isNameChar_parentheses.1
    have chars : (shape.name ++ "(" ++ ", ".intercalate keys ++ ")").toList =
        shape.name.toList ++ '(' :: ((", ".intercalate keys).toList ++ [')']) := by
      simp
    simp only [Production.ofChars?, chars, divided, shape.ofName?_name,
      keysOfChars_intercalate keys inhabited spelled]
    simp

/-- The text of a line is produced in one way only. -/
theorem Produces.unique (production other : Production) (keys otherKeys : List String)
    (text : String) (produces : Produces production keys text)
    (otherwise : Produces other otherKeys text) : other = production ∧ otherKeys = keys := by
  have same := (produces.ofChars? production keys text).symm.trans
    (otherwise.ofChars? other otherKeys text)
  simp only [Option.some.injEq, Prod.mk.injEq] at same
  exact ⟨same.1.symm, same.2.symm⟩

/-- A line is determined by its production and its keys. -/
theorem Line.ofProduction?_keys (line : Line) :
    ofProduction? line.production line.keys = some line := by
  cases line with
  | autoLabel => rfl
  | declare kind key => rfl
  | fact stated =>
    have found : Fact.ofOperands? stated.shape stated.operands = some stated :=
      (Fact.ofOperands?_eq_some_iff stated.shape stated.operands stated).mpr ⟨rfl, rfl⟩
    simp [production, keys, ofProduction?, found]

/-- A line is read back from its text. -/
theorem Line.ofText?_text (line : Line) (spelled : ∀ key ∈ line.keys, Spelled key) :
    ofText? line.text = some line := by
  have produces := line.produces spelled
  simp only [ofText?, produces.ofChars? line.production line.keys line.text, Option.bind_some]
  exact line.ofProduction?_keys

/-- The keys of a line are keys of the program. -/
theorem Program.spelled_line (program : Program) (spelled : ∀ key ∈ program.keys, Spelled key)
    (line : Line) (member : line ∈ program.lines) : ∀ key ∈ line.keys, Spelled key := by
  intro key found
  exact spelled key (List.mem_flatMap.mpr ⟨line, member, found⟩)

/-- The lines of the text of a program are the texts of its lines, unless it has none. -/
theorem Program.textLines_text (program : Program) (inhabited : program.lines ≠ [])
    (spelled : ∀ key ∈ program.keys, Spelled key) :
    textLines program.text = program.lines.map Line.text := by
  have unbroken : ∀ chars ∈ (program.lines.map Line.text).map String.toList, '\n' ∉ chars := by
    intro chars member broken
    obtain ⟨text, inTexts, rfl⟩ := List.mem_map.mp member
    obtain ⟨line, found, rfl⟩ := List.mem_map.mp inTexts
    have produces := line.produces (program.spelled_line spelled line found)
    exact produces.unbroken line.production line.keys line.text broken
  unfold textLines Program.text
  have separator : "\n".toList = ['\n'] := rfl
  rw [String.toList_intercalate, separator,
    List.splitOn_intercalate '\n' unbroken (by simpa using inhabited), List.map_map]
  simp

/-- A line has a text. -/
theorem Line.text_ne_empty (line : Line) : line.text ≠ "" := by
  cases line with
  | autoLabel => decide
  | declare kind key => cases kind <;> simp [text, Kind.name]
  | fact stated => cases stated <;> simp [text, Fact.text]

/-- Only the program without lines has the empty text. -/
theorem Program.text_ne_empty (program : Program) (inhabited : program.lines ≠ []) :
    program.text ≠ "" := by
  obtain ⟨line, rest, lines⟩ := List.exists_cons_of_ne_nil inhabited
  have first := line.text_ne_empty
  unfold Program.text
  rw [lines]
  cases rest with
  | nil => simpa using first
  | cons next others => simp [String.intercalate_cons_cons, first]

/-- Reading back lines one after the other. -/
theorem mapM_ofText? (lines : List Line)
    (spelled : ∀ line ∈ lines, ∀ key ∈ line.keys, Spelled key) :
    (lines.map Line.text).mapM Line.ofText? = some lines := by
  induction lines with
  | nil => rfl
  | cons line rest inductionHypothesis =>
    obtain ⟨lineSpelled, restSpelled⟩ := List.forall_mem_cons.mp spelled
    simp [List.mapM_cons, line.ofText?_text lineSpelled, inductionHypothesis restSpelled]

/-- A program is read back from its text. -/
theorem Program.ofText?_text (program : Program) (spelled : ∀ key ∈ program.keys, Spelled key) :
    ofText? program.text = some program := by
  by_cases vacant : program.lines = []
  · obtain rfl : program = ⟨[]⟩ := congrArg Program.mk vacant
    rfl
  · unfold ofText?
    rw [if_neg (program.text_ne_empty vacant), program.textLines_text vacant spelled,
      mapM_ofText? program.lines (program.spelled_line spelled)]
    rfl

end PlaneFigure
