import PlaneFigure.Proofs.Outcome
import PlaneFigure.Proofs.Text.NameChar
import PlaneFigure.Term.Reading

/-!
# The lexemes of a text

`Lexes` says what the lexemes of a text are without saying how they are found: blanks lie
between them and belong to none, a parenthesis is a lexeme by itself, and a name is a run of
name characters that no further name character follows. Dividing a text into lexemes
character by character finds exactly these, so a text has them exactly when all of its
characters are blanks, parentheses or name characters, and then only in one way.

The division works from the end of the text and extends a name to the left whenever the
character before it belongs to names. It merges two runs exactly when nothing lies between
them. This is decided by offsets, and is right because a blank takes up at least one byte.
-/

namespace PlaneFigure.Term

open Text

/-- How many bytes characters take up in UTF-8. -/
def byteLength : List Char → Nat
  | [] => 0
  | char :: rest => char.utf8Size + byteLength rest

/-- A parenthesis takes up one byte. -/
theorem utf8Size_parentheses : '('.utf8Size = 1 ∧ ')'.utf8Size = 1 := by decide

/-- The length of two texts together. -/
theorem byteLength_append (text other : List Char) :
    byteLength (text ++ other) = byteLength text + byteLength other := by
  induction text with
  | nil => simp [byteLength]
  | cons char rest inductionHypothesis => simp [byteLength, inductionHypothesis, Nat.add_assoc]

/-- The length of a text is that of its characters. -/
theorem byteLength_toList (text : String) : byteLength text.toList = text.utf8ByteSize := by
  have ofList : ∀ chars, byteLength chars = (String.ofList chars).utf8ByteSize := by
    intro chars
    induction chars with
    | nil => rfl
    | cons char rest inductionHypothesis =>
      rw [← List.singleton_append, String.ofList_append, String.utf8ByteSize_append,
        byteLength_append, inductionHypothesis, ← String.singleton_eq_ofList,
        String.utf8ByteSize_singleton]
      simp [byteLength]
  rw [ofList, String.ofList_toList]

namespace Lexeme

/-- Where the spelling of a lexeme begins. -/
def offset : Lexeme → Nat
  | name offset _ => offset
  | opening offset => offset
  | closing offset => offset

end Lexeme

/-- The lexemes of a text that begins at an offset. -/
inductive Lexes : Nat → List Char → List Lexeme → Prop where
  | nil (offset : Nat) : Lexes offset [] []
  | blank (offset : Nat) (char : Char) (rest : List Char) (lexemes : List Lexeme)
      (blank : isBlank char = true) (later : Lexes (offset + char.utf8Size) rest lexemes) :
      Lexes offset (char :: rest) lexemes
  | opening (offset : Nat) (rest : List Char) (lexemes : List Lexeme)
      (later : Lexes (offset + 1) rest lexemes) :
      Lexes offset ('(' :: rest) (.opening offset :: lexemes)
  | closing (offset : Nat) (rest : List Char) (lexemes : List Lexeme)
      (later : Lexes (offset + 1) rest lexemes) :
      Lexes offset (')' :: rest) (.closing offset :: lexemes)
  | name (offset : Nat) (spelling rest : List Char) (lexemes : List Lexeme)
      (inhabited : spelling ≠ []) (named : ∀ char ∈ spelling, isNameChar char = true)
      (maximal : ∀ char ∈ rest.head?, isNameChar char = false)
      (later : Lexes (offset + byteLength spelling) rest lexemes) :
      Lexes offset (spelling ++ rest) (.name offset spelling :: lexemes)

/-- Whether a character may occur in the text of a term. -/
def Admitted (char : Char) : Prop :=
  isBlank char = true ∨ char = '(' ∨ char = ')' ∨ isNameChar char = true

/-- A text with lexemes has only admitted characters. -/
theorem Lexes.admitted (offset : Nat) (text : List Char) (lexemes : List Lexeme)
    (lexes : Lexes offset text lexemes) : ∀ char ∈ text, Admitted char := by
  induction lexes with
  | nil offset => simp
  | blank offset char rest lexemes blank _ inductionHypothesis =>
    exact List.forall_mem_cons.mpr ⟨.inl blank, inductionHypothesis⟩
  | opening offset rest lexemes _ inductionHypothesis =>
    exact List.forall_mem_cons.mpr ⟨.inr (.inl rfl), inductionHypothesis⟩
  | closing offset rest lexemes _ inductionHypothesis =>
    exact List.forall_mem_cons.mpr ⟨.inr (.inr (.inl rfl)), inductionHypothesis⟩
  | name offset spelling rest lexemes _ named _ _ inductionHypothesis =>
    intro char member
    rcases List.mem_append.mp member with inside | after
    · exact .inr (.inr (.inr (named char inside)))
    · exact inductionHypothesis char after

/-- No lexeme begins before its text does. -/
theorem Lexes.offset_le (offset : Nat) (text : List Char) (lexemes : List Lexeme)
    (lexes : Lexes offset text lexemes) : ∀ lexeme ∈ lexemes, offset ≤ lexeme.offset := by
  induction lexes with
  | nil offset => simp
  | blank offset char rest lexemes _ _ inductionHypothesis =>
    intro lexeme member
    have bound := inductionHypothesis lexeme member
    omega
  | opening offset rest lexemes _ inductionHypothesis =>
    refine List.forall_mem_cons.mpr ⟨Nat.le_refl offset, ?_⟩
    intro lexeme member
    have bound := inductionHypothesis lexeme member
    omega
  | closing offset rest lexemes _ inductionHypothesis =>
    refine List.forall_mem_cons.mpr ⟨Nat.le_refl offset, ?_⟩
    intro lexeme member
    have bound := inductionHypothesis lexeme member
    omega
  | name offset spelling rest lexemes _ _ _ _ inductionHypothesis =>
    refine List.forall_mem_cons.mpr ⟨Nat.le_refl offset, ?_⟩
    intro lexeme member
    have bound := inductionHypothesis lexeme member
    omega

/-- Where no name character stands, no name begins. If lexemes of a text begin with a name
right at its start, then the text begins with a name character: a blank there would put the
name further on. -/
theorem Lexes.no_name_at (offset : Nat) (text : List Char) (lexemes : List Lexeme)
    (lexes : Lexes offset text lexemes)
    (maximal : ∀ char ∈ text.head?, isNameChar char = false) (spelling : List Char)
    (rest : List Lexeme) : lexemes ≠ .name offset spelling :: rest := by
  rintro rfl
  cases lexes with
  | blank _ char characters _ _ later =>
    have bound := later.offset_le _ _ _ (.name offset spelling) List.mem_cons_self
    have positive := char.utf8Size_pos
    simp only [Lexeme.offset] at bound
    omega
  | name _ _ characters _ inhabited named _ _ =>
    obtain ⟨first, others, rfl⟩ := List.exists_cons_of_ne_nil inhabited
    have plain : isNameChar first = false := maximal first (by simp)
    simp [named first List.mem_cons_self] at plain

/-- A name character in front of a text that does not begin with one is a name by itself. -/
theorem Lexes.extend_of_maximal (start : Nat) (char : Char) (text : List Char)
    (lexemes : List Lexeme) (lexes : Lexes (start + char.utf8Size) text lexemes)
    (maximal : ∀ char ∈ text.head?, isNameChar char = false) :
    Lexeme.extend start char lexemes = .name start [char] :: lexemes := by
  unfold Lexeme.extend
  split
  · rename_i found spelling rest
    split
    · rename_i touching
      exact absurd (touching ▸ rfl) (lexes.no_name_at _ _ _ maximal spelling rest)
    · rfl
  · rfl

/-- A name character in front of a text belongs to the name at its start, or else is a name by
itself. -/
theorem Lexes.extend (start : Nat) (char : Char) (text : List Char) (lexemes : List Lexeme)
    (named : isNameChar char = true) (lexes : Lexes (start + char.utf8Size) text lexemes) :
    Lexes start (char :: text) (Lexeme.extend start char lexemes) := by
  have single : byteLength [char] = char.utf8Size := by simp [byteLength]
  have alone (maximal : ∀ char ∈ text.head?, isNameChar char = false) :
      Lexes start (char :: text) (Lexeme.extend start char lexemes) := by
    rw [lexes.extend_of_maximal start char text lexemes maximal]
    exact .name start [char] text lexemes (by simp) (by simpa using named) maximal
      (by simpa only [single] using lexes)
  cases lexes with
  | nil => exact alone (by simp)
  | blank _ other rest _ blank _ =>
    exact alone (by simpa using isNameChar_of_isBlank other blank)
  | opening => exact alone (by simpa using isNameChar_parentheses.1)
  | closing => exact alone (by simpa using isNameChar_parentheses.2)
  | name _ spelling rest lexemes inhabited allNamed maximal later =>
    have length : start + byteLength (char :: spelling) =
        start + char.utf8Size + byteLength spelling := by
      simp [byteLength, Nat.add_assoc]
    have longer := Lexes.name start (char :: spelling) rest lexemes (by simp)
      (List.forall_mem_cons.mpr ⟨named, allNamed⟩) maximal (length ▸ later)
    simpa [Lexeme.extend] using longer

namespace Lexeme

/-- Blanks are passed over. -/
theorem ofChars_blank (offset : Nat) (char : Char) (rest : List Char)
    (blank : isBlank char = true) :
    ofChars offset (char :: rest) = ofChars (offset + char.utf8Size) rest := by
  simp [ofChars, blank]

/-- An opening parenthesis is a lexeme. -/
theorem ofChars_opening (offset : Nat) (rest : List Char) :
    ofChars offset ('(' :: rest) = (opening offset :: ·) <$> ofChars (offset + 1) rest := by
  have blank : isBlank '(' = false := by decide
  simp [ofChars, blank, utf8Size_parentheses]

/-- A closing parenthesis is a lexeme. -/
theorem ofChars_closing (offset : Nat) (rest : List Char) :
    ofChars offset (')' :: rest) = (closing offset :: ·) <$> ofChars (offset + 1) rest := by
  have blank : isBlank ')' = false := by decide
  simp [ofChars, blank, utf8Size_parentheses]

/-- A name character joins or begins a name. -/
theorem ofChars_named (offset : Nat) (char : Char) (rest : List Char)
    (named : isNameChar char = true) :
    ofChars offset (char :: rest) =
      extend offset char <$> ofChars (offset + char.utf8Size) rest := by
  have apart : isBlank char ≠ true := by
    intro blank
    simp [isNameChar_of_isBlank char blank] at named
  have opening : char ≠ '(' := by
    rintro rfl
    simp [isNameChar_parentheses] at named
  have closing : char ≠ ')' := by
    rintro rfl
    simp [isNameChar_parentheses] at named
  simp [ofChars, apart, opening, closing, named]

/-- The division of a text finds lexemes of it. -/
theorem lexes_of_ofChars (offset : Nat) (text : List Char) (lexemes : List Lexeme)
    (divided : ofChars offset text = .ok lexemes) : Lexes offset text lexemes := by
  induction text generalizing offset lexemes with
  | nil =>
    obtain rfl : [] = lexemes := Except.ok.inj divided
    exact .nil offset
  | cons char rest inductionHypothesis =>
    by_cases blank : isBlank char = true
    · rw [ofChars_blank offset char rest blank] at divided
      exact .blank offset char rest lexemes blank (inductionHypothesis _ lexemes divided)
    · by_cases opens : char = '('
      · subst opens
        rw [ofChars_opening, map_eq_ok_iff] at divided
        obtain ⟨later, found, rfl⟩ := divided
        exact .opening offset rest later (inductionHypothesis _ later found)
      · by_cases closes : char = ')'
        · subst closes
          rw [ofChars_closing, map_eq_ok_iff] at divided
          obtain ⟨later, found, rfl⟩ := divided
          exact .closing offset rest later (inductionHypothesis _ later found)
        · by_cases named : isNameChar char = true
          · rw [ofChars_named offset char rest named, map_eq_ok_iff] at divided
            obtain ⟨later, found, rfl⟩ := divided
            exact (inductionHypothesis _ later found).extend offset char rest later named
          · simp [ofChars, blank, opens, closes, named] at divided

/-- The division of a text that begins with a name finds it in one piece. -/
theorem ofChars_name (offset : Nat) (spelling rest : List Char) (lexemes : List Lexeme)
    (inhabited : spelling ≠ []) (named : ∀ char ∈ spelling, isNameChar char = true)
    (maximal : ∀ char ∈ rest.head?, isNameChar char = false)
    (later : Lexes (offset + byteLength spelling) rest lexemes)
    (found : ofChars (offset + byteLength spelling) rest = .ok lexemes) :
    ofChars offset (spelling ++ rest) = .ok (name offset spelling :: lexemes) := by
  induction spelling generalizing offset with
  | nil => exact absurd rfl inhabited
  | cons char others inductionHypothesis =>
    have length : offset + byteLength (char :: others) =
        offset + char.utf8Size + byteLength others := by
      simp [byteLength, Nat.add_assoc]
    rw [length] at later found
    obtain ⟨first, remaining⟩ := List.forall_mem_cons.mp named
    rw [List.cons_append, ofChars_named offset char (others ++ rest) first, map_eq_ok_iff]
    by_cases last : others = []
    · subst last
      exact ⟨lexemes, found, later.extend_of_maximal offset char rest lexemes maximal⟩
    · refine ⟨name (offset + char.utf8Size) others :: lexemes, ?_, by simp [extend]⟩
      exact inductionHypothesis (offset + char.utf8Size) last remaining later found

/-- The division of a text finds the lexemes that it has. -/
theorem ofChars_of_lexes (offset : Nat) (text : List Char) (lexemes : List Lexeme)
    (lexes : Lexes offset text lexemes) : ofChars offset text = .ok lexemes := by
  induction lexes with
  | nil offset => rfl
  | blank offset char rest lexemes blank _ inductionHypothesis =>
    rw [ofChars_blank offset char rest blank, inductionHypothesis]
  | opening offset rest lexemes _ inductionHypothesis =>
    rw [ofChars_opening, inductionHypothesis]
    rfl
  | closing offset rest lexemes _ inductionHypothesis =>
    rw [ofChars_closing, inductionHypothesis]
    rfl
  | name offset spelling rest lexemes inhabited named maximal later inductionHypothesis =>
    exact ofChars_name offset spelling rest lexemes inhabited named maximal later
      inductionHypothesis

/-- The division of a text finds exactly the lexemes that it has. -/
theorem ofChars_eq_ok_iff (offset : Nat) (text : List Char) (lexemes : List Lexeme) :
    ofChars offset text = .ok lexemes ↔ Lexes offset text lexemes :=
  ⟨lexes_of_ofChars offset text lexemes, ofChars_of_lexes offset text lexemes⟩

end Lexeme

/-- A text has lexemes in one way only. -/
theorem Lexes.unique (offset : Nat) (text : List Char) (first second : List Lexeme)
    (lexes : Lexes offset text first) (other : Lexes offset text second) : first = second := by
  rw [← Lexeme.ofChars_eq_ok_iff] at lexes other
  exact Except.ok.inj (lexes.symm.trans other)

end PlaneFigure.Term
