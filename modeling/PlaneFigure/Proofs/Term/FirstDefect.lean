import Mathlib.Data.List.Induction
import PlaneFigure.Proofs.Term.Grammar

/-!
# The first defect of a text

A text is at fault at its first character that belongs to no lexeme, or else at its first lexeme
that does not fit what stands in front of it. Which lexemes fit is decided by parentheses alone. An
opening one does not fit if as many are open as are allowed; a closing one does not if none is open,
or if it comes right behind the one that it would close. The parentheses that are open are known
from the lexemes in front, by noting the offset of each opening one and striking out the latest
with each closing one. Nothing of this mentions terms.

Reading does build terms, and keeps the parts that precede each open group. It goes through
lexemes that fit in front of others without a fault, and what it has kept then corresponds to what
is noted: the groups are the open parentheses, and the innermost group is without parts exactly
behind its own parenthesis or at the very beginning. So it reports the first lexeme that does not
fit, at the offset of that lexeme. If there is none and all parentheses are closed, there is a term.
-/

namespace PlaneFigure.Term

open Text

namespace Lexeme

/-- The offsets of the parentheses that are open behind a lexeme, the innermost first, if the given
ones are open in front of it. -/
def note (offsets : List Nat) : Lexeme → List Nat
  | name .. => offsets
  | opening offset => offset :: offsets
  | closing _ => offsets.tail

end Lexeme

/-- The offsets of the parentheses that lexemes leave open, the innermost first. -/
def unclosed (lexemes : List Lexeme) : List Nat := lexemes.foldl Lexeme.note []

/-- A lexeme does not fit behind others, which is the fault. -/
inductive Defect (before : List Lexeme) : Lexeme → ReadError → Prop where
  | tooDeep (offset : Nat) (full : (unclosed before).length = maxDepth) :
      Defect before (.opening offset) (.tooDeep offset)
  | unopened (offset : Nat) (closed : unclosed before = []) :
      Defect before (.closing offset) (.unbalanced offset)
  | vacant (offset opener : Nat) (adjacent : before.getLast? = some (.opening opener)) :
      Defect before (.closing offset) (.unbalanced offset)

/-- Every lexeme fits behind the ones in front of it. -/
inductive Clear : List Lexeme → Prop where
  | nil : Clear []
  | snoc (before : List Lexeme) (lexeme : Lexeme) (clear : Clear before)
      (fits : ∀ fault, ¬ Defect before lexeme fault) : Clear (before ++ [lexeme])

/-- One lexeme more is noted behind the others. -/
theorem unclosed_snoc (before : List Lexeme) (lexeme : Lexeme) :
    unclosed (before ++ [lexeme]) = lexeme.note (unclosed before) := by
  simp [unclosed]

/-- Lexemes all fit, or there is a first one that does not. -/
theorem clear_or_defect (lexemes : List Lexeme) :
    Clear lexemes ∨ ∃ before lexeme after fault,
      lexemes = before ++ lexeme :: after ∧ Clear before ∧ Defect before lexeme fault := by
  induction lexemes using List.reverseRecOn with
  | nil => exact .inl .nil
  | append_singleton before last inductionHypothesis =>
    rcases inductionHypothesis with clear | ⟨earlier, lexeme, after, fault, rfl, clear, defect⟩
    · by_cases defective : ∃ fault, Defect before last fault
      · obtain ⟨fault, defect⟩ := defective
        exact .inr ⟨before, last, [], fault, rfl, clear, defect⟩
      · exact .inl (.snoc before last clear (not_exists.mp defective))
    · exact .inr ⟨earlier, lexeme, after ++ [last], fault, by simp, clear, defect⟩

/-- Parts that have been read denote a term. -/
theorem exists_ofParts {parts : List Term} (inhabited : parts ≠ []) :
    ∃ term, ofParts parts.reverse = some term := by
  obtain ⟨first, others, reversed⟩ :=
    List.exists_cons_of_ne_nil (List.reverse_ne_nil_iff.mpr inhabited)
  exact ⟨_, by rw [reversed, ofParts_cons]⟩

/-- Reading has come through lexemes to the given open groups and parts. -/
structure Reached (before : List Lexeme) (groups : List OpenGroup) (parts : List Term) : Prop where
  /-- From here on, reading depends on the lexemes that are left. -/
  continues : ∀ rest, ofLexemes (before ++ rest) [] [] = ofLexemes rest groups parts
  /-- The open groups are the open parentheses. -/
  offsets : groups.map OpenGroup.offset = unclosed before
  /-- Parts are missing at the beginning and right behind an opening parenthesis. -/
  vacant : parts = [] ↔ before = [] ∨ ∃ opener, before.getLast? = some (.opening opener)

namespace Reached

variable {before : List Lexeme} {groups : List OpenGroup} {parts : List Term}

/-- Parts are there anywhere else. -/
theorem parts_ne_nil (reached : Reached before groups parts) (inhabited : before ≠ [])
    (apart : ∀ opener, before.getLast? ≠ some (.opening opener)) : parts ≠ [] := by
  rw [ne_eq, reached.vacant]
  rintro (nothing | ⟨opener, adjacent⟩)
  · exact inhabited nothing
  · exact apart opener adjacent

/-- Reading starts without groups and without parts. -/
theorem nil : Reached [] [] [] := ⟨fun _ => rfl, rfl, by simp⟩

/-- There are as many open groups as open parentheses. -/
theorem length (reached : Reached before groups parts) :
    groups.length = (unclosed before).length := by
  rw [← reached.offsets, List.length_map]

/-- Parts are missing behind an opening parenthesis. -/
theorem parts_eq_nil (reached : Reached before groups parts) (opener : Nat)
    (adjacent : before.getLast? = some (.opening opener)) : parts = [] :=
  reached.vacant.mpr (.inr ⟨opener, adjacent⟩)

/-- A lexeme that does not fit is what reading reports, whatever comes behind it. -/
theorem reports (reached : Reached before groups parts) (lexeme : Lexeme) (after : List Lexeme)
    (fault : ReadError) (defect : Defect before lexeme fault) :
    ofLexemes (before ++ lexeme :: after) [] [] = .error fault := by
  rw [reached.continues]
  cases defect with
  | tooDeep offset full => simp [ofLexemes, reached.length, full]
  | unopened offset closed =>
    obtain rfl : groups = [] := by simpa [closed] using reached.offsets
    rfl
  | vacant offset opener adjacent =>
    obtain rfl := reached.parts_eq_nil opener adjacent
    cases groups <;> rfl

/-- A lexeme that fits is read. -/
theorem snoc (reached : Reached before groups parts) (lexeme : Lexeme)
    (fits : ∀ fault, ¬ Defect before lexeme fault) :
    ∃ groups' parts', Reached (before ++ [lexeme]) groups' parts' := by
  cases lexeme with
  | name offset spelling =>
    refine ⟨groups, var (String.ofList spelling) :: parts, ?_, ?_, ?_⟩
    · intro rest
      rw [List.append_assoc, reached.continues]
      rfl
    · rw [unclosed_snoc, reached.offsets]
      rfl
    · simp
  | opening offset =>
    have room : groups.length ≠ maxDepth := by
      rw [reached.length]
      exact fun full => fits _ (.tooDeep offset full)
    refine ⟨⟨offset, parts⟩ :: groups, [], ?_, ?_, ?_⟩
    · intro rest
      rw [List.append_assoc, reached.continues]
      simp [ofLexemes, room]
    · rw [unclosed_snoc, List.map_cons, reached.offsets]
      rfl
    · simp
  | closing offset =>
    have opened : unclosed before ≠ [] := fun closed => fits _ (.unopened offset closed)
    have inhabited : before ≠ [] := by
      rintro rfl
      exact opened rfl
    obtain ⟨term, denotes⟩ := exists_ofParts (reached.parts_ne_nil inhabited
      fun opener adjacent => fits _ (.vacant offset opener adjacent))
    cases groups with
    | nil => exact absurd reached.offsets.symm opened
    | cons group others =>
      refine ⟨others, term :: group.before, ?_, ?_, ?_⟩
      · intro rest
        rw [List.append_assoc, reached.continues]
        simp [ofLexemes, denotes]
      · rw [unclosed_snoc, ← reached.offsets]
        rfl
      · simp

/-- At the end, what is left to read is nothing. -/
theorem ends (reached : Reached before groups parts) :
    ofLexemes before [] [] = ofLexemes [] groups parts := by
  have continued := reached.continues []
  rwa [List.append_nil] at continued

/-- At the end, a term is missing behind an opening parenthesis, and otherwise the innermost open
parenthesis has no partner. -/
theorem of_unclosed (reached : Reached before groups parts) (innermost : Nat) (outer : List Nat)
    (leaves : unclosed before = innermost :: outer) :
    ofLexemes before [] [] =
      .error (if parts = [] then .empty else .unbalanced innermost) := by
  rw [reached.ends]
  obtain ⟨group, others, rfl, rfl, _⟩ := List.map_eq_cons_iff.mp (reached.offsets.trans leaves)
  cases parts <;> rfl

/-- At the end of lexemes that leave nothing open there is a term. -/
theorem of_closed (reached : Reached before groups parts) (inhabited : before ≠ [])
    (closed : unclosed before = []) : ∃ term, ofLexemes before [] [] = .ok term := by
  have apart : ∀ opener, before.getLast? ≠ some (.opening opener) := by
    intro opener adjacent
    obtain ⟨earlier, rfl⟩ := List.getLast?_eq_some_iff.mp adjacent
    simp [unclosed_snoc, Lexeme.note] at closed
  obtain ⟨term, denotes⟩ := exists_ofParts (reached.parts_ne_nil inhabited apart)
  obtain rfl : groups = [] := by simpa [closed] using reached.offsets
  exact ⟨term, by rw [reached.ends]; simp only [ofLexemes, denotes]⟩

end Reached

/-- Reading comes through lexemes that all fit. The induction follows the lexemes from the first to
the last. -/
theorem Clear.reached {lexemes : List Lexeme} (clear : Clear lexemes) :
    ∃ groups parts, Reached lexemes groups parts := by
  induction clear with
  | nil => exact ⟨[], [], .nil⟩
  | snoc before lexeme _ fits inductionHypothesis =>
    obtain ⟨groups, parts, reached⟩ := inductionHypothesis
    exact reached.snoc lexeme fits

/-- The first lexeme that does not fit is what reading reports. -/
theorem Clear.reports {before : List Lexeme} (clear : Clear before) (lexeme : Lexeme)
    (after : List Lexeme) (fault : ReadError) (defect : Defect before lexeme fault) :
    ofLexemes (before ++ lexeme :: after) [] [] = .error fault := by
  obtain ⟨groups, parts, reached⟩ := clear.reached
  exact reached.reports lexeme after fault defect

/-- Lexemes that all fit and leave nothing open are read, if there are any. -/
theorem Clear.returns {lexemes : List Lexeme} (clear : Clear lexemes) (inhabited : lexemes ≠ [])
    (closed : unclosed lexemes = []) : ∃ term, ofLexemes lexemes [] [] = .ok term := by
  obtain ⟨groups, parts, reached⟩ := clear.reached
  exact reached.of_closed inhabited closed

/-- In front of the first character that belongs to no lexeme, the division of a text finds no
fault. -/
theorem Lexeme.ofChars_of_not_admitted (offset : Nat) (before : List Char) (char : Char)
    (after : List Char) (admitted : ∀ earlier ∈ before, Admitted earlier)
    (stray : ¬ Admitted char) :
    ofChars offset (before ++ char :: after) =
      .error (.unexpectedChar char (offset + byteLength before)) := by
  induction before generalizing offset with
  | nil =>
    obtain ⟨notBlank, notOpening, notClosing, notNamed⟩ :
        ¬ isBlank char = true ∧ char ≠ '(' ∧ char ≠ ')' ∧ ¬ isNameChar char = true := by
      simpa only [Admitted, not_or] using stray
    simp [ofChars, notBlank, notOpening, notClosing, notNamed, byteLength]
  | cons first rest inductionHypothesis =>
    obtain ⟨fits, later⟩ := List.forall_mem_cons.mp admitted
    have remains := inductionHypothesis (offset + first.utf8Size) later
    have length : offset + byteLength (first :: rest) =
        offset + first.utf8Size + byteLength rest := by
      simp [byteLength, Nat.add_assoc]
    rw [length, List.cons_append]
    rcases fits with blank | rfl | rfl | named
    · rw [ofChars_blank offset first _ blank, remains]
    · exact (ofChars_opening offset _).trans (congrArg _ remains)
    · exact (ofChars_closing offset _).trans (congrArg _ remains)
    · rw [ofChars_named offset first _ named, remains]
      rfl

instance (char : Char) : Decidable (Admitted char) :=
  inferInstanceAs (Decidable (_ ∨ _ ∨ _ ∨ _))

/-- If some character belongs to no lexeme, there is a first one that does not. -/
theorem exists_first_stray (text : List Char) (stray : ∃ char ∈ text, ¬ Admitted char) :
    ∃ before char after, text = before ++ char :: after ∧
      (∀ earlier ∈ before, Admitted earlier) ∧ ¬ Admitted char := by
  cases found : text.find? fun char => ¬ Admitted char with
  | none =>
    obtain ⟨char, member, notAdmitted⟩ := stray
    exact absurd (decide_eq_true notAdmitted) (List.find?_eq_none.mp found char member)
  | some char =>
    obtain ⟨notAdmitted, before, after, split, admitted⟩ :=
      List.find?_eq_some_iff_append.mp found
    exact ⟨before, char, after, split, by simpa using admitted, by simpa using notAdmitted⟩

/-- A text of admitted characters has lexemes. -/
theorem exists_lexes (offset : Nat) (text : List Char) (admitted : ∀ char ∈ text, Admitted char) :
    ∃ lexemes, Lexes offset text lexemes := by
  induction text generalizing offset with
  | nil => exact ⟨[], .nil offset⟩
  | cons first rest inductionHypothesis =>
    obtain ⟨fits, later⟩ := List.forall_mem_cons.mp admitted
    obtain ⟨lexemes, lexes⟩ := inductionHypothesis (offset + first.utf8Size) later
    rcases fits with blank | rfl | rfl | named
    · exact ⟨lexemes, .blank offset first rest lexemes blank lexes⟩
    · exact ⟨_, .opening offset rest lexemes lexes⟩
    · exact ⟨_, .closing offset rest lexemes lexes⟩
    · exact ⟨_, lexes.extend offset first rest lexemes named⟩

/-- A text with lexemes is read as these. -/
theorem read_of_lexes (text : String) (lexemes : List Lexeme)
    (lexes : Lexes 0 text.toList lexemes) : read text = ofLexemes lexemes [] [] := by
  simp only [read, Lexeme.ofChars_of_lexes 0 text.toList lexemes lexes]

/-- The first character of a text that belongs to no lexeme is reported, with the number of bytes in
front of it, whatever else is wrong. -/
theorem read_of_stray (text : String) (before : List Char) (char : Char) (after : List Char)
    (split : text.toList = before ++ char :: after)
    (admitted : ∀ earlier ∈ before, Admitted earlier) (stray : ¬ Admitted char) :
    read text = .error (.unexpectedChar char (byteLength before)) := by
  have divided := Lexeme.ofChars_of_not_admitted 0 before char after admitted stray
  rw [Nat.zero_add, ← split] at divided
  simp only [read, divided]

/-- Reading reports the first defect of a text. If a character belongs to no lexeme, that is the
first such character, with the number of bytes in front of it. Otherwise the text has lexemes. If
one of them does not fit behind the ones in front of it, reading reports the first that does not,
at its offset. If all fit and parentheses are left open, reading fails, and if it then blames a
parenthesis, it is the innermost one that is open. If all fit and none is left open, reading
succeeds, provided there is a lexeme at all. One of these is the case. -/
theorem read_first_defect (text : String) :
    ((∃ char ∈ text.toList, ¬ Admitted char) →
      ∃ before char after, text.toList = before ++ char :: after ∧
        (∀ earlier ∈ before, Admitted earlier) ∧ ¬ Admitted char ∧
        read text = .error (.unexpectedChar char (byteLength before))) ∧
    ((∀ char ∈ text.toList, Admitted char) → ∃ lexemes, Lexes 0 text.toList lexemes ∧
      (∀ before lexeme after fault, lexemes = before ++ lexeme :: after → Clear before →
        Defect before lexeme fault → read text = .error fault) ∧
      (Clear lexemes → ∀ innermost outer, unclosed lexemes = innermost :: outer →
        (∃ fault, read text = .error fault) ∧
          ∀ offset, read text = .error (.unbalanced offset) → offset = innermost) ∧
      (Clear lexemes → unclosed lexemes = [] → lexemes ≠ [] → ∃ term, read text = .ok term) ∧
      (Clear lexemes ∨ ∃ before lexeme after fault, lexemes = before ++ lexeme :: after ∧
        Clear before ∧ Defect before lexeme fault)) := by
  constructor
  · intro exists_stray
    obtain ⟨before, char, after, split, admitted, stray⟩ :=
      exists_first_stray text.toList exists_stray
    exact ⟨before, char, after, split, admitted, stray,
      read_of_stray text before char after split admitted stray⟩
  · intro admitted
    obtain ⟨lexemes, lexes⟩ := exists_lexes 0 text.toList admitted
    refine ⟨lexemes, lexes, ?_, ?_, ?_, clear_or_defect lexemes⟩
    · rintro before lexeme after fault rfl clear defect
      rw [read_of_lexes text _ lexes, clear.reports lexeme after fault defect]
    · intro clear innermost outer leaves
      obtain ⟨groups, parts, reached⟩ := clear.reached
      rw [read_of_lexes text lexemes lexes, reached.of_unclosed innermost outer leaves]
      refine ⟨⟨_, rfl⟩, ?_⟩
      intro offset blames
      by_cases vacant : parts = []
      · simp [vacant] at blames
      · simpa [vacant, eq_comm] using blames
    · intro clear closed inhabited
      rw [read_of_lexes text lexemes lexes]
      exact clear.returns inhabited closed

/-- Offsets count bytes: é has two. Of two open parentheses, the inner one is blamed. -/
example : read "é (a ()" = .error (.unbalanced 7) ∧ read "é (a (b)" = .error (.unbalanced 3) ∧
    read "é (a (b c" = .error (.unbalanced 6) :=
  ⟨rfl, rfl, rfl⟩

end PlaneFigure.Term
