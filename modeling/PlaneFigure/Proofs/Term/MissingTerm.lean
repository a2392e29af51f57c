import PlaneFigure.Proofs.Term.FirstDefect

/-!
# Texts in which a term is missing

A text of blanks has no term, and that a term is missing is what reading reports. It reports the
same in one other case: when the last lexeme of the text is an opening parenthesis, and reading
comes that far without a fault. A term is missing there too, behind the parenthesis, but the text
is not empty, and the parenthesis is not blamed. With a name behind it, or a closing parenthesis,
it would be blamed, or the closing one.

So a missing term does not mean an empty text. What is reported of every other text that is not
read has an offset.
-/

namespace PlaneFigure.Term

open Text

/-- A text has no lexemes exactly if all of its characters are blank. -/
theorem Lexes.eq_nil_iff (offset : Nat) (text : List Char) (lexemes : List Lexeme)
    (lexes : Lexes offset text lexemes) :
    lexemes = [] ↔ ∀ char ∈ text, isBlank char = true := by
  induction lexes with
  | nil offset => simp
  | blank offset char rest lexemes blank _ inductionHypothesis =>
    rw [inductionHypothesis, List.forall_mem_cons]
    simp [blank]
  | opening offset rest lexemes _ _ =>
    have visible : isBlank '(' = false := by decide
    simp [visible]
  | closing offset rest lexemes _ _ =>
    have visible : isBlank ')' = false := by decide
    simp [visible]
  | name offset spelling rest lexemes inhabited named _ _ _ =>
    obtain ⟨first, others, rfl⟩ := List.exists_cons_of_ne_nil inhabited
    have visible : isBlank first ≠ true := by
      intro blank
      simp [isNameChar_of_isBlank first blank] at named
    simp [visible]

/-- If all lexemes fit, a term is missing exactly if there are no lexemes, or if the last one is an
opening parenthesis. -/
theorem Clear.ofLexemes_eq_empty_iff {lexemes : List Lexeme} (clear : Clear lexemes) :
    ofLexemes lexemes [] [] = .error .empty ↔
      lexemes = [] ∨ ∃ before opener, lexemes = before ++ [.opening opener] := by
  obtain ⟨groups, parts, reached⟩ := clear.reached
  constructor
  · intro reports
    cases open_ : unclosed lexemes with
    | nil =>
      by_contra others
      obtain ⟨term, returns⟩ := clear.returns (fun nothing => others (.inl nothing)) open_
      cases reports.symm.trans returns
    | cons innermost outer =>
      rw [reached.of_unclosed innermost outer open_] at reports
      have vacant : parts = [] := by
        by_contra inhabited
        simp [inhabited] at reports
      refine (reached.vacant.mp vacant).imp_right ?_
      rintro ⟨opener, last⟩
      obtain ⟨before, rfl⟩ := List.getLast?_eq_some_iff.mp last
      exact ⟨before, opener, rfl⟩
  · rintro (rfl | ⟨before, opener, rfl⟩)
    · rfl
    · have leaves : unclosed (before ++ [.opening opener]) = opener :: unclosed before :=
        unclosed_snoc before _
      rw [reached.of_unclosed opener _ leaves, if_pos (reached.parts_eq_nil opener (by simp))]

/-- A fault of lexemes is a missing term, or it has an offset. -/
theorem fault_of_ofLexemes (lexemes : List Lexeme) (fault : ReadError)
    (reports : ofLexemes lexemes [] [] = .error fault) :
    fault = .empty ∨ ∃ offset, fault = .unbalanced offset ∨ fault = .tooDeep offset := by
  rcases clear_or_defect lexemes with clear | ⟨before, lexeme, after, found, rfl, clear, defect⟩
  · cases open_ : unclosed lexemes with
    | nil =>
      by_cases inhabited : lexemes = []
      · subst inhabited
        exact .inl (Except.error.inj reports).symm
      · obtain ⟨term, returns⟩ := clear.returns inhabited open_
        cases reports.symm.trans returns
    | cons innermost outer =>
      obtain ⟨groups, parts, reached⟩ := clear.reached
      rw [reached.of_unclosed innermost outer open_] at reports
      obtain rfl := Except.error.inj reports
      by_cases vacant : parts = []
      · exact .inl (if_pos vacant)
      · exact .inr ⟨innermost, .inl (if_neg vacant)⟩
  · obtain rfl := Except.error.inj ((clear.reports lexeme after found defect).symm.trans reports)
    cases defect with
    | tooDeep offset _ => exact .inr ⟨offset, .inr rfl⟩
    | unopened offset _ => exact .inr ⟨offset, .inl rfl⟩
    | vacant offset _ _ => exact .inr ⟨offset, .inl rfl⟩

/-- That a term is missing is reported exactly of texts of blanks, and of texts whose last lexeme is
an opening parenthesis while every lexeme fits behind the ones in front of it. Whatever else is
reported of a text of admitted characters has an offset. -/
theorem read_eq_empty_iff (text : String) :
    (read text = .error .empty ↔
      (∀ char ∈ text.toList, isBlank char = true) ∨
        ∃ before opener, Lexes 0 text.toList (before ++ [.opening opener]) ∧
          Clear (before ++ [.opening opener])) ∧
    ((∀ char ∈ text.toList, Admitted char) → ∀ fault, read text = .error fault →
      fault = .empty ∨ ∃ offset, fault = .unbalanced offset ∨ fault = .tooDeep offset) := by
  constructor
  · constructor
    · intro reports
      by_cases admitted : ∀ char ∈ text.toList, Admitted char
      · obtain ⟨lexemes, lexes⟩ := exists_lexes 0 text.toList admitted
        rw [read_of_lexes text lexemes lexes] at reports
        rcases clear_or_defect lexemes with
          clear | ⟨before, lexeme, after, fault, rfl, clear, defect⟩
        · refine (clear.ofLexemes_eq_empty_iff.mp reports).imp ?_ ?_
          · exact (lexes.eq_nil_iff 0 text.toList lexemes).mp
          · rintro ⟨before, opener, rfl⟩
            exact ⟨before, opener, lexes, clear⟩
        · obtain rfl := Except.error.inj
            ((clear.reports lexeme after fault defect).symm.trans reports)
          cases defect
      · obtain ⟨before, char, after, split, fits, stray⟩ :=
          exists_first_stray text.toList (by simpa using admitted)
        rw [read_of_stray text before char after split fits stray] at reports
        cases reports
    · rintro (blank | ⟨before, opener, lexes, clear⟩)
      · obtain ⟨lexemes, lexes⟩ :=
          exists_lexes 0 text.toList fun char member => .inl (blank char member)
        obtain rfl := (lexes.eq_nil_iff 0 text.toList lexemes).mpr blank
        rw [read_of_lexes text [] lexes]
        rfl
      · rw [read_of_lexes text _ lexes]
        exact clear.ofLexemes_eq_empty_iff.mpr (.inr ⟨before, opener, rfl⟩)
  · intro admitted fault reports
    obtain ⟨lexemes, lexes⟩ := exists_lexes 0 text.toList admitted
    rw [read_of_lexes text lexemes lexes] at reports
    exact fault_of_ofLexemes lexemes fault reports

/-- A text is not blank although a term is missing in it: an opening parenthesis, or a predicate
with one behind it. -/
theorem read_unfinished :
    read "(" = .error .empty ∧ read "OnLine a (" = .error .empty ∧
      ¬ ∀ text, read text = .error .empty ↔ ∀ char ∈ text.toList, isBlank char = true := by
  refine ⟨rfl, rfl, ?_⟩
  intro always
  have blank := (always "(").mp rfl '(' (by decide)
  exact absurd blank (by decide)

end PlaneFigure.Term
