import PlaneFigure.Text.NameChar

/-!
# Characters of names are marks of nothing else

Name characters are apart from the blank characters and from the punctuation of terms and
programs. For code points from 128 on this compares two tables of ranges; below them it is a
matter of a few code points. A text that is made of name characters only therefore shows where
it ends, whatever mark follows it.
-/

namespace PlaneFigure.Text

/-- Ranges that lie apart have no character in common. -/
theorem covered_apart (left right : List (Nat × Nat)) (c : Char)
    (apart : ∀ first ∈ left, ∀ second ∈ right, first.2 < second.1 ∨ second.2 < first.1)
    (inLeft : covered left c = true) : covered right c = false := by
  obtain ⟨first, firstMember, fromFirst, toFirst⟩ := (covered_iff left c).mp inLeft
  rw [Bool.eq_false_iff, ne_eq, covered_iff]
  rintro ⟨second, secondMember, fromSecond, toSecond⟩
  have separated := apart first firstMember second secondMember
  omega

/-- The tables of blank characters and of letters and numerals lie apart. -/
theorem ranges_apart : ∀ first ∈ blankRanges, ∀ second ∈ letterRanges,
    first.2 < second.1 ∨ second.2 < first.1 := by
  decide +kernel

/-- A blank character below code point 128 is a control character or the space. -/
theorem toNat_of_isBlank (c : Char) (blank : isBlank c = true) (narrow : c.toNat < 128) :
    c.toNat ≤ 32 := by
  obtain ⟨range, member, fromRange, toRange⟩ := (covered_iff blankRanges c).mp blank
  have placed : ∀ range ∈ blankRanges, range.2 ≤ 32 ∨ 128 ≤ range.1 := by decide
  have bounds := placed range member
  omega

/-- The letters and digits of ASCII have code points above those of the space. -/
theorem toNat_of_isAlphanum (c : Char) (alphanumeric : c.isAlphanum = true) : 32 < c.toNat := by
  have bounds : c.isAlphanum = (decide (c.val ≥ 'A'.val ∧ c.val ≤ 'Z'.val) ||
      (decide (c.val ≥ 'a'.val) && decide (c.val ≤ 'z'.val)) ||
      (decide (c.val ≥ '0'.val) && decide (c.val ≤ '9'.val))) := rfl
  simp only [bounds, Bool.or_eq_true, Bool.and_eq_true, decide_eq_true_eq, ge_iff_le,
    UInt32.le_iff_toNat_le] at alphanumeric
  change 32 < c.val.toNat
  rcases alphanumeric with (⟨above, _⟩ | ⟨above, _⟩) | ⟨above, _⟩
  · exact Nat.lt_of_lt_of_le (by decide) above
  · exact Nat.lt_of_lt_of_le (by decide) above
  · exact Nat.lt_of_lt_of_le (by decide) above

/-- No blank character belongs to a name. -/
theorem isNameChar_of_isBlank (c : Char) (blank : isBlank c = true) : isNameChar c = false := by
  have marks : c ≠ '_' ∧ c ≠ '.' ∧ c ≠ '\'' := by
    refine ⟨?_, ?_, ?_⟩ <;> rintro rfl <;> exact absurd blank (by decide)
  have letters : isLetterOrNumeral c = false := by
    unfold isLetterOrNumeral
    by_cases narrow : c.toNat < 128
    · rw [if_pos narrow, Bool.eq_false_iff]
      intro alphanumeric
      have low := toNat_of_isBlank c blank narrow
      have high := toNat_of_isAlphanum c alphanumeric
      omega
    · rw [if_neg narrow]
      exact covered_apart blankRanges letterRanges c ranges_apart blank
  simp [isNameChar, letters, marks]

/-- The marks that separate the names of a program do not belong to names. -/
theorem isNameChar_separators :
    isNameChar '\n' = false ∧ isNameChar ' ' = false ∧ isNameChar ',' = false := by decide

/-- A text that is made of name characters only. It may be empty. -/
def Spelled (text : String) : Prop := ∀ char ∈ text.toList, isNameChar char = true

instance (text : String) : Decidable (Spelled text) :=
  decidable_of_iff (text.toList.all isNameChar = true) List.all_eq_true

/-- A text that a name can have. -/
def IsName (text : String) : Prop := text ≠ "" ∧ Spelled text

instance (text : String) : Decidable (IsName text) :=
  inferInstanceAs (Decidable (text ≠ "" ∧ Spelled text))

/-- A mark that is no name character does not occur in a text of name characters. -/
theorem Spelled.not_mem (text : String) (mark : Char) (spelled : Spelled text)
    (separates : isNameChar mark = false) : mark ∉ text.toList := by
  intro member
  have named := spelled mark member
  rw [separates] at named
  cases named

/-- A character of a joined text is one of the separator or of a text that is joined. -/
theorem mem_intercalate (separator : String) (texts : List String) (char : Char)
    (member : char ∈ (separator.intercalate texts).toList) :
    char ∈ separator.toList ∨ ∃ text ∈ texts, char ∈ text.toList := by
  induction texts with
  | nil => simp at member
  | cons text rest inductionHypothesis =>
    cases rest with
    | nil => exact .inr ⟨text, by simp, by simpa using member⟩
    | cons next others =>
      rw [String.intercalate_cons_cons, String.toList_append, String.toList_append,
        List.mem_append, List.mem_append] at member
      rcases member with (inText | inSeparator) | later
      · exact .inr ⟨text, by simp, inText⟩
      · exact .inl inSeparator
      · rcases inductionHypothesis later with inSeparator | ⟨other, found, inOther⟩
        · exact .inl inSeparator
        · exact .inr ⟨other, List.mem_cons_of_mem text found, inOther⟩

/-- Names joined by name characters make a name, if there are any. -/
theorem IsName.intercalate (separator : String) (names : List String)
    (separates : Spelled separator) (inhabited : names ≠ [])
    (named : ∀ name ∈ names, IsName name) : IsName (separator.intercalate names) := by
  constructor
  · obtain ⟨name, rest, rfl⟩ := List.exists_cons_of_ne_nil inhabited
    have nameNamed := (named name List.mem_cons_self).1
    cases rest with
    | nil => simpa using nameNamed
    | cons next others => simp [String.intercalate_cons_cons, nameNamed]
  · intro char member
    rcases mem_intercalate separator names char member with inSeparator | ⟨name, found, inName⟩
    · exact separates char inSeparator
    · exact (named name found).2 char inName

end PlaneFigure.Text
