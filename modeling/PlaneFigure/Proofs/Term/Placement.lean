import Mathlib.Logic.Relation
import PlaneFigure.Proofs.Term.MissingTerm

/-!
# Where lexemes stand in a text

A text can be cut at a place where no name runs through, that is, where not both the character in
front of the place and the one behind it belong to names. Its lexemes are then those of the two
pieces, and pieces that have lexemes can be put together in the same way. What the lexemes of a
piece are, but for their offsets, does not depend on where the piece stands.

The text can be cut in front of each of its lexemes and behind it. So the lexeme is spelled out
between the two cuts, its offset counts the bytes of the piece in front, and all further lexemes
begin behind it, a name not even right behind another one. Bytes that are left over belong to
blanks. Blanks have no lexemes of their own, so they can be put where the text can be cut, or taken
out from there, and neither what the lexemes are nor what term they denote is affected.
-/

namespace PlaneFigure.Term

open Text

/-- No name runs from one piece of a text into the next: the first does not end with a name
character, or the second does not begin with one. -/
def Apart (front back : List Char) : Prop :=
  (∀ char ∈ front.getLast?, isNameChar char = false) ∨
    ∀ char ∈ back.head?, isNameChar char = false

/-- Only the end of the first piece matters. -/
theorem Apart.of_append_left (earlier front back : List Char)
    (apart : Apart (earlier ++ front) back) : Apart front back := by
  refine apart.imp_left fun ends char last => ends char ?_
  rw [Option.mem_def] at last
  simp [List.getLast?_append, last]

/-- Only the beginning of the second piece matters. -/
theorem Apart.of_append_right (front back later : List Char)
    (apart : Apart front (back ++ later)) : Apart front back := by
  refine apart.imp_right fun begins char first => begins char ?_
  rw [Option.mem_def] at first
  simp [List.head?_append, first]

/-- Blanks end no name. -/
theorem apart_of_blanks (blanks back : List Char) (blank : ∀ char ∈ blanks, isBlank char = true) :
    Apart blanks back :=
  .inl fun char last =>
    isNameChar_of_isBlank char (blank char (List.mem_of_getLast? (Option.mem_def.mp last)))

/-- If blanks are put between pieces that are apart, the first piece is apart from the rest. -/
theorem Apart.blanks (front blanks back : List Char) (blank : ∀ char ∈ blanks, isBlank char = true)
    (apart : Apart front back) : Apart front (blanks ++ back) := by
  cases blanks with
  | nil => exact apart
  | cons char others =>
    have visible := isNameChar_of_isBlank char (blank char List.mem_cons_self)
    exact .inr (by simpa using visible)

/-- Pieces that are apart can be put together. The induction follows the lexemes of the first piece;
a name at its end is still as long as it can be. -/
theorem Lexes.join (start : Nat) (front back : List Char) (earlier later : List Lexeme)
    (lexes : Lexes start front earlier) (behind : Lexes (start + byteLength front) back later)
    (apart : Apart front back) : Lexes start (front ++ back) (earlier ++ later) := by
  induction lexes with
  | nil start => simpa [byteLength] using behind
  | blank start char rest lexemes blank _ inductionHypothesis =>
    refine .blank start char (rest ++ back) (lexemes ++ later) blank (inductionHypothesis ?_ ?_)
    · simpa [byteLength, Nat.add_assoc] using behind
    · exact .of_append_left [char] rest back apart
  | opening start rest lexemes _ inductionHypothesis =>
    refine .opening start (rest ++ back) (lexemes ++ later) (inductionHypothesis ?_ ?_)
    · simpa [byteLength, utf8Size_parentheses, Nat.add_assoc] using behind
    · exact .of_append_left ['('] rest back apart
  | closing start rest lexemes _ inductionHypothesis =>
    refine .closing start (rest ++ back) (lexemes ++ later) (inductionHypothesis ?_ ?_)
    · simpa [byteLength, utf8Size_parentheses, Nat.add_assoc] using behind
    · exact .of_append_left [')'] rest back apart
  | name start spelling rest lexemes inhabited named maximal _ inductionHypothesis =>
    have still : ∀ char ∈ (rest ++ back).head?, isNameChar char = false := by
      cases rest with
      | cons first others => simpa using maximal
      | nil =>
        refine apart.resolve_left fun ends => ?_
        have final := ends (spelling.getLast inhabited)
          (by simp [List.getLast?_eq_some_getLast inhabited])
        simp [named _ (List.getLast_mem inhabited)] at final
    rw [List.append_assoc]
    refine .name start spelling (rest ++ back) (lexemes ++ later) inhabited named still
      (inductionHypothesis ?_ ?_)
    · simpa [byteLength_append, Nat.add_assoc] using behind
    · exact .of_append_left spelling rest back apart

/-- A text can be cut into pieces that are apart. Both pieces have lexemes, since all of their
characters are admitted, and these are put together again. -/
theorem Lexes.cut (start : Nat) (front back : List Char) (lexemes : List Lexeme)
    (lexes : Lexes start (front ++ back) lexemes) (apart : Apart front back) :
    ∃ earlier later, lexemes = earlier ++ later ∧ Lexes start front earlier ∧
      Lexes (start + byteLength front) back later := by
  have admitted := lexes.admitted
  rw [List.forall_mem_append] at admitted
  obtain ⟨earlier, first⟩ := exists_lexes start front admitted.1
  obtain ⟨later, second⟩ := exists_lexes (start + byteLength front) back admitted.2
  exact ⟨earlier, later, lexes.unique _ _ _ _ (first.join _ _ _ _ _ second apart), first, second⟩

/-- The tokens of a text do not depend on where it begins. -/
theorem Lexes.moved (start other : Nat) (text : List Char) (lexemes : List Lexeme)
    (lexes : Lexes start text lexemes) :
    ∃ moved, Lexes other text moved ∧ moved.map Lexeme.token = lexemes.map Lexeme.token := by
  induction lexes generalizing other with
  | nil _ => exact ⟨[], .nil other, rfl⟩
  | blank _ char rest lexemes blank _ inductionHypothesis =>
    obtain ⟨moved, lexes, same⟩ := inductionHypothesis (other + char.utf8Size)
    exact ⟨moved, .blank other char rest moved blank lexes, same⟩
  | opening _ rest lexemes _ inductionHypothesis =>
    obtain ⟨moved, lexes, same⟩ := inductionHypothesis (other + 1)
    exact ⟨.opening other :: moved, .opening other rest moved lexes, congrArg (_ :: ·) same⟩
  | closing _ rest lexemes _ inductionHypothesis =>
    obtain ⟨moved, lexes, same⟩ := inductionHypothesis (other + 1)
    exact ⟨.closing other :: moved, .closing other rest moved lexes, congrArg (_ :: ·) same⟩
  | name _ spelling rest lexemes inhabited named maximal _ inductionHypothesis =>
    obtain ⟨moved, lexes, same⟩ := inductionHypothesis (other + byteLength spelling)
    exact ⟨.name other spelling :: moved,
      .name other spelling rest moved inhabited named maximal lexes, congrArg (_ :: ·) same⟩

/-! ### Lexemes in place -/

namespace Lexeme

/-- The characters of a lexeme. -/
def letters : Lexeme → List Char
  | name _ spelling => spelling
  | opening _ => ['(']
  | closing _ => [')']

/-- How a lexeme is spelled. -/
def text (lexeme : Lexeme) : String := String.ofList lexeme.letters

/-- Where the spelling of a lexeme ends. -/
def stop (lexeme : Lexeme) : Nat := lexeme.offset + lexeme.text.utf8ByteSize

/-- Whether a lexeme is a name. -/
def IsName (lexeme : Lexeme) : Prop := ∃ offset spelling, lexeme = name offset spelling

/-- A lexeme begins behind another one. If both are names, it does not begin right behind it. -/
structure Precedes (earlier later : Lexeme) : Prop where
  begins : earlier.offset < later.offset
  apart : earlier.stop ≤ later.offset
  names : earlier.IsName → later.IsName → earlier.stop < later.offset

/-- A lexeme occurs in a text where its offset tells, in bytes. If it is a name, it is not empty,
consists of name characters and is not part of a longer run of them. -/
def OccursIn (lexeme : Lexeme) (text : String) : Prop :=
  ∃ before after : String, text = before ++ lexeme.text ++ after ∧
    lexeme.offset = before.utf8ByteSize ∧
    (lexeme.IsName → lexeme.text ≠ "" ∧ (∀ char ∈ lexeme.text.toList, isNameChar char = true) ∧
      (∀ char ∈ before.toList.getLast?, isNameChar char = false) ∧
      ∀ char ∈ after.toList.head?, isNameChar char = false)

/-- The length of a lexeme is that of its characters. -/
theorem stop_eq (lexeme : Lexeme) : lexeme.stop = lexeme.offset + byteLength lexeme.letters := by
  rw [stop, ← byteLength_toList, text, String.toList_ofList]

end Lexeme

/-- In a text that begins at an offset, a lexeme stands between two pieces, of which one has the
lexemes in front of it and the other one those behind it. -/
structure Stands (start : Nat) (text : List Char) (before : List Lexeme) (lexeme : Lexeme)
    (after : List Lexeme) (front back : List Char) : Prop where
  /-- The lexeme is spelled out between the pieces. -/
  whole : text = front ++ (lexeme.letters ++ back)
  earlier : Lexes start front before
  later : Lexes lexeme.stop back after
  /-- The offset counts the bytes in front. -/
  offset : lexeme.offset = start + byteLength front
  inhabited : lexeme.letters ≠ []
  named : lexeme.IsName → ∀ char ∈ lexeme.letters, isNameChar char = true
  /-- A name has not begun earlier. -/
  begins : lexeme.IsName → ∀ char ∈ front.getLast?, isNameChar char = false
  /-- A name does not go on. -/
  ends : lexeme.IsName → ∀ char ∈ back.head?, isNameChar char = false

/-- A lexeme stands where it stood if a piece that is apart is put in front of the text. -/
theorem Stands.behind (start : Nat) (piece text : List Char) (lexemes before : List Lexeme)
    (lexeme : Lexeme) (after : List Lexeme) (front back : List Char)
    (lexes : Lexes start piece lexemes)
    (stands : Stands (start + byteLength piece) text before lexeme after front back)
    (apart : Apart piece text) :
    Stands start (piece ++ text) (lexemes ++ before) lexeme after (piece ++ front) back where
  whole := by rw [stands.whole, List.append_assoc]
  earlier :=
    lexes.join start piece front lexemes before stands.earlier
      (.of_append_right piece front _ (stands.whole ▸ apart))
  later := stands.later
  offset := by rw [stands.offset, byteLength_append, Nat.add_assoc]
  inhabited := stands.inhabited
  named := stands.named
  ends := stands.ends
  begins := by
    intro isName
    cases front with
    | cons first others => simpa [List.getLast?_append] using stands.begins isName
    | nil =>
      -- The name begins the text, so nothing that belongs to names ends the piece in front.
      rw [List.append_nil]
      refine apart.resolve_right fun starts => ?_
      obtain ⟨first, others, spelled⟩ := List.exists_cons_of_ne_nil stands.inhabited
      have plain := starts first (by simp [stands.whole, spelled])
      simp [stands.named isName first (by simp [spelled])] at plain

/-- If a text begins with a lexeme, all of its lexemes stand in it, provided that the ones of the
rest do. -/
theorem Stands.cons (start : Nat) (rest : List Char) (first : Lexeme) (lexemes before : List Lexeme)
    (lexeme : Lexeme) (after : List Lexeme)
    (alone : Stands start (first.letters ++ rest) [] first lexemes [] rest)
    (single : Lexes start first.letters [first]) (apart : Apart first.letters rest)
    (others : ∀ between, lexemes = between ++ lexeme :: after → ∃ front back,
      Stands (start + byteLength first.letters) rest between lexeme after front back)
    (split : first :: lexemes = before ++ lexeme :: after) :
    ∃ front back, Stands start (first.letters ++ rest) before lexeme after front back := by
  rcases List.cons_eq_append_iff.mp split with ⟨rfl, same⟩ | ⟨between, rfl, inRest⟩
  · obtain ⟨rfl, rfl⟩ := List.cons.inj same
    exact ⟨[], rest, alone⟩
  · obtain ⟨front, back, stands⟩ := others between inRest
    exact ⟨first.letters ++ front, back, stands.behind _ _ _ _ _ _ _ _ _ single apart⟩

/-- The text of lexemes can be cut at each of them. -/
theorem Lexes.stands (start : Nat) (text : List Char) (lexemes before : List Lexeme)
    (lexeme : Lexeme) (after : List Lexeme) (lexes : Lexes start text lexemes)
    (split : lexemes = before ++ lexeme :: after) :
    ∃ front back, Stands start text before lexeme after front back := by
  induction lexes generalizing before with
  | nil start => simp at split
  | blank start char rest lexemes blank _ inductionHypothesis =>
    obtain ⟨front, back, stands⟩ := inductionHypothesis before split
    have single : Lexes start [char] [] := .blank start char [] [] blank (.nil _)
    exact ⟨_, back, stands.behind start [char] rest [] before lexeme after front back single
      (apart_of_blanks [char] rest (by simpa using blank))⟩
  | opening start rest lexemes later inductionHypothesis =>
    have single : Lexes start ['('] [.opening start] := .opening start [] [] (.nil _)
    have apart : Apart ['('] rest := .inl (by simpa using isNameChar_parentheses.1)
    refine Stands.cons start rest (.opening start) lexemes before lexeme after
      ⟨rfl, .nil start, later, rfl, by simp [Lexeme.letters], ?_, ?_, ?_⟩ single apart
      inductionHypothesis split <;> rintro ⟨_, _, ⟨⟩⟩
  | closing start rest lexemes later inductionHypothesis =>
    have single : Lexes start [')'] [.closing start] := .closing start [] [] (.nil _)
    have apart : Apart [')'] rest := .inl (by simpa using isNameChar_parentheses.2)
    refine Stands.cons start rest (.closing start) lexemes before lexeme after
      ⟨rfl, .nil start, later, rfl, by simp [Lexeme.letters], ?_, ?_, ?_⟩ single apart
      inductionHypothesis split <;> rintro ⟨_, _, ⟨⟩⟩
  | name start spelling rest lexemes inhabited named maximal later inductionHypothesis =>
    have single : Lexes start spelling [.name start spelling] := by
      simpa using Lexes.name start spelling [] [] inhabited named (by simp) (.nil _)
    have behind : Lexes (Lexeme.name start spelling).stop rest lexemes := by
      rwa [Lexeme.stop_eq]
    exact Stands.cons start rest (.name start spelling) lexemes before lexeme after
      ⟨rfl, .nil start, behind, rfl, inhabited, fun _ => named, fun _ => by simp, fun _ => maximal⟩
      single (.inr maximal) inductionHypothesis split

/-- A lexeme has a length. -/
theorem Stands.offset_lt_stop (start : Nat) (text : List Char) (before : List Lexeme)
    (lexeme : Lexeme) (after : List Lexeme) (front back : List Char)
    (stands : Stands start text before lexeme after front back) : lexeme.offset < lexeme.stop := by
  obtain ⟨first, others, spelled⟩ := List.exists_cons_of_ne_nil stands.inhabited
  have positive := first.utf8Size_pos
  rw [lexeme.stop_eq, spelled, byteLength]
  omega

/-- A lexeme precedes all that come behind it. A name that began where another one ends would be
the first of these, and would continue the other one. -/
theorem Stands.precedes (start : Nat) (text : List Char) (before : List Lexeme)
    (lexeme : Lexeme) (after : List Lexeme) (front back : List Char)
    (stands : Stands start text before lexeme after front back) :
    ∀ later ∈ after, lexeme.Precedes later := by
  intro later member
  have length := stands.offset_lt_stop
  have behind := stands.later.offset_le _ _ _ later member
  refine ⟨Nat.lt_of_lt_of_le length behind, behind, ?_⟩
  rintro isName ⟨offset, spelling, rfl⟩
  refine Nat.lt_of_le_of_ne behind fun touching => ?_
  obtain ⟨between, rest, rfl⟩ := List.append_of_mem member
  obtain ⟨gap, tail, inBack⟩ := stands.later.stands _ _ _ between _ rest rfl
  have empty : gap = [] := by
    cases gap with
    | nil => rfl
    | cons char others =>
      have counted := inBack.offset
      have positive := char.utf8Size_pos
      simp only [byteLength] at counted
      omega
  obtain rfl := (inBack.earlier.eq_nil_iff _ _ _).mpr (by simp [empty])
  refine stands.later.no_name_at _ _ _ (stands.ends isName) spelling rest ?_
  simp [touching, Lexeme.offset]

/-- The lexemes of a text precede each other in their order. -/
theorem Lexes.pairwise (start : Nat) (text : List Char) (lexemes : List Lexeme)
    (lexes : Lexes start text lexemes) : lexemes.Pairwise Lexeme.Precedes := by
  induction lexemes generalizing start text with
  | nil => exact .nil
  | cons first rest inductionHypothesis =>
    obtain ⟨front, back, stands⟩ := lexes.stands start text _ [] first rest rfl
    exact .cons stands.precedes (inductionHypothesis _ back stands.later)

/-- Each lexeme of a text occurs in it. -/
theorem Lexes.occursIn (text : String) (lexemes : List Lexeme) (lexes : Lexes 0 text.toList lexemes)
    (lexeme : Lexeme) (member : lexeme ∈ lexemes) : lexeme.OccursIn text := by
  obtain ⟨before, after, split⟩ := List.append_of_mem member
  obtain ⟨front, back, stands⟩ := lexes.stands 0 text.toList lexemes before lexeme after split
  refine ⟨String.ofList front, String.ofList back, ?_, ?_, ?_⟩
  · rw [← String.toList_inj, stands.whole]
    simp [Lexeme.text]
  · rw [stands.offset, Nat.zero_add, ← byteLength_toList, String.toList_ofList]
  · intro isName
    simpa [Lexeme.text] using
      ⟨stands.inhabited, stands.named isName, stands.begins isName, stands.ends isName⟩

/-- A byte of a text belongs to a lexeme or to a blank. -/
def Accounted (start : Nat) (text : List Char) (lexemes : List Lexeme) (position : Nat) : Prop :=
  (∃ lexeme ∈ lexemes, lexeme.offset ≤ position ∧ position < lexeme.stop) ∨
    ∃ front char back, text = front ++ char :: back ∧ isBlank char = true ∧
      start + byteLength front ≤ position ∧ position < start + byteLength front + char.utf8Size

/-- What a byte belongs to is not affected by a piece in front. -/
theorem Accounted.behind (start : Nat) (piece text : List Char) (lexemes before : List Lexeme)
    (position : Nat) (accounted : Accounted (start + byteLength piece) text lexemes position) :
    Accounted start (piece ++ text) (before ++ lexemes) position := by
  rcases accounted with ⟨lexeme, member, within⟩ | ⟨front, char, back, rfl, blank, within⟩
  · exact .inl ⟨lexeme, List.mem_append_right before member, within⟩
  · refine .inr ⟨piece ++ front, char, back, by simp, blank, ?_⟩
    rwa [byteLength_append, ← Nat.add_assoc]

/-- The bytes of a first lexeme belong to it, so all bytes are accounted for if those behind it
are. -/
theorem Accounted.cons (start : Nat) (rest : List Char) (first : Lexeme) (lexemes : List Lexeme)
    (position : Nat) (here : first.offset = start) (lower : start ≤ position)
    (others : start + byteLength first.letters ≤ position →
      Accounted (start + byteLength first.letters) rest lexemes position) :
    Accounted start (first.letters ++ rest) (first :: lexemes) position := by
  rcases Nat.lt_or_ge position (start + byteLength first.letters) with inside | behind
  · refine .inl ⟨first, List.mem_cons_self, here ▸ lower, ?_⟩
    rwa [first.stop_eq, here]
  · exact (others behind).behind start first.letters rest lexemes [first] position

/-- All bytes of a text that has lexemes belong to lexemes or to blanks. -/
theorem Lexes.accounted (start : Nat) (text : List Char) (lexemes : List Lexeme)
    (lexes : Lexes start text lexemes) (position : Nat) (lower : start ≤ position)
    (upper : position < start + byteLength text) : Accounted start text lexemes position := by
  induction lexes with
  | nil start => exact absurd upper (Nat.not_lt.mpr lower)
  | blank start char rest lexemes blank _ inductionHypothesis =>
    rcases Nat.lt_or_ge position (start + char.utf8Size) with inside | behind
    · exact .inr ⟨[], char, rest, rfl, blank, lower, inside⟩
    · have later := inductionHypothesis behind (by simpa [byteLength, Nat.add_assoc] using upper)
      refine Accounted.behind start [char] rest lexemes [] position ?_
      simpa [byteLength] using later
  | opening start rest lexemes _ inductionHypothesis =>
    refine Accounted.cons start rest (.opening start) lexemes position rfl lower fun behind => ?_
    simp only [Lexeme.letters, byteLength, utf8Size_parentheses] at behind upper ⊢
    exact inductionHypothesis behind (by omega)
  | closing start rest lexemes _ inductionHypothesis =>
    refine Accounted.cons start rest (.closing start) lexemes position rfl lower fun behind => ?_
    simp only [Lexeme.letters, byteLength, utf8Size_parentheses] at behind upper ⊢
    exact inductionHypothesis behind (by omega)
  | name start spelling rest lexemes _ _ _ _ inductionHypothesis =>
    refine Accounted.cons start rest (.name start spelling) lexemes position rfl lower
      fun behind => inductionHypothesis behind ?_
    rwa [byteLength_append, ← Nat.add_assoc] at upper

/-! ### Blanks between lexemes -/

/-- The tokens of a text, if all of its characters are admitted. -/
def tokens? (text : String) : Option (List Token) :=
  (Lexeme.ofChars 0 text.toList).toOption.map (List.map Lexeme.token)

/-- The characters are divided into lexemes with these tokens. -/
def HasTokens (text : List Char) (tokens : List Token) : Prop :=
  ∃ lexemes, Lexes 0 text lexemes ∧ lexemes.map Lexeme.token = tokens

/-- The tokens of a text are those of its lexemes. -/
theorem tokens?_eq_some_iff (text : String) (tokens : List Token) :
    tokens? text = some tokens ↔ HasTokens text.toList tokens := by
  simp only [tokens?, HasTokens, Option.map_eq_some_iff, ← Lexeme.ofChars_eq_ok_iff]
  cases Lexeme.ofChars 0 text.toList <;> simp [Except.toOption]

/-- Pieces that are apart contribute their tokens independently. -/
theorem hasTokens_append_iff (front back : List Char) (tokens : List Token)
    (apart : Apart front back) :
    HasTokens (front ++ back) tokens ↔
      ∃ earlier later, tokens = earlier ++ later ∧
        HasTokens front earlier ∧ HasTokens back later := by
  constructor
  · rintro ⟨lexemes, lexes, rfl⟩
    obtain ⟨earlier, later, rfl, first, second⟩ := lexes.cut 0 front back lexemes apart
    obtain ⟨moved, movedLexes, same⟩ := second.moved _ 0 back later
    exact ⟨_, _, List.map_append, ⟨earlier, first, rfl⟩, ⟨moved, movedLexes, same⟩⟩
  · rintro ⟨_, _, rfl, ⟨earlier, first, rfl⟩, ⟨later, second, rfl⟩⟩
    obtain ⟨moved, movedLexes, same⟩ := second.moved 0 (0 + byteLength front) back later
    exact ⟨earlier ++ moved, first.join 0 front back earlier moved movedLexes apart, by simp [same]⟩

/-- Blanks have no tokens. -/
theorem hasTokens_blanks_iff (blanks : List Char) (tokens : List Token)
    (blank : ∀ char ∈ blanks, isBlank char = true) : HasTokens blanks tokens ↔ tokens = [] := by
  constructor
  · rintro ⟨lexemes, lexes, rfl⟩
    rw [(lexes.eq_nil_iff 0 blanks lexemes).mpr blank, List.map_nil]
  · rintro rfl
    obtain ⟨lexemes, lexes⟩ := exists_lexes 0 blanks fun char member => .inl (blank char member)
    exact ⟨lexemes, lexes, by rw [(lexes.eq_nil_iff 0 blanks lexemes).mpr blank, List.map_nil]⟩

/-- Blanks are inserted at one place of a text, which is not within a name. Read backwards, blanks
are taken out of a text, but not all of those between two names. -/
inductive Spaced : String → String → Prop where
  | insert (before blanks after : String) (blank : ∀ char ∈ blanks.toList, isBlank char = true)
      (apart : Apart before.toList after.toList) :
      Spaced (before ++ after) (before ++ blanks ++ after)

/-- Inserted blanks leave the tokens of a text as they are. -/
theorem Spaced.tokens? (text other : String) (spaced : Spaced text other) :
    tokens? text = tokens? other := by
  obtain ⟨before, blanks, after, blank, apart⟩ := spaced
  refine Option.ext fun tokens => ?_
  simp only [tokens?_eq_some_iff, String.toList_append, List.append_assoc]
  rw [hasTokens_append_iff _ _ tokens apart,
    hasTokens_append_iff _ _ tokens (apart.blanks _ _ _ blank)]
  have skipped (later : List Token) :
      HasTokens (blanks.toList ++ after.toList) later ↔ HasTokens after.toList later := by
    simp [hasTokens_append_iff _ _ later (apart_of_blanks _ _ blank),
      hasTokens_blanks_iff _ _ blank]
  simp only [skipped]

/-- Whether a text is read as a term depends on its tokens only. -/
theorem read_eq_ok_iff_tokens? (text : String) (term : Term) :
    read text = .ok term ↔ ∃ phrase : Phrase, tokens? text = some phrase.tokens ∧
      phrase.nesting ≤ maxDepth ∧ phrase.term = term := by
  simp only [read_eq_ok_iff, tokens?_eq_some_iff, HasTokens]
  constructor
  · rintro ⟨⟨lexemes, lexes, phrase, derives, shallow⟩, denotes⟩
    exact ⟨phrase, ⟨lexemes, lexes, derives.symm⟩, shallow, denotes⟩
  · rintro ⟨phrase, ⟨lexemes, lexes, derives⟩, shallow, denotes⟩
    exact ⟨⟨lexemes, lexes, phrase, derives.symm, shallow⟩, denotes⟩

/-- Blanks may be inserted and taken out any number of times. -/
theorem tokens?_of_eqvGen (text other : String) (spaced : Relation.EqvGen Spaced text other) :
    tokens? text = tokens? other := by
  induction spaced with
  | rel text other inserted => exact inserted.tokens?
  | refl text => rfl
  | symm text other _ inductionHypothesis => exact inductionHypothesis.symm
  | trans text between other _ _ first second => exact first.trans second

/-! ### Texts -/

/-- What a byte of a text belongs to, said of strings. -/
theorem Lexes.lexeme_or_blank (text : String) (lexemes : List Lexeme)
    (lexes : Lexes 0 text.toList lexemes) (position : Nat) (within : position < text.utf8ByteSize) :
    (∃ lexeme ∈ lexemes, lexeme.offset ≤ position ∧ position < lexeme.stop) ∨
      ∃ (before : String) (char : Char) (after : String),
        text = before ++ String.singleton char ++ after ∧ isBlank char = true ∧
        before.utf8ByteSize ≤ position ∧ position < before.utf8ByteSize + char.utf8Size := by
  refine (lexes.accounted 0 text.toList lexemes position (Nat.zero_le position) ?_).imp_right ?_
  · rwa [Nat.zero_add, byteLength_toList]
  · rintro ⟨front, char, back, split, blank, bounds⟩
    refine ⟨String.ofList front, char, String.ofList back, ?_, blank, ?_⟩
    · rw [← String.toList_inj, split]
      simp
    · rwa [Nat.zero_add, ← String.toList_ofList (l := front), byteLength_toList] at bounds

/-- The first character of a text that is not admitted is what its division fails at. -/
theorem Lexeme.ofChars_of_stray (text : String) (stray : ∃ char ∈ text.toList, ¬ Admitted char) :
    ∃ (before : String) (char : Char) (after : String),
      text = before ++ String.singleton char ++ after ∧
      (∀ earlier ∈ before.toList, Admitted earlier) ∧ ¬ Admitted char ∧
      ofChars 0 text.toList = .error (.unexpectedChar char before.utf8ByteSize) := by
  obtain ⟨front, char, back, split, admitted, notAdmitted⟩ := exists_first_stray text.toList stray
  refine ⟨String.ofList front, char, String.ofList back, ?_, ?_, notAdmitted, ?_⟩
  · rw [← String.toList_inj, split]
    simp
  · simpa using admitted
  · rw [split, ofChars_of_not_admitted 0 front char back admitted notAdmitted, Nat.zero_add,
      ← byteLength_toList, String.toList_ofList]

/-- A text of admitted characters is divided into lexemes that precede each other. Each occurs
where its offset tells, a name with all the name characters there are, and what is left over are
blanks. Any other text is refused at its first character that is not admitted. Inserting blanks
outside of names, and taking blanks out so that no names are joined, any number of times in any
order, neither changes the tokens of a text nor the term that is read from it. -/
theorem lexemes_in_place (text : String) :
    ((∀ char ∈ text.toList, Admitted char) → ∃ lexemes,
      Lexeme.ofChars 0 text.toList = .ok lexemes ∧
      lexemes.Pairwise Lexeme.Precedes ∧
      (∀ lexeme ∈ lexemes, lexeme.OccursIn text) ∧
      ∀ position < text.utf8ByteSize,
        (∃ lexeme ∈ lexemes, lexeme.offset ≤ position ∧ position < lexeme.stop) ∨
          ∃ (before : String) (char : Char) (after : String),
            text = before ++ String.singleton char ++ after ∧ isBlank char = true ∧
            before.utf8ByteSize ≤ position ∧ position < before.utf8ByteSize + char.utf8Size) ∧
    ((∃ char ∈ text.toList, ¬ Admitted char) → ∃ (before : String) (char : Char) (after : String),
      text = before ++ String.singleton char ++ after ∧
      (∀ earlier ∈ before.toList, Admitted earlier) ∧ ¬ Admitted char ∧
      Lexeme.ofChars 0 text.toList = .error (.unexpectedChar char before.utf8ByteSize)) ∧
    ∀ other, Relation.EqvGen Spaced text other →
      tokens? text = tokens? other ∧ ∀ term, read text = .ok term ↔ read other = .ok term := by
  refine ⟨fun admitted => ?_, Lexeme.ofChars_of_stray text, fun other spaced => ?_⟩
  · obtain ⟨lexemes, lexes⟩ := exists_lexes 0 text.toList admitted
    exact ⟨lexemes, Lexeme.ofChars_of_lexes 0 text.toList lexemes lexes,
      lexes.pairwise 0 text.toList lexemes, lexes.occursIn text lexemes,
      lexes.lexeme_or_blank text lexemes⟩
  · have same := tokens?_of_eqvGen text other spaced
    exact ⟨same, fun term => by rw [read_eq_ok_iff_tokens?, read_eq_ok_iff_tokens?, same]⟩

/-- Blanks may be left out around parentheses, but not all of those between two names. -/
example : tokens? "f (g x)" = tokens? " f(g   x )" ∧ tokens? "f (g x)" ≠ tokens? "f (gx)" := by
  decide

end PlaneFigure.Term
