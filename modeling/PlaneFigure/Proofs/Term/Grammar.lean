import PlaneFigure.Proofs.Term.Lexing

/-!
# The grammar of terms

An expression is one atom or more, and an atom is a name or an expression in parentheses. The
derivations of this grammar are trees. A derivation has tokens, which are lexemes without
their offsets; it has a nesting, which is how many parentheses are open at the same time; and
it denotes a term. None of this mentions how a text is read.

Reading keeps the groups that are still open and the terms of the atoms they have so far.
What it returns from such a point on is described by what the remaining tokens have to be:
more atoms for the innermost group, its closing parenthesis, and so on outwards. Both
directions are inductions, one over the lexemes and one over derivations. Together they say
that reading a text succeeds exactly with the terms that its derivations denote. A derivation
is determined by its tokens, since every atom shows where it ends.
-/

namespace PlaneFigure.Term

open Text

/-- A lexeme without its offset. -/
inductive Token where
  | name (spelling : List Char)
  | opening
  | closing
deriving DecidableEq

/-- Forget the offset. -/
def Lexeme.token : Lexeme → Token
  | .name _ spelling => .name spelling
  | .opening _ => .opening
  | .closing _ => .closing

/-- The token of a name is that of its spelling. -/
theorem Lexeme.token_eq_name_iff (lexeme : Lexeme) (spelling : List Char) :
    lexeme.token = .name spelling ↔ ∃ offset, lexeme = .name offset spelling := by
  cases lexeme <;> simp [token]

/-- Only opening parentheses have their token. -/
theorem Lexeme.token_eq_opening_iff (lexeme : Lexeme) :
    lexeme.token = .opening ↔ ∃ offset, lexeme = .opening offset := by
  cases lexeme <;> simp [token]

/-- Only closing parentheses have their token. -/
theorem Lexeme.token_eq_closing_iff (lexeme : Lexeme) :
    lexeme.token = .closing ↔ ∃ offset, lexeme = .closing offset := by
  cases lexeme <;> simp [token]

/-- An atom is a name, or an expression in parentheses; an expression is a first atom followed
by any number of others. -/
inductive Atom where
  | name (spelling : List Char)
  | group (first : Atom) (rest : List Atom)

/-- A derivation of an expression. -/
structure Phrase where
  first : Atom
  rest : List Atom

/-- A variable at the head of an application stands for the constant of its name. -/
def promote : Term → Term
  | var name => const name
  | term => term

/-- What a first atom with a meaning denotes together with others: itself if there are none,
or else its application to them. -/
def denote : Term → List Term → Term
  | first, [] => first
  | first, args => args.foldl app (promote first)

mutual

/-- The tokens that an atom derives. -/
def Atom.tokens : Atom → List Token
  | .name spelling => [.name spelling]
  | .group first rest => .opening :: (first.tokens ++ tokensOf rest ++ [.closing])

/-- The tokens that atoms in a row derive. -/
def tokensOf : List Atom → List Token
  | [] => []
  | atom :: rest => atom.tokens ++ tokensOf rest

end

mutual

/-- How many parentheses of an atom are open at the same time. -/
def Atom.nesting : Atom → Nat
  | .name _ => 0
  | .group first rest => max first.nesting (nestingOf rest) + 1

/-- How many parentheses of atoms in a row are open at the same time. -/
def nestingOf : List Atom → Nat
  | [] => 0
  | atom :: rest => max atom.nesting (nestingOf rest)

end

mutual

/-- The term that an atom denotes. -/
def Atom.term : Atom → Term
  | .name spelling => var (String.ofList spelling)
  | .group first rest => denote first.term (termsOf rest)

/-- The terms that atoms in a row denote. -/
def termsOf : List Atom → List Term
  | [] => []
  | atom :: rest => atom.term :: termsOf rest

end

namespace Phrase

/-- The tokens that an expression derives. -/
def tokens (phrase : Phrase) : List Token := tokensOf (phrase.first :: phrase.rest)

/-- How many parentheses of an expression are open at the same time. -/
def nesting (phrase : Phrase) : Nat := nestingOf (phrase.first :: phrase.rest)

/-- The term that an expression denotes. -/
def term (phrase : Phrase) : Term := denote phrase.first.term (termsOf phrase.rest)

end Phrase

/-- A derivation of a text from the grammar: the lexemes of the text, and an expression that
derives them with parentheses nested no deeper than is allowed. -/
structure Derivation (text : String) where
  lexemes : List Lexeme
  lexes : Lexes 0 text.toList lexemes
  phrase : Phrase
  derives : phrase.tokens = lexemes.map Lexeme.token
  shallow : phrase.nesting ≤ maxDepth

/-- A group has a meaning as soon as it has a part. -/
theorem ofParts_cons (first : Term) (args : List Term) :
    ofParts (first :: args) = some (denote first args) := by
  cases args with
  | nil => cases first <;> rfl
  | cons arg others => cases first <;> rfl

/-- What the remaining tokens have to be for reading to return a term: more atoms for the
innermost open group, its closing parenthesis, and the like for the groups around it. Groups
are listed from the innermost outwards, and the parts they have so far with the latest
first. -/
def Completes : List Token → List OpenGroup → List Term → Term → Prop
  | tokens, [], parts, term =>
    ∃ atoms, tokens = tokensOf atoms ∧ nestingOf atoms ≤ maxDepth ∧
      ofParts (parts.reverse ++ termsOf atoms) = some term
  | tokens, group :: groups, parts, term =>
    ∃ atoms rest inner, tokens = tokensOf atoms ++ .closing :: rest ∧
      nestingOf atoms + (groups.length + 1) ≤ maxDepth ∧
      ofParts (parts.reverse ++ termsOf atoms) = some inner ∧
      Completes rest groups (inner :: group.before) term

/-- An atom in front of the remaining tokens is one more part of the innermost group. -/
theorem Completes.cons_atom (atom : Atom) (tokens : List Token) (groups : List OpenGroup)
    (parts : List Term) (term : Term) (shallow : atom.nesting + groups.length ≤ maxDepth)
    (completes : Completes tokens groups (atom.term :: parts) term) :
    Completes (atom.tokens ++ tokens) groups parts term := by
  cases groups with
  | nil =>
    obtain ⟨atoms, rfl, bounded, denotes⟩ := completes
    refine ⟨atom :: atoms, rfl, ?_, ?_⟩
    · exact Nat.max_le.mpr ⟨shallow, bounded⟩
    · simpa [termsOf] using denotes
  | cons group groups =>
    obtain ⟨atoms, rest, inner, rfl, bounded, denotes, outwards⟩ := completes
    refine ⟨atom :: atoms, rest, inner, ?_, ?_, ?_, outwards⟩
    · simp [tokensOf]
    · simp only [List.length_cons] at shallow
      simp only [nestingOf]
      omega
    · simpa [termsOf] using denotes

/-- If reading returns a term, the remaining tokens are what they have to be. The induction
follows the lexemes. An opening parenthesis leaves one more group open; what completes it is
one atom for the group around it. -/
theorem completes_of_ofLexemes (lexemes : List Lexeme) (groups : List OpenGroup)
    (parts : List Term) (term : Term) (open_le : groups.length ≤ maxDepth)
    (returns : ofLexemes lexemes groups parts = .ok term) :
    Completes (lexemes.map Lexeme.token) groups parts term := by
  induction lexemes generalizing groups parts with
  | nil =>
    cases groups with
    | nil =>
      cases denotes : ofParts parts.reverse with
      | none => simp [ofLexemes, denotes] at returns
      | some value =>
        obtain rfl : value = term := by simpa [ofLexemes, denotes] using returns
        exact ⟨[], rfl, Nat.zero_le maxDepth, by simpa [termsOf] using denotes⟩
    | cons group groups =>
      by_cases vacant : parts.isEmpty = true <;> simp [ofLexemes, vacant] at returns
  | cons lexeme rest inductionHypothesis =>
    cases lexeme with
    | name offset spelling =>
      simp only [ofLexemes] at returns
      have later := inductionHypothesis groups _ open_le returns
      exact Completes.cons_atom (.name spelling) _ groups parts term
        (by simpa [Atom.nesting] using open_le) later
    | opening offset =>
      by_cases full : groups.length = maxDepth
      · simp [ofLexemes, full] at returns
      · simp only [ofLexemes, if_neg full] at returns
        have room : groups.length + 1 ≤ maxDepth := by omega
        obtain ⟨atoms, after, inner, tokens, bounded, denotes, outwards⟩ :=
          inductionHypothesis (⟨offset, parts⟩ :: groups) [] room returns
        cases atoms with
        | nil => simp [termsOf, ofParts] at denotes
        | cons first others =>
          obtain rfl : denote first.term (termsOf others) = inner := by
            simpa [termsOf, ofParts_cons] using denotes
          have shallow : (Atom.group first others).nesting + groups.length ≤ maxDepth := by
            simp only [nestingOf] at bounded
            simp only [Atom.nesting]
            omega
          have whole := Completes.cons_atom (.group first others) after groups parts term
            shallow (by simpa [Atom.term] using outwards)
          simpa [Atom.tokens, tokensOf, Lexeme.token, tokens] using whole
    | closing offset =>
      cases groups with
      | nil => simp [ofLexemes] at returns
      | cons group groups =>
        cases denotes : ofParts parts.reverse with
        | none => simp [ofLexemes, denotes] at returns
        | some inner =>
          simp only [ofLexemes, denotes] at returns
          have fewer : groups.length ≤ maxDepth := Nat.le_of_succ_le open_le
          have later := inductionHypothesis groups _ fewer returns
          refine ⟨[], rest.map Lexeme.token, inner, rfl, ?_, ?_, later⟩
          · simpa [nestingOf] using open_le
          · simpa [termsOf] using denotes

mutual

/-- Reading an atom adds the term that it denotes to the parts of the innermost group, if its
parentheses fit in with those that are open. -/
theorem Atom.ofLexemes_append (atom : Atom) (lexemes rest : List Lexeme)
    (groups : List OpenGroup) (parts : List Term)
    (derives : lexemes.map Lexeme.token = atom.tokens)
    (shallow : atom.nesting + groups.length ≤ maxDepth) :
    ofLexemes (lexemes ++ rest) groups parts = ofLexemes rest groups (atom.term :: parts) := by
  match atom with
  | .name spelling =>
    obtain ⟨lexeme, rfl, same⟩ := List.map_eq_singleton_iff.mp derives
    obtain ⟨offset, rfl⟩ := (lexeme.token_eq_name_iff spelling).mp same
    rfl
  | .group first others =>
    obtain ⟨opener, inside, rfl, opens, inner⟩ := List.map_eq_cons_iff.mp derives
    obtain ⟨content, closer, rfl, derived, closes⟩ := List.map_eq_append_iff.mp inner
    obtain ⟨head, tail, rfl, firstDerives, othersDerive⟩ := List.map_eq_append_iff.mp derived
    obtain ⟨last, rfl, closed⟩ := List.map_eq_singleton_iff.mp closes
    obtain ⟨offset, rfl⟩ := opener.token_eq_opening_iff.mp opens
    obtain ⟨final, rfl⟩ := last.token_eq_closing_iff.mp closed
    simp only [Atom.nesting] at shallow
    have room : groups.length ≠ maxDepth := by omega
    have firstFits : first.nesting + (groups.length + 1) ≤ maxDepth := by omega
    have othersFit : nestingOf others + (groups.length + 1) ≤ maxDepth := by omega
    have parts_eq : ((termsOf others).reverse ++ [first.term]).reverse =
        first.term :: termsOf others := by
      simp
    calc ofLexemes (.opening offset :: (head ++ tail ++ [.closing final]) ++ rest) groups parts
      _ = ofLexemes (head ++ (tail ++ .closing final :: rest)) (⟨offset, parts⟩ :: groups) [] := by
        simp [ofLexemes, room]
      _ = ofLexemes (tail ++ .closing final :: rest) (⟨offset, parts⟩ :: groups) [first.term] :=
        first.ofLexemes_append head _ (⟨offset, parts⟩ :: groups) [] firstDerives firstFits
      _ = ofLexemes (.closing final :: rest) (⟨offset, parts⟩ :: groups)
            ((termsOf others).reverse ++ [first.term]) :=
        ofLexemes_append_all others tail _ (⟨offset, parts⟩ :: groups) [first.term]
          othersDerive othersFit
      _ = ofLexemes rest groups (denote first.term (termsOf others) :: parts) := by
        simp only [ofLexemes, parts_eq, ofParts_cons]

/-- Reading atoms in a row adds the terms that they denote. -/
theorem ofLexemes_append_all (atoms : List Atom) (lexemes rest : List Lexeme)
    (groups : List OpenGroup) (parts : List Term)
    (derives : lexemes.map Lexeme.token = tokensOf atoms)
    (shallow : nestingOf atoms + groups.length ≤ maxDepth) :
    ofLexemes (lexemes ++ rest) groups parts =
      ofLexemes rest groups ((termsOf atoms).reverse ++ parts) := by
  match atoms with
  | [] =>
    obtain rfl : lexemes = [] := List.map_eq_nil_iff.mp derives
    rfl
  | atom :: others =>
    obtain ⟨head, tail, rfl, firstDerives, othersDerive⟩ := List.map_eq_append_iff.mp derives
    simp only [nestingOf] at shallow
    have firstFits : atom.nesting + groups.length ≤ maxDepth := by omega
    have othersFit : nestingOf others + groups.length ≤ maxDepth := by omega
    rw [List.append_assoc, atom.ofLexemes_append head (tail ++ rest) groups parts firstDerives
      firstFits, ofLexemes_append_all others tail rest groups (atom.term :: parts) othersDerive
      othersFit]
    simp [termsOf]

end

/-- If the remaining tokens are what they have to be, reading returns the term. The induction
goes outwards through the open groups. -/
theorem ofLexemes_of_completes (groups : List OpenGroup) (lexemes : List Lexeme)
    (parts : List Term) (term : Term) (open_le : groups.length ≤ maxDepth)
    (completes : Completes (lexemes.map Lexeme.token) groups parts term) :
    ofLexemes lexemes groups parts = .ok term := by
  induction groups generalizing lexemes parts with
  | nil =>
    obtain ⟨atoms, derives, bounded, denotes⟩ := completes
    have passed := ofLexemes_append_all atoms lexemes [] [] parts derives bounded
    rw [List.append_nil] at passed
    rw [passed]
    simp only [ofLexemes, List.reverse_append, List.reverse_reverse, denotes]
  | cons group groups inductionHypothesis =>
    obtain ⟨atoms, after, inner, tokens, bounded, denotes, outwards⟩ := completes
    obtain ⟨inside, closer, rfl, derives, closes⟩ := List.map_eq_append_iff.mp tokens
    obtain ⟨last, rest, rfl, closed, remaining⟩ := List.map_eq_cons_iff.mp closes
    obtain ⟨final, rfl⟩ := last.token_eq_closing_iff.mp closed
    rw [ofLexemes_append_all atoms inside _ (group :: groups) parts derives bounded]
    simp only [ofLexemes, List.reverse_append, List.reverse_reverse, denotes]
    exact inductionHypothesis rest _ (Nat.le_of_succ_le open_le) (remaining ▸ outwards)

/-- Reading lexemes from the start returns exactly the terms of their derivations. -/
theorem ofLexemes_eq_ok_iff (lexemes : List Lexeme) (term : Term) :
    ofLexemes lexemes [] [] = .ok term ↔
      ∃ phrase : Phrase, phrase.tokens = lexemes.map Lexeme.token ∧
        phrase.nesting ≤ maxDepth ∧ phrase.term = term := by
  constructor
  · intro returns
    obtain ⟨atoms, derives, shallow, denotes⟩ :=
      completes_of_ofLexemes lexemes [] [] term (Nat.zero_le maxDepth) returns
    cases atoms with
    | nil => simp [termsOf, ofParts] at denotes
    | cons first rest =>
      have meaning : denote first.term (termsOf rest) = term := by
        simpa [termsOf, ofParts_cons] using denotes
      exact ⟨⟨first, rest⟩, derives.symm, shallow, meaning⟩
  · rintro ⟨⟨first, rest⟩, derives, shallow, rfl⟩
    exact ofLexemes_of_completes [] lexemes [] _ (Nat.zero_le maxDepth)
      ⟨first :: rest, derives.symm, shallow, ofParts_cons first.term (termsOf rest)⟩

/-- Reading a text returns exactly the terms of its derivations. -/
theorem read_eq_ok_iff (text : String) (term : Term) :
    read text = .ok term ↔ ∃ derivation : Derivation text, derivation.phrase.term = term := by
  constructor
  · intro returns
    cases divided : Lexeme.ofChars 0 text.toList with
    | error fault => simp [read, divided] at returns
    | ok lexemes =>
      obtain ⟨phrase, derives, shallow, denotes⟩ :=
        (ofLexemes_eq_ok_iff lexemes term).mp (by simpa [read, divided] using returns)
      have lexes := (Lexeme.ofChars_eq_ok_iff 0 text.toList lexemes).mp divided
      exact ⟨⟨lexemes, lexes, phrase, derives, shallow⟩, denotes⟩
  · rintro ⟨⟨lexemes, lexes, phrase, derives, shallow⟩, denotes⟩
    have divided := (Lexeme.ofChars_eq_ok_iff 0 text.toList lexemes).mpr lexes
    simp only [read, divided]
    exact (ofLexemes_eq_ok_iff lexemes term).mpr ⟨phrase, derives, shallow, denotes⟩

/-- Tokens at which no atom begins. -/
def Stops (tokens : List Token) : Prop := ∀ token ∈ tokens.head?, token = .closing

/-- An atom begins with a name or an opening parenthesis. -/
theorem Atom.not_stops (atom : Atom) (rest : List Token) : ¬ Stops (atom.tokens ++ rest) := by
  cases atom <;> simp [Stops, Atom.tokens]

mutual

/-- An atom shows where it ends. -/
theorem Atom.tokens_append_inj (atom other : Atom) (rest otherRest : List Token)
    (same : atom.tokens ++ rest = other.tokens ++ otherRest) :
    atom = other ∧ rest = otherRest := by
  match atom, other with
  | .name spelling, .name letters => simpa [Atom.tokens] using same
  | .name spelling, .group first others => simp [Atom.tokens] at same
  | .group first others, .name letters => simp [Atom.tokens] at same
  | .group first others, .group head tail =>
    simp only [Atom.tokens, List.cons_append, List.append_assoc, List.cons.injEq, true_and]
      at same
    obtain ⟨rfl, inside⟩ := first.tokens_append_inj head _ _ same
    obtain ⟨rfl, after⟩ := tokensOf_append_inj others tail _ _ (by simp [Stops])
      (by simp [Stops]) inside
    exact ⟨rfl, by simpa using after⟩

/-- Atoms in a row end where no atom begins. -/
theorem tokensOf_append_inj (atoms others : List Atom) (rest otherRest : List Token)
    (stops : Stops rest) (otherStops : Stops otherRest)
    (same : tokensOf atoms ++ rest = tokensOf others ++ otherRest) :
    atoms = others ∧ rest = otherRest := by
  match atoms, others with
  | [], [] => exact ⟨rfl, same⟩
  | [], head :: tail =>
    simp only [tokensOf, List.nil_append, List.append_assoc] at same
    exact absurd (same ▸ stops) (head.not_stops _)
  | atom :: more, [] =>
    simp only [tokensOf, List.nil_append, List.append_assoc] at same
    exact absurd (same ▸ otherStops) (atom.not_stops _)
  | atom :: more, head :: tail =>
    simp only [tokensOf, List.append_assoc] at same
    obtain ⟨rfl, later⟩ := atom.tokens_append_inj head _ _ same
    obtain ⟨rfl, after⟩ := tokensOf_append_inj more tail rest otherRest stops otherStops later
    exact ⟨rfl, after⟩

end

/-- Tokens have one derivation at most. -/
theorem Phrase.tokens_injective (phrase other : Phrase) (same : phrase.tokens = other.tokens) :
    phrase = other := by
  have whole : tokensOf (phrase.first :: phrase.rest) ++ [] =
      tokensOf (other.first :: other.rest) ++ [] := by
    rw [List.append_nil, List.append_nil]
    exact same
  have equal := (tokensOf_append_inj _ _ [] [] (by simp [Stops]) (by simp [Stops]) whole).1
  obtain ⟨first, rest⟩ := phrase
  obtain ⟨head, tail⟩ := other
  simpa using equal

/-- A text has one derivation at most: its lexemes are determined, and with them the tokens. -/
theorem Derivation.unique (text : String) (derivation other : Derivation text) :
    derivation = other := by
  obtain ⟨lexemes, lexes, phrase, derives, shallow⟩ := derivation
  obtain ⟨otherLexemes, otherLexes, otherPhrase, otherDerives, otherShallow⟩ := other
  obtain rfl := lexes.unique 0 text.toList lexemes otherLexemes otherLexes
  obtain rfl := phrase.tokens_injective otherPhrase (derives.trans otherDerives.symm)
  rfl

/-- Reading a text succeeds with a term exactly if all characters of the text are blanks,
parentheses or name characters, and its lexemes derive as a whole from the grammar, nested no
deeper than is allowed, by a derivation that denotes the term. A text has one such derivation
at most, and so one term. -/
theorem read_iff_derivation (text : String) (term : Term) :
    (read text = .ok term ↔
      (∀ char ∈ text.toList, Admitted char) ∧
        ∃ derivation : Derivation text, derivation.phrase.term = term) ∧
    ∀ derivation other : Derivation text, derivation = other := by
  refine ⟨?_, Derivation.unique text⟩
  rw [read_eq_ok_iff]
  constructor
  · rintro ⟨derivation, denotes⟩
    exact ⟨derivation.lexes.admitted 0 text.toList derivation.lexemes, derivation, denotes⟩
  · rintro ⟨_, derivation, denotes⟩
    exact ⟨derivation, denotes⟩

/-- Parentheses around a first name make no difference. -/
example : read "(f) x" = .ok (app (const "f") (var "x")) := rfl

end PlaneFigure.Term
