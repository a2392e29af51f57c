import PlaneFigure.Proofs.Term.Displayed

/-!
# Canonical texts of terms

The canonical text of a term separates a head and its arguments by single spaces, with
parentheses exactly around the arguments that are applications. Texts may have blanks and
parentheses beyond these; they denote no further terms. What can be read at all is described
without texts: the names are names, constants stand exactly at the heads of applications, and
the plain display does not fail.

Two limits meet here. Reading bounds how many parentheses are open, around whatever they stand;
the display bounds how often arguments have arguments. In canonical texts every parenthesis
opens an argument that has arguments itself, so there the two numbers differ by one, for the
outermost application, which needs no parentheses. Other texts of the same term have at least
as many parentheses around each other.

A text can be put in front of another without changing what it is divided into, as long as
the other does not begin with a name character. Canonical texts are put together from names
in this way.
-/

namespace PlaneFigure.Term

open Text

/-- The text of a term as an argument: an application needs parentheses. -/
def enclosed (term : Term) (text : String) : String :=
  if term.isApp then "(" ++ text ++ ")" else text

/-- The canonical text of a term. -/
def text : Term → String
  | const name => name
  | var name => name
  | app function argument => function.text ++ " " ++ argument.enclosed argument.text

/-- The canonical text of a term that is an argument. -/
def argumentText (argument : Term) : String := argument.enclosed argument.text

/-- A term in which constants stand exactly at the heads of applications: a variable, or a
constant applied to at least one argument, where the arguments are such terms again. -/
inductive Headed : Term → Prop where
  | var (name : String) : Headed (var name)
  | application (name : String) (args : List Term) (inhabited : args ≠ [])
      (headed : ∀ arg ∈ args, Headed arg) : Headed (apply name args)

/-- The canonical text of an application puts the argument behind that of the function. -/
theorem text_app (function argument : Term) :
    (app function argument).text = function.text ++ " " ++ argument.argumentText := rfl

/-- The canonical text consists of head and arguments, separated by single spaces. -/
theorem text_eq_intercalate (term : Term) :
    term.text = " ".intercalate (term.head.text :: term.args.map argumentText) := by
  induction term with
  | const name => simp [text, head, args, argsBefore]
  | var name => simp [text, head, args, argsBefore]
  | app function argument functionHypothesis _ =>
    have split : (app function argument).head.text ::
          (app function argument).args.map argumentText =
        (function.head.text :: function.args.map argumentText) ++ [argument.argumentText] := by
      simp [head, args_app]
    rw [text_app, functionHypothesis, split,
      String.intercalate_append_of_ne_nil (by simp) (by simp)]
    simp

/-- A constant applied to arguments is no variable, so promotion leaves it alone. -/
theorem promote_apply (name : String) (args : List Term) :
    promote (apply name args) = apply name args := by
  rcases args.eq_nil_or_concat with rfl | ⟨front, last, rfl⟩
  · rfl
  · simp [apply, applyTo, promote]

/-- What atoms denote together has constants exactly at the heads of applications, if they do.
A first atom is promoted, or it is an application and receives more arguments. -/
theorem Headed.denote (first : Term) (args : List Term) (firstHeaded : Headed first)
    (argsHeaded : ∀ arg ∈ args, Headed arg) : Headed (denote first args) := by
  by_cases alone : args = []
  · subst alone
    exact firstHeaded
  · have applied : Term.denote first args = args.foldl app (promote first) := by
      simp [Term.denote]
    rw [applied]
    cases firstHeaded with
    | var name => exact .application name args alone argsHeaded
    | application name earlier inhabited earlierHeaded =>
      have together : args.foldl app (promote (apply name earlier)) =
          apply name (earlier ++ args) := by
        rw [promote_apply]
        simp [apply, applyTo]
      rw [together]
      refine .application name (earlier ++ args) (by simp [inhabited]) ?_
      intro arg member
      rcases List.mem_append.mp member with before | after
      · exact earlierHeaded arg before
      · exact argsHeaded arg after

mutual

/-- An atom denotes a term with constants exactly at the heads of applications. -/
theorem Atom.headed_term (atom : Atom) : Headed atom.term := by
  match atom with
  | .name spelling => exact .var (String.ofList spelling)
  | .group first rest => exact first.headed_term.denote _ _ (headed_termsOf rest)

/-- Atoms in a row denote terms with constants exactly at the heads of applications. -/
theorem headed_termsOf (atoms : List Atom) : ∀ term ∈ termsOf atoms, Headed term := by
  match atoms with
  | [] => simp [termsOf]
  | atom :: rest =>
    exact List.forall_mem_cons.mpr ⟨atom.headed_term, headed_termsOf rest⟩

end

/-- A term that is read has constants exactly at the heads of applications. -/
theorem headed_of_read (text : String) (term : Term) (returns : read text = .ok term) :
    Headed term := by
  obtain ⟨derivation, rfl⟩ := (read_eq_ok_iff text term).mp returns
  exact derivation.phrase.first.headed_term.denote _ _ (headed_termsOf derivation.phrase.rest)

/-- The atom of a term as an argument: an application is a group. -/
def grouped (term : Term) (phrase : Phrase) : Atom :=
  if term.isApp then .group phrase.first phrase.rest else phrase.first

/-- The derivation of the canonical text. -/
def phrase : Term → Phrase
  | const name => ⟨.name name.toList, []⟩
  | var name => ⟨.name name.toList, []⟩
  | app function argument =>
    ⟨function.phrase.first, function.phrase.rest ++ [argument.grouped argument.phrase]⟩

/-- The atom of an argument in a canonical text. -/
def argumentAtom (argument : Term) : Atom := argument.grouped argument.phrase

/-- The canonical text of an application has one more atom than that of the function. -/
theorem phrase_app (function argument : Term) :
    (app function argument).phrase =
      ⟨function.phrase.first, function.phrase.rest ++ [argument.argumentAtom]⟩ := rfl

/-- The canonical text of a function applied to several arguments has their atoms in order. -/
theorem phrase_foldl_app (function : Term) (args : List Term) :
    (args.foldl app function).phrase =
      ⟨function.phrase.first, function.phrase.rest ++ args.map argumentAtom⟩ := by
  induction args generalizing function with
  | nil => simp
  | cons arg rest inductionHypothesis => simp [inductionHypothesis, phrase_app]

/-- A term that is not an application is a name by itself. -/
theorem phrase_of_leaf (term : Term) (leaf : term.isApp = false) :
    ∃ name, term.phrase = ⟨.name name, []⟩ := by
  cases term with
  | const name => exact ⟨name.toList, rfl⟩
  | var name => exact ⟨name.toList, rfl⟩
  | app function argument => cases leaf

/-- The atoms of terms denote these terms, if their derivations do. -/
theorem termsOf_map_argumentAtom (args : List Term)
    (denotes : ∀ arg ∈ args, arg.phrase.term = arg) :
    termsOf (args.map argumentAtom) = args := by
  induction args with
  | nil => rfl
  | cons arg rest inductionHypothesis =>
    obtain ⟨argDenotes, restDenotes⟩ := List.forall_mem_cons.mp denotes
    have atom : arg.argumentAtom.term = arg := by
      by_cases applied : arg.isApp = true
      · simpa [argumentAtom, grouped, applied, Atom.term, Phrase.term] using argDenotes
      · obtain ⟨name, single⟩ := phrase_of_leaf arg (by simpa using applied)
        simpa [argumentAtom, grouped, applied, single, Phrase.term, termsOf, denote] using
          argDenotes
    simp only [List.map_cons, termsOf, atom, inductionHypothesis restDenotes]

/-- The derivation of the canonical text denotes the term, if constants stand exactly at the
heads of applications. -/
theorem Headed.term_phrase (term : Term) (headed : Headed term) : term.phrase.term = term := by
  induction headed with
  | var name => simp [phrase, Phrase.term, Atom.term, termsOf, Term.denote]
  | application name args inhabited _ inductionHypothesis =>
    have spine : (apply name args).phrase = ⟨.name name.toList, args.map argumentAtom⟩ := by
      simp [apply, applyTo, phrase_foldl_app, phrase]
    rw [spine]
    simp [Phrase.term, Atom.term, termsOf_map_argumentAtom args inductionHypothesis,
      Term.denote, promote, apply, applyTo]

/-- Atoms in two rows have the larger nesting of both. -/
theorem nestingOf_append (atoms others : List Atom) :
    nestingOf (atoms ++ others) = max (nestingOf atoms) (nestingOf others) := by
  induction atoms with
  | nil => simp [nestingOf]
  | cons atom rest inductionHypothesis => simp [nestingOf, inductionHypothesis, Nat.max_assoc]

/-- In a canonical text as many parentheses are around each other as the term has layers, but
for the outermost one. -/
theorem nesting_phrase (term : Term) : term.phrase.nesting ≤ term.layers - 1 := by
  induction term with
  | const name => simp [phrase, Phrase.nesting, nestingOf, Atom.nesting]
  | var name => simp [phrase, Phrase.nesting, nestingOf, Atom.nesting]
  | app function argument functionHypothesis argumentHypothesis =>
    -- Parentheses around an argument make up for the layer that the argument has on its own.
    have argumentBound : argument.argumentAtom.nesting ≤ argument.layers := by
      cases argument with
      | const name => simp [argumentAtom, grouped, isApp, phrase, Atom.nesting]
      | var name => simp [argumentAtom, grouped, isApp, phrase, Atom.nesting]
      | app inner last =>
        have positive : 1 ≤ (app inner last).layers := by
          simp only [layers]
          omega
        simp only [Phrase.nesting, nestingOf] at argumentHypothesis
        simp only [argumentAtom, grouped, isApp, if_true, Atom.nesting]
        omega
    simp only [Phrase.nesting, nestingOf] at functionHypothesis
    simp only [phrase_app, Phrase.nesting, nestingOf, nestingOf_append, layers]
    omega

/-- The tokens of atoms in two rows are those of the first row and then those of the second. -/
theorem tokensOf_append (atoms others : List Atom) :
    tokensOf (atoms ++ others) = tokensOf atoms ++ tokensOf others := by
  induction atoms with
  | nil => rfl
  | cons atom rest inductionHypothesis => simp [tokensOf, inductionHypothesis]

/-- The characters are divided into lexemes with these tokens, wherever they stand and whatever
follows them, unless it begins with a name character. -/
def Spells (text : List Char) (tokens : List Token) : Prop :=
  ∀ offset rest later, (∀ char ∈ rest.head?, isNameChar char = false) →
    Lexes (offset + byteLength text) rest later →
      ∃ lexemes, Lexes offset (text ++ rest) (lexemes ++ later) ∧
        lexemes.map Lexeme.token = tokens

/-- A name spells itself. -/
theorem Spells.name (name : String) (named : IsName name) :
    Spells name.toList [.name name.toList] := by
  obtain ⟨inhabited, spelled⟩ := named
  intro offset rest later maximal lexes
  exact ⟨[.name offset name.toList],
    .name offset name.toList rest later (by simpa using inhabited) spelled maximal lexes, rfl⟩

/-- Texts that are separated by a space spell what both of them spell. -/
theorem Spells.separated (text other : List Char) (tokens more : List Token)
    (first : Spells text tokens) (second : Spells other more) :
    Spells (text ++ ' ' :: other) (tokens ++ more) := by
  intro offset rest later maximal lexes
  have width : ' '.utf8Size = 1 := by decide
  have length : offset + byteLength (text ++ ' ' :: other) =
      offset + byteLength text + ' '.utf8Size + byteLength other := by
    simp only [byteLength_append, byteLength]
    omega
  -- From the back: what the first text may be followed by is known once the space is read.
  obtain ⟨behind, behindLexes, behindTokens⟩ :=
    second (offset + byteLength text + ' '.utf8Size) rest later maximal (length ▸ lexes)
  have spaced := Lexes.blank (offset + byteLength text) ' ' (other ++ rest) _ (by decide)
    behindLexes
  obtain ⟨front, frontLexes, frontTokens⟩ := first offset (' ' :: (other ++ rest)) _
    (by simpa using isNameChar_separators.2.1) spaced
  refine ⟨front ++ behind, ?_, by simp [frontTokens, behindTokens]⟩
  simpa using frontLexes

/-- A text in parentheses spells what it spells between parentheses. -/
theorem Spells.parenthesized (text : List Char) (tokens : List Token)
    (inside : Spells text tokens) :
    Spells ('(' :: (text ++ [')'])) (.opening :: (tokens ++ [.closing])) := by
  intro offset rest later _ lexes
  have length : offset + byteLength ('(' :: (text ++ [')'])) =
      offset + 1 + byteLength text + 1 := by
    simp only [byteLength, byteLength_append, utf8Size_parentheses]
    omega
  have closed := Lexes.closing (offset + 1 + byteLength text) rest later (length ▸ lexes)
  obtain ⟨lexemes, insideLexes, insideTokens⟩ := inside (offset + 1) (')' :: rest) _
    (by simpa using isNameChar_parentheses.2) closed
  refine ⟨.opening offset :: (lexemes ++ [.closing (offset + 1 + byteLength text)]), ?_, ?_⟩
  · simpa using Lexes.opening offset _ _ insideLexes
  · simp [Lexeme.token, insideTokens]

/-- The canonical text of a term spells the tokens of its derivation, if the names of the term
are names. -/
theorem spells_text (term : Term) (named : ∀ name ∈ term.names, IsName name) :
    Spells term.text.toList term.phrase.tokens := by
  induction term with
  | const name =>
    simpa [text, phrase, Phrase.tokens, tokensOf, Atom.tokens] using
      Spells.name name (named name (by simp [names]))
  | var name =>
    simpa [text, phrase, Phrase.tokens, tokensOf, Atom.tokens] using
      Spells.name name (named name (by simp [names]))
  | app function argument functionHypothesis argumentHypothesis =>
    have functionSpells := functionHypothesis fun name found =>
      named name (List.mem_append_left _ found)
    have argumentSpells := argumentHypothesis fun name found =>
      named name (List.mem_append_right _ found)
    have inPlace : Spells argument.argumentText.toList argument.argumentAtom.tokens := by
      by_cases applied : argument.isApp = true
      · simpa [argumentText, enclosed, argumentAtom, grouped, applied, Atom.tokens, Phrase.tokens,
          tokensOf] using argumentSpells.parenthesized
      · obtain ⟨name, single⟩ := phrase_of_leaf argument (by simpa using applied)
        simpa [argumentText, enclosed, argumentAtom, grouped, applied, single, Phrase.tokens,
          tokensOf] using argumentSpells
    have together := functionSpells.separated _ _ _ _ inPlace
    simpa [text_app, phrase_app, Phrase.tokens, tokensOf, tokensOf_append] using together

/-- The canonical text of a term denotes the term, if its names are names, constants stand
exactly at the heads of applications, and it has few enough layers. -/
theorem read_text (term : Term) (named : ∀ name ∈ term.names, IsName name)
    (headed : Headed term) (shallow : term.layers ≤ maxDepth + 1) :
    read term.text = .ok term := by
  obtain ⟨lexemes, lexes, tokens⟩ := spells_text term named 0 [] [] (by simp) (.nil _)
  have nesting := nesting_phrase term
  rw [read_eq_ok_iff]
  exact ⟨⟨lexemes, by simpa using lexes, term.phrase, tokens.symm, by omega⟩, headed.term_phrase⟩

/-- A name is read as the variable of that name. -/
theorem read_name (name : String) (named : IsName name) : read name = .ok (var name) := by
  apply read_text (var name)
  · simpa [names] using named
  · exact .var name
  · exact Nat.zero_le _

/-- A term is denoted by some text exactly if its names are names, constants stand exactly at
the heads of applications, and the plain display does not fail on it. The canonical text, which
separates head and arguments by single spaces and has parentheses exactly around arguments that
are applications, is then one that denotes it. What the plain display shows, read as a text, is
the single variable of that name. -/
theorem exists_read_iff_displayed (term : Term) :
    ((∃ given, read given = .ok term) ↔
      (∀ name ∈ term.names, IsName name) ∧ Headed term ∧ ∃ key, plain term = .ok key) ∧
    term.text = " ".intercalate (term.head.text :: term.args.map argumentText) ∧
    ((∃ given, read given = .ok term) →
      read term.text = .ok term ∧
        ∃ key, plain term = .ok key ∧ read key = .ok (var key)) := by
  have denoted : (∃ given, read given = .ok term) →
      (∀ name ∈ term.names, IsName name) ∧ Headed term ∧ term.layers ≤ maxDepth + 1 := by
    rintro ⟨given, returns⟩
    obtain ⟨named, shallow⟩ := names_and_layers_of_read given term returns
    exact ⟨named, headed_of_read given term returns, shallow⟩
  refine ⟨⟨?_, ?_⟩, text_eq_intercalate term, ?_⟩
  · intro given
    obtain ⟨named, headed, shallow⟩ := denoted given
    exact ⟨named, headed, (plain_succeeds_iff term).mpr shallow⟩
  · rintro ⟨named, headed, displays⟩
    exact ⟨term.text, read_text term named headed ((plain_succeeds_iff term).mp displays)⟩
  · intro given
    obtain ⟨named, headed, shallow⟩ := denoted given
    obtain ⟨key, displays, isName⟩ := plain_isName term named shallow
    exact ⟨read_text term named headed shallow, key, displays, read_name key isName⟩

/-- Single spaces, and parentheses around the argument that is an application. -/
example : (apply "OnLine" [apply "mid" [var "a", var "b"], var "L"]).text =
    "OnLine (mid a b) L" := by decide

/-- The deepest chain that texts denote has one layer more than parentheses may be open. -/
theorem exists_read_iff_displayed_chain :
    (∃ given, read given = .ok (chain (maxDepth + 1))) ∧
      read (chain (maxDepth + 1)).text = .ok (chain (maxDepth + 1)) ∧
      ¬ ∃ given, read given = .ok (chain (maxDepth + 2)) := by
  have headed : ∀ depth, Headed (chain depth) := by
    intro depth
    induction depth with
    | zero => exact .var "x"
    | succ depth inductionHypothesis =>
      exact .application "s" [chain depth] (by simp) (by simpa using inductionHypothesis)
  have named : ∀ name ∈ (chain (maxDepth + 1)).names, IsName name := by decide +kernel
  have displays : ∃ key, plain (chain (maxDepth + 1)) = .ok key := ⟨_, rfl⟩
  obtain ⟨image, _, canonical⟩ := exists_read_iff_displayed (chain (maxDepth + 1))
  have given := image.mpr ⟨named, headed _, displays⟩
  refine ⟨given, (canonical given).1, ?_⟩
  intro deeper
  obtain ⟨_, _, key, shown⟩ := (exists_read_iff_displayed (chain (maxDepth + 2))).1.mp deeper
  cases shown

end PlaneFigure.Term
