import PlaneFigure.Proofs.Term.Grammar
import PlaneFigure.Proofs.Term.PlainDisplay

/-!
# The plain display of terms read from text

The plain display fails only on terms whose arguments have arguments, and so on, too many
times over. How often this happens is the number of layers of a term. In a text, an argument
with arguments of its own stands in parentheses, so the layers of a term that is read are
bounded by the nesting of its derivation. Parentheses need not add a layer, because they may
stand around a single atom or around a head.

What the plain display writes are the names of a term from left to right, joined by
underscores. Promotion of heads and grouping change no name, so these are the names of the
text in order, and the display of a term that was read is a name itself.
-/

namespace PlaneFigure.Term

open Text

/-- How many times over a term has arguments that have arguments. -/
def layers : Term → Nat
  | const _ => 0
  | var _ => 0
  | app function argument => max function.layers (argument.layers + 1)

/-- A term has so many layers at most exactly if all its applications are nested in fewer
arguments. One layer is that of the application itself, which is nested in none. -/
theorem layers_le_iff (term : Term) (bound : Nat) :
    term.layers ≤ bound ↔ ∀ place ∈ term.applications, place.depth < bound := by
  induction term generalizing bound with
  | const name => simp [layers, applications]
  | var name => simp [layers, applications]
  | app function argument functionHypothesis argumentHypothesis =>
    simp only [layers, applications, List.forall_mem_cons, List.forall_mem_append,
      List.forall_mem_map, Nat.max_le]
    cases bound with
    | zero => simp
    | succ bound =>
      simp only [functionHypothesis, argumentHypothesis, Nat.add_lt_add_iff_right,
        Nat.add_le_add_iff_right, Nat.succ_pos, true_and]

/-- The plain display joins the names of a term. -/
theorem plain_eq_ok (term : Term) (shallow : term.layers ≤ maxDepth + 1) :
    plain term = .ok ("_".intercalate term.names) := by
  rw [layers_le_iff] at shallow
  exact (plain_eq_ok_iff term _).mpr ⟨fun place inside => Nat.le_of_lt_succ (shallow place inside),
    rfl⟩

/-- The plain display succeeds exactly on the terms with few enough layers. -/
theorem plain_succeeds_iff (term : Term) :
    (∃ key, plain term = .ok key) ↔ term.layers ≤ maxDepth + 1 := by
  simp only [plain_eq_ok_iff, exists_and_left, exists_eq, and_true, layers_le_iff,
    Nat.lt_succ_iff]

/-- An argument has fewer layers than the term, and no other names. -/
theorem layers_lt_of_mem_args (term argument : Term) (member : argument ∈ term.args) :
    argument.layers < term.layers ∧ ∀ name ∈ argument.names, name ∈ term.names := by
  induction term with
  | const name => simp [args, argsBefore] at member
  | var name => simp [args, argsBefore] at member
  | app function last functionHypothesis _ =>
    rw [args_app, List.mem_append, List.mem_singleton] at member
    rcases member with earlier | rfl
    · obtain ⟨fewer, contained⟩ := functionHypothesis earlier
      constructor
      · simp only [layers]
        omega
      · intro name found
        exact List.mem_append_left _ (contained name found)
    · constructor
      · simp only [layers]
        omega
      · intro name found
        exact List.mem_append_right _ found

/-- Application adds the names of the arguments behind those of the function. -/
theorem names_foldl_app (function : Term) (args : List Term) :
    (args.foldl app function).names = function.names ++ args.flatMap names := by
  induction args generalizing function with
  | nil => simp
  | cons arg rest inductionHypothesis => simp [inductionHypothesis, names]

/-- Application adds one layer to those of an argument at most. -/
theorem layers_foldl_app (function : Term) (args : List Term) (bound : Nat)
    (functionBound : function.layers ≤ bound) (argsBound : ∀ arg ∈ args, arg.layers < bound) :
    (args.foldl app function).layers ≤ bound := by
  induction args generalizing function with
  | nil => exact functionBound
  | cons arg rest inductionHypothesis =>
    obtain ⟨argBound, restBound⟩ := List.forall_mem_cons.mp argsBound
    exact inductionHypothesis (app function arg) (Nat.max_le.mpr ⟨functionBound, argBound⟩)
      restBound

/-- Promotion changes neither names nor layers. -/
theorem promote_same (term : Term) :
    (promote term).names = term.names ∧ (promote term).layers = term.layers := by
  cases term <;> exact ⟨rfl, rfl⟩

/-- What atoms denote together has the names of all of them in order. -/
theorem names_denote (first : Term) (args : List Term) :
    (denote first args).names = first.names ++ args.flatMap names := by
  cases args with
  | nil => simp [denote]
  | cons arg rest =>
    rw [denote, names_foldl_app, (promote_same first).1]
    exact List.cons_ne_nil arg rest

/-- What atoms denote together has one layer more than they have at most. -/
theorem layers_denote (first : Term) (args : List Term) (bound : Nat)
    (firstBound : first.layers ≤ bound) (argsBound : ∀ arg ∈ args, arg.layers < bound) :
    (denote first args).layers ≤ bound := by
  cases args with
  | nil => exact firstBound
  | cons arg rest =>
    rw [denote]
    · exact layers_foldl_app _ _ bound ((promote_same first).2 ▸ firstBound) argsBound
    · exact List.cons_ne_nil arg rest

/-- The name that a token is. -/
def Token.name? : Token → Option String
  | .name spelling => some (String.ofList spelling)
  | _ => none

mutual

/-- The names of what an atom denotes are those among its tokens. -/
theorem Atom.names_term (atom : Atom) : atom.term.names = atom.tokens.filterMap Token.name? := by
  match atom with
  | .name spelling => rfl
  | .group first rest =>
    have opening : Token.name? .opening = none := rfl
    have closing : Token.name? .closing = none := rfl
    simp [Atom.term, Atom.tokens, names_denote, first.names_term, names_termsOf rest,
      opening, closing]

/-- The names of what atoms in a row denote are those among their tokens. -/
theorem names_termsOf (atoms : List Atom) :
    (termsOf atoms).flatMap names = (tokensOf atoms).filterMap Token.name? := by
  match atoms with
  | [] => rfl
  | atom :: rest => simp [termsOf, tokensOf, atom.names_term, names_termsOf rest]

end

mutual

/-- What an atom denotes has no more layers than the atom has parentheses around each other. -/
theorem Atom.layers_term (atom : Atom) : atom.term.layers ≤ atom.nesting := by
  match atom with
  | .name spelling => exact Nat.le_refl 0
  | .group first rest =>
    have firstBound := first.layers_term
    have restBound := layers_termsOf rest
    apply layers_denote
    · simp only [Atom.nesting]
      omega
    · intro arg member
      have bound := restBound arg member
      simp only [Atom.nesting]
      omega

/-- What each of several atoms denotes has no more layers than they have parentheses around
each other. -/
theorem layers_termsOf (atoms : List Atom) :
    ∀ term ∈ termsOf atoms, term.layers ≤ nestingOf atoms := by
  match atoms with
  | [] => simp [termsOf]
  | atom :: rest =>
    have atomBound := atom.layers_term
    have restBound := layers_termsOf rest
    intro term member
    simp only [termsOf, List.mem_cons] at member
    simp only [nestingOf]
    rcases member with rfl | later
    · omega
    · have bound := restBound term later
      omega

end

/-- An expression denotes a term with the names of its tokens. -/
theorem Phrase.names_term (phrase : Phrase) :
    phrase.term.names = phrase.tokens.filterMap Token.name? := by
  simp [Phrase.term, Phrase.tokens, tokensOf, names_denote, phrase.first.names_term,
    names_termsOf phrase.rest]

/-- An expression denotes a term with one layer more than it has parentheses around each other,
because the outermost application needs none. -/
theorem Phrase.layers_term (phrase : Phrase) : phrase.term.layers ≤ phrase.nesting + 1 := by
  have firstBound := phrase.first.layers_term
  have restBound := layers_termsOf phrase.rest
  apply layers_denote
  · simp only [Phrase.nesting, nestingOf]
    omega
  · intro arg member
    have bound := restBound arg member
    simp only [Phrase.nesting, nestingOf]
    omega

/-- The names among the lexemes of a text are names. -/
theorem Lexes.isName (offset : Nat) (text : List Char) (lexemes : List Lexeme)
    (lexes : Lexes offset text lexemes) :
    ∀ name ∈ (lexemes.map Lexeme.token).filterMap Token.name?, IsName name := by
  induction lexes with
  | nil offset => simp
  | blank _ _ _ _ _ _ inductionHypothesis => exact inductionHypothesis
  | opening _ _ _ _ inductionHypothesis => exact inductionHypothesis
  | closing _ _ _ _ inductionHypothesis => exact inductionHypothesis
  | name offset spelling rest lexemes inhabited named _ _ inductionHypothesis =>
    have first : IsName (String.ofList spelling) := by
      constructor
      · simpa using inhabited
      · simpa [Spelled] using named
    exact List.forall_mem_cons.mpr ⟨first, inductionHypothesis⟩

/-- A term that is read from text has names for its names, and few enough layers to be
displayed. -/
theorem names_and_layers_of_read (text : String) (term : Term) (returns : read text = .ok term) :
    (∀ name ∈ term.names, IsName name) ∧ term.layers ≤ maxDepth + 1 := by
  obtain ⟨derivation, rfl⟩ := (read_eq_ok_iff text term).mp returns
  constructor
  · rw [derivation.phrase.names_term, derivation.derives]
    exact derivation.lexes.isName 0 text.toList derivation.lexemes
  · have bound := derivation.phrase.layers_term
    have shallow := derivation.shallow
    omega

/-- A term whose names are names is displayed as a name, if it has few enough layers. -/
theorem plain_isName (term : Term) (named : ∀ name ∈ term.names, IsName name)
    (shallow : term.layers ≤ maxDepth + 1) : ∃ key, plain term = .ok key ∧ IsName key := by
  refine ⟨_, plain_eq_ok term shallow, ?_⟩
  exact IsName.intercalate "_" term.names (by decide) term.names_ne_nil named

end PlaneFigure.Term
