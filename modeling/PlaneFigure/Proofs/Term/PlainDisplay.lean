import Mathlib.Data.List.Basic
import PlaneFigure.Term.Display

/-!
# Where the plain display gives up, and what its keys tell apart

The plain display goes through a term from left to right and gives up at the first application
that is nested in too many arguments. What it has written by then are the names in front of this
application, each with the underscore that separates it from the next one. If there is no such
application, it has written all names, and the grouping of the term is forgotten.

An application is described by its place: the arguments that it is nested in are counted along
the term, where the function of an application is as deep as the application and its argument
one deeper. The names in front of an application order the applications from left to right.
Several of them may begin at the same name, as an application and its function do, but then the
same names are in front of them.

Keys without grouping still tell the names apart, unless the names contain underscores
themselves. Nothing is assumed of names otherwise; they may be empty.
-/

namespace PlaneFigure.Term

/-- The names of a term from left to right. -/
def names : Term → List String
  | const name => [name]
  | var name => [name]
  | app function argument => function.names ++ argument.names

/-- Whether a term is an application. -/
def isApp : Term → Bool
  | app .. => true
  | _ => false

/-- An application inside a term. -/
structure Place where
  /-- The application. -/
  part : Term
  /-- How many arguments it is nested in. -/
  depth : Nat
  /-- The names of the term to the left of it. -/
  before : List String
deriving DecidableEq

/-- The applications inside a term, the term itself at depth zero. -/
def applications : Term → List Place
  | const _ => []
  | var _ => []
  | app function argument =>
    ⟨app function argument, 0, []⟩ :: (function.applications ++
      argument.applications.map fun place =>
        ⟨place.part, place.depth + 1, function.names ++ place.before⟩)

/-- The application is the first one in the term, from left to right, that is nested in more
arguments than a limit: what is in front of it is in front of every other one. -/
structure FirstBeyond (limit : Nat) (term : Term) (place : Place) : Prop where
  inside : place ∈ term.applications
  beyond : limit < place.depth
  first : ∀ other ∈ term.applications, limit < other.depth → place.before <+: other.before

/-- Names with an underscore behind each of them. -/
def trailed (names : List String) : String := String.join (names.map (· ++ "_"))

/-- Every term has a name. -/
theorem names_ne_nil (term : Term) : term.names ≠ [] := by
  induction term with
  | const name => simp [names]
  | var name => simp [names]
  | app function argument functionHypothesis _ => simp [names, functionHypothesis]

/-- A place is that of an application, whose names stand behind those in front of it. -/
theorem names_of_place (term : Term) (place : Place) (inside : place ∈ term.applications) :
    place.part.isApp = true ∧
      ∃ after, term.names = place.before ++ (place.part.names ++ after) := by
  induction term generalizing place with
  | const name => cases inside
  | var name => cases inside
  | app function argument functionHypothesis argumentHypothesis =>
    rcases List.mem_cons.mp inside with rfl | within
    · exact ⟨rfl, [], by simp⟩
    · rcases List.mem_append.mp within with inFunction | inArgument
      · obtain ⟨applied, after, names⟩ := functionHypothesis place inFunction
        exact ⟨applied, after ++ argument.names, by simp [Term.names, names]⟩
      · obtain ⟨inner, member, rfl⟩ := List.mem_map.mp inArgument
        obtain ⟨applied, after, names⟩ := argumentHypothesis inner member
        exact ⟨applied, after, by simp [Term.names, names]⟩

/-- The applications are listed from left to right. Those in the function have only names of the
function in front of them, and those in the argument have all of these. -/
theorem applications_ordered (term : Term) :
    term.applications.Pairwise fun place other => place.before <+: other.before := by
  induction term with
  | const name => exact .nil
  | var name => exact .nil
  | app function argument functionHypothesis argumentHypothesis =>
    refine .cons (fun other _ => List.nil_prefix) ?_
    refine List.pairwise_append.mpr ⟨functionHypothesis, ?_, ?_⟩
    · exact List.pairwise_map.mpr (argumentHypothesis.imp (List.prefix_append_right_inj _).mpr)
    · intro place inFunction other inArgument
      obtain ⟨inner, _, rfl⟩ := List.mem_map.mp inArgument
      obtain ⟨_, after, names⟩ := names_of_place function place inFunction
      simp [names]

/-- Joined names with one more underscore have an underscore behind each of them. -/
theorem intercalate_append_eq_trailed (names : List String) (inhabited : names ≠ []) :
    "_".intercalate names ++ "_" = trailed names := by
  induction names with
  | nil => exact absurd rfl inhabited
  | cons name rest inductionHypothesis =>
    by_cases last : rest = []
    · subst last
      simp [trailed]
    · rw [String.intercalate_cons_of_ne_nil last, String.append_assoc,
        inductionHypothesis last]
      simp [trailed]

/-- Names in two rows have underscores behind each of them. -/
theorem trailed_append (names others : List String) :
    trailed (names ++ others) = trailed names ++ trailed others := by
  simp [trailed]

/-- The first application that is too deep for a display at some depth: it lies in the function,
or else in the argument, unless the term itself is too deep. -/
theorem find?_applications_app (depth : Nat) (function argument : Term)
    (shallow : ¬ maxDepth < depth) :
    (app function argument).applications.find? (fun place => maxDepth < depth + place.depth) =
      (function.applications.find? fun place => maxDepth < depth + place.depth).or
        ((argument.applications.find? fun place => maxDepth < depth + 1 + place.depth).map
          fun place => ⟨place.part, place.depth + 1, function.names ++ place.before⟩) := by
  have deeper : ∀ place : Place, depth + (place.depth + 1) = depth + 1 + place.depth := by
    omega
  rw [applications, List.find?_cons_of_neg (by simpa using shallow), List.find?_append,
    List.find?_map]
  simp only [Function.comp_def, deeper]

/-- Going through a term at some depth, behind a text: the display gives up at the first
application that is too deep, and otherwise writes all names. The argument of an application is
reached only if its function is written, with the names of the function in front. -/
theorem writeOnto_eq (depth : Nat) (written : String) (term : Term) :
    writeOnto depth written term =
      match term.applications.find? (fun place => maxDepth < depth + place.depth) with
      | some place => .error ⟨written ++ trailed place.before, tooDeepToDisplay⟩
      | none => .ok (written ++ "_".intercalate term.names) := by
  induction term generalizing depth written with
  | const name => simp [writeOnto, applications, names]
  | var name => simp [writeOnto, applications, names]
  | app function argument functionHypothesis argumentHypothesis =>
    by_cases deep : maxDepth < depth
    · simp [writeOnto, applications, deep, trailed, String.join]
    · rw [find?_applications_app depth function argument deep, writeOnto, if_neg deep,
        functionHypothesis depth written]
      cases function.applications.find? (fun place => maxDepth < depth + place.depth) with
      | some place => rfl
      | none =>
        simp only [argumentHypothesis, Option.none_or]
        cases argument.applications.find? (fun place => maxDepth < depth + 1 + place.depth) with
        | some place =>
          simp only [Option.map_some, trailed_append,
            ← intercalate_append_eq_trailed function.names function.names_ne_nil,
            String.append_assoc]
        | none =>
          simp only [Option.map_none, names, String.append_assoc,
            String.intercalate_append_of_ne_nil function.names_ne_nil argument.names_ne_nil]

/-- The application at which a search from left to right ends is the first one. -/
theorem FirstBeyond.of_find? (limit : Nat) (term : Term) (place : Place)
    (found : term.applications.find? (fun place => limit < place.depth) = some place) :
    FirstBeyond limit term place := by
  obtain ⟨beyond, earlier, later, split, passed⟩ := List.find?_eq_some_iff_append.mp found
  have ordered := term.applications_ordered
  rw [split, List.pairwise_append, List.pairwise_cons] at ordered
  refine ⟨by simp [split], by simpa using beyond, ?_⟩
  intro other inside deep
  rw [split, List.mem_append, List.mem_cons] at inside
  rcases inside with before | rfl | behind
  · have shallow := passed other before
    simp [deep] at shallow
  · exact List.prefix_rfl
  · exact ordered.2.1.1 other behind

/-- What is in front of the first application does not depend on which of those that begin at
the same name is meant. -/
theorem FirstBeyond.before_unique (limit : Nat) (term : Term) (place other : Place)
    (first : FirstBeyond limit term place) (alsoFirst : FirstBeyond limit term other) :
    place.before = other.before :=
  (first.first other alsoFirst.inside alsoFirst.beyond).eq_of_length_le
    (alsoFirst.first place first.inside first.beyond).length_le

/-- Joined names tell the names apart, if the names contain no underscores. -/
theorem intercalate_inj (names others : List String) (inhabited : names ≠ [])
    (alsoInhabited : others ≠ []) (free : ∀ name ∈ names, '_' ∉ name.toList)
    (alsoFree : ∀ name ∈ others, '_' ∉ name.toList) :
    "_".intercalate names = "_".intercalate others ↔ names = others := by
  have parts : ∀ given : List String, given ≠ [] → (∀ name ∈ given, '_' ∉ name.toList) →
      ("_".intercalate given).toList.splitOn '_' = given.map String.toList := by
    intro given some apart
    rw [String.toList_intercalate]
    exact List.splitOn_intercalate '_' (by simpa using apart) (by simpa using some)
  refine ⟨?_, fun same => by rw [same]⟩
  intro same
  have chars : names.map String.toList = others.map String.toList := by
    rw [← parts names inhabited free, ← parts others alsoInhabited alsoFree, same]
  exact List.map_injective_iff.mpr (fun _ _ => String.toList_injective) chars

/-- The plain display starts at depth zero with nothing written. -/
theorem plain_eq (term : Term) :
    plain term =
      match term.applications.find? (fun place => maxDepth < place.depth) with
      | some place => .error ⟨trailed place.before, tooDeepToDisplay⟩
      | none => .ok ("_".intercalate term.names) := by
  rw [plain, writeOnto_eq]
  simp only [Nat.zero_add, String.empty_append]

/-- The plain display shows a term exactly if none of its applications is nested in too many
arguments. -/
theorem plain_eq_ok_iff (term : Term) (key : String) :
    plain term = .ok key ↔
      (∀ place ∈ term.applications, place.depth ≤ maxDepth) ∧
        key = "_".intercalate term.names := by
  rw [plain_eq]
  cases found : term.applications.find? (fun place => maxDepth < place.depth) with
  | none =>
    have shallow : ∀ place ∈ term.applications, place.depth ≤ maxDepth := by
      simpa using found
    constructor
    · intro displays
      exact ⟨shallow, (Except.ok.inj displays).symm⟩
    · rintro ⟨_, rfl⟩
      rfl
  | some place =>
    have first := FirstBeyond.of_find? maxDepth term place found
    constructor
    · intro displays
      cases displays
    · rintro ⟨shallow, _⟩
      exact absurd first.beyond (Nat.not_lt.mpr (shallow place first.inside))

/-- The plain display fails on a term exactly if there is an application that is nested in too
many arguments. It shows what is in front of the first one. -/
theorem plain_eq_error_iff (term : Term) (failure : Undisplayable) :
    plain term = .error failure ↔
      ∃ place, FirstBeyond maxDepth term place ∧
        failure = ⟨trailed place.before, tooDeepToDisplay⟩ := by
  rw [plain_eq]
  cases found : term.applications.find? (fun place => maxDepth < place.depth) with
  | none =>
    constructor
    · intro fails
      cases fails
    · rintro ⟨place, ⟨inside, beyond, _⟩, _⟩
      exact absurd beyond (by simpa using List.find?_eq_none.mp found place inside)
  | some place =>
    have first := FirstBeyond.of_find? maxDepth term place found
    constructor
    · intro fails
      exact ⟨place, first, (Except.error.inj fails).symm⟩
    · rintro ⟨other, alsoFirst, rfl⟩
      have same := first.before_unique maxDepth term place other alsoFirst
      simp only [same]

/-- The plain display shows a term exactly if no application in it is nested in more than 128
arguments, and then shows the names of the term from left to right, joined by underscores. It
fails exactly if there is such an application, for this reason, and with the names in front of
the first one, each with an underscore behind it. Terms whose names contain no underscores are
shown alike exactly if they have the same names in the same order. -/
theorem plain_joins_names (term : Term) :
    ((∃ key, plain term = .ok key) ↔ ∀ place ∈ term.applications, place.depth ≤ 128) ∧
    (∀ key, plain term = .ok key → key = "_".intercalate term.names) ∧
    (∀ failure, plain term = .error failure ↔
      ∃ place, FirstBeyond 128 term place ∧
        failure = ⟨trailed place.before, "nested deeper than 128"⟩) ∧
    ∀ other key otherKey, plain term = .ok key → plain other = .ok otherKey →
      (∀ name ∈ term.names ++ other.names, '_' ∉ name.toList) →
        (key = otherKey ↔ term.names = other.names) := by
  refine ⟨?_, ?_, ?_, ?_⟩
  · simp only [plain_eq_ok_iff, exists_and_left, exists_eq, and_true, maxDepth]
  · intro key displays
    exact ((plain_eq_ok_iff term key).mp displays).2
  · intro failure
    have reason : tooDeepToDisplay = "nested deeper than 128" := by decide
    rw [plain_eq_error_iff, reason, maxDepth]
  · intro other key otherKey displays alsoDisplays free
    obtain ⟨_, rfl⟩ := (plain_eq_ok_iff term key).mp displays
    obtain ⟨_, rfl⟩ := (plain_eq_ok_iff other otherKey).mp alsoDisplays
    obtain ⟨termFree, otherFree⟩ := List.forall_mem_append.mp free
    exact intercalate_inj _ _ term.names_ne_nil other.names_ne_nil termFree otherFree

/-- Arguments that have arguments, so many times over. -/
def chain : Nat → Term
  | 0 => var "x"
  | depth + 1 => apply "s" [chain depth]

/-- Two terms that differ in their grouping have the same names and share a key. A chain of
arguments with one application too many is shown up to this application. -/
theorem plain_joins_names_grouped :
    plain (apply "f" [apply "g" [var "a"]]) = .ok "f_g_a" ∧
      plain (apply "f" [var "g", var "a"]) = .ok "f_g_a" ∧
      (apply "f" [apply "g" [var "a"]]).names = (apply "f" [var "g", var "a"]).names ∧
      ∃ place, FirstBeyond 128 (chain 130) place ∧
        plain (chain 130) = .error ⟨trailed place.before, "nested deeper than 128"⟩ ∧
        trailed place.before = trailed (List.replicate 129 "s") := by
  have grouped : plain (apply "f" [apply "g" [var "a"]]) = .ok "f_g_a" := by decide
  have flat : plain (apply "f" [var "g", var "a"]) = .ok "f_g_a" := by decide
  have fails : plain (chain 130) =
      .error ⟨trailed (List.replicate 129 "s"), "nested deeper than 128"⟩ := by
    decide +kernel
  obtain ⟨_, _, _, collides⟩ := plain_joins_names (apply "f" [apply "g" [var "a"]])
  obtain ⟨_, _, failure, _⟩ := plain_joins_names (chain 130)
  have same := (collides _ "f_g_a" "f_g_a" grouped flat (by decide)).mp rfl
  obtain ⟨place, first, shown⟩ := (failure _).mp fails
  exact ⟨grouped, flat, same, place, first, shown ▸ fails,
    (Undisplayable.mk.inj shown).1.symm⟩

end PlaneFigure.Term
