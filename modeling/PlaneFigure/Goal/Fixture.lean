import PlaneFigure.Files
import PlaneFigure.Goal.Basic
import PlaneFigure.Json.Record
import PlaneFigure.Term.Reading

/-!
# Goals kept in files

A fixture describes a goal in a JSON document, with the types of its hypotheses as texts. A
hypothesis without an identity is identified by its name. A fixture is usable only if all its
types are terms, and the first that is not is reported under the name of its hypothesis; the
target comes last.

A folder contributes the fixtures in its `json` files in the order of their names. Files that
hold no usable fixture are skipped.
-/

namespace PlaneFigure

/-- A hypothesis as it is written in a file. -/
structure HypothesisFixture where
  id : Option String
  name : String
  type : String
deriving DecidableEq

/-- A goal as it is written in a file. -/
structure GoalFixture where
  id : String
  description : String
  hypotheses : List HypothesisFixture
  target : Option String
deriving DecidableEq

/-- Why a fixture, or a folder of them, cannot be loaded. -/
inductive FixtureError where
  /-- No text can be read at the place of the fixture. -/
  | notFound (fault : ReadFault)
  /-- There is no folder at the place. -/
  | noFolder
  | invalid (fault : Json.DecodeError)
  | invalidTerm (name : String) (fault : Term.ReadError)

/-- The account of an unusable term that is shown to users. -/
def invalidTermMessage (name : String) (fault : Term.ReadError) : String :=
  "invalid term in " ++ name ++ ": " ++ fault.message

namespace FixtureError

/-- The account of a failure to load what stands at a path. -/
def message (path : String) : FixtureError → String
  | notFound fault => "file not found: " ++ path ++ ": " ++ fault.message
  | noFolder => "file not found: " ++ path ++ " is not a directory"
  | invalid fault => "parse error: " ++ fault.message
  | invalidTerm name fault => invalidTermMessage name fault

/-- The accounts of what caused the failure. Only the fault of a term is kept apart; the others
are a part of the account and nothing else. -/
def causes : FixtureError → List String
  | invalidTerm _ fault => [fault.message]
  | _ => []

end FixtureError

namespace HypothesisFixture

/-- A hypothesis as a document. -/
def decoder {δ : Type} [Json.Document δ] : Json.Decoder δ HypothesisFixture :=
  Json.Record.decoder
    (HypothesisFixture.mk <$> .optional "id" Json.Decoder.string
      <*> .required "name" Json.Decoder.string
      <*> .required "type" Json.Decoder.string)
    "HypothesisFixture"

/-- The identity of the hypothesis: its own, or else its name. -/
def identity (fixture : HypothesisFixture) : HypothesisId := ⟨fixture.id.getD fixture.name⟩

end HypothesisFixture

namespace GoalFixture

/-- A goal as a document. -/
def decoder {δ : Type} [Json.Document δ] : Json.Decoder δ GoalFixture :=
  Json.Record.decoder
    (GoalFixture.mk <$> .required "id" Json.Decoder.string
      <*> .withDefault "description" Json.Decoder.string ""
      <*> .required "hypotheses" (Json.Decoder.list HypothesisFixture.decoder)
      <*> .optional "target" Json.Decoder.string)
    "GoalFixture"

/-- Read the term with a name in the fixture. -/
def readTerm (name text : String) : Except FixtureError Term :=
  (Term.read text).mapError (.invalidTerm name)

/-- The hypothesis that is described. -/
def hypothesisOf (fixture : HypothesisFixture) : Except FixtureError Hypothesis :=
  (fun type => ⟨fixture.identity, fixture.name, type⟩) <$> readTerm fixture.name fixture.type

/-- The goal that is described. -/
def goal (fixture : GoalFixture) : Except FixtureError Goal := do
  let hypotheses ← fixture.hypotheses.mapM hypothesisOf
  let target ← fixture.target.mapM (readTerm "target")
  return ⟨⟨fixture.id⟩, hypotheses, target⟩

/-- The usable fixture in a text, with its goal. -/
def ofText (text : String) : Except FixtureError (GoalFixture × Goal) := do
  let fixture ← (Json.decodeText decoder text).mapError .invalid
  return (fixture, ← fixture.goal)

/-- The usable fixture in a file, if there is one, with its goal. -/
def ofFile (entry : Option Entry) : Except FixtureError (GoalFixture × Goal) :=
  match Entry.readText entry with
  | .ok text => ofText text
  | .error fault => .error (.notFound fault)

/-- The extension of files that hold fixtures. -/
def fixtureExtension : List UInt8 := ['j', 's', 'o', 'n'].map Char.toUInt8

/-- Whether a file name has the extension of fixtures. -/
def isFixtureName (name : FileName) : Bool := name.extension? = some fixtureExtension

/-- Sort entries by name. -/
def sortByName (entries : List (FileName × Entry)) : List (FileName × Entry) :=
  entries.mergeSort fun entry other => entry.1 ≤ other.1

/-- The usable fixtures of a folder with their goals. -/
def ofFolder (entry : Option Entry) : Except FixtureError (List (GoalFixture × Goal)) :=
  match entry.bind Entry.entries? with
  | none => .error .noFolder
  | some entries =>
    .ok ((sortByName (entries.filter fun entry => isFixtureName entry.1)).filterMap
      fun entry => (ofFile (some entry.2)).toOption)

end GoalFixture

end PlaneFigure
