import PlaneFigure.Proofs.Json.Record
import PlaneFigure.Proofs.Outcome
import PlaneFigure.Wire.Diagram
import PlaneFigure.Wire.Service

/-!
# Wire forms that determine their values

A wire form is written with the members of its objects in the order of the fields. Whoever
passes it on may sort them by key, so a value should be decoded from its wire form and from the
canonical form of that just as well. Types of which this holds are lawful.

Lists of lawful values are lawful, and so are wrappers around them. A record is lawful if every
field reads its value from the member that it was written to, wherever this member stands; what
a record is put together from then follows its description. No type here contains JSON of its
own accord: a value is the same whether or not its wire form was sorted.
-/

namespace PlaneFigure

open Json (Arranges Decoder Record)

namespace Wire

variable {α β : Type}

/-- Values are decoded from their wire forms, whether or not the members of objects have been
sorted. -/
class Lawful (α : Type) [Wire α] : Prop where
  decode_encode : ∀ value : α, decode (encode value) = .ok value
  decode_canonical : ∀ value : α, decode (encode value).canonical = .ok value

/-- Wire forms that are canonical already need only be decoded as they are. -/
theorem Lawful.of_canonical [Wire α] (decodes : ∀ value : α, decode (encode value) = .ok value)
    (canonical : ∀ value : α, (encode value).canonical = encode value) : Lawful α :=
  ⟨decodes, fun value => (canonical value).symm ▸ decodes value⟩

/-- A type whose wire forms are objects is lawful if a value is decoded from every object whose
members arrange those that the value is written with. -/
theorem Lawful.of_object [Wire α] (members : α → List (String × Json))
    (encodes : ∀ value : α, encode value = .object (members value))
    (distinct : ∀ value, ((members value).map Prod.fst).Nodup)
    (decodes : ∀ value listed, Arranges listed (members value) →
      decode (.object listed) = .ok value) : Lawful α := by
  constructor
  · intro value
    rw [encodes]
    exact decodes value _ (.refl _ (distinct value))
  · intro value
    rw [encodes]
    exact decodes value _ (.canonical _ (distinct value))

/-- A record is lawful if it reads a value from every arrangement of the members that the value
is written with. -/
theorem Lawful.of_record [Wire α] (record : Record Json α) (name : String)
    (members : α → List (String × Json))
    (encodes : ∀ value : α, encode value = .object (members value))
    (decodes : (decode : Decoder Json α) = record.decoder name)
    (distinct : ∀ value, ((members value).map Prod.fst).Nodup)
    (reads : ∀ value listed, Arranges listed (members value) → record.Reads listed value) :
    Lawful α := by
  refine .of_object members encodes distinct ?_
  intro value listed arranges
  rw [decodes]
  exact (reads value listed arranges).decoder name

/-- A type that wraps a lawful one is lawful. -/
theorem Lawful.wrapper [Wire α] [Lawful α] (wrap : α → β) (unwrap : β → α)
    (wraps : ∀ value, wrap (unwrap value) = value) : @Lawful β (Wire.wrapper wrap unwrap) := by
  let _ : Wire β := Wire.wrapper wrap unwrap
  constructor
  · intro value
    change wrap <$> decode (encode (unwrap value)) = _
    rw [decode_encode]
    exact congrArg Except.ok (wraps value)
  · intro value
    change wrap <$> decode (encode (unwrap value)).canonical = _
    rw [decode_canonical]
    exact congrArg Except.ok (wraps value)

instance : Lawful String := .of_canonical (fun _ => rfl) fun _ => rfl

instance : Lawful Nat := by
  refine .of_canonical (fun value => ?_) fun _ => rfl
  simp [decode, encode, Decoder.nat, Json.Document.view]

instance : Lawful UInt32 := by
  refine .of_canonical (fun value => ?_) fun _ => rfl
  simp only [decode, encode, Decoder.word32, Json.Document.view]
  rw [if_pos ⟨Int.natCast_nonneg _, Int.ofNat_lt.mpr value.toNat_lt_size⟩, Int.toNat_natCast,
    UInt32.ofNat_toNat]

instance [Wire α] [Lawful α] : Lawful (List α) := by
  constructor
  · intro values
    change (values.map encode).mapM decode = .ok values
    rw [mapM_map_eq_ok encode decode id Lawful.decode_encode, List.map_id]
  · intro values
    change (Json.canonicalItems (values.map encode)).mapM decode = .ok values
    rw [Json.canonicalItems_eq_map, List.map_map,
      mapM_map_eq_ok (Json.canonical ∘ encode) decode id Lawful.decode_canonical, List.map_id]

end Wire

namespace Json

/-- A value that may be null is decoded like any other if it is not. -/
theorem Decoder.nullable_of_ne_null {α : Type} (decoder : Decoder Json α) (document : Json)
    (solid : document ≠ .null) : decoder.nullable document = some <$> decoder document := by
  cases document with
  | null => exact absurd rfl solid
  | _ => rfl

/-- Only null has null for a canonical form. -/
theorem canonical_ne_null (document : Json) (solid : document ≠ .null) :
    document.canonical ≠ .null := by
  cases document with
  | null => exact absurd rfl solid
  | _ => simp [canonical]

namespace Arranges

variable {α : Type} {listed members : List (String × Json)}

/-- A field reads a value if its decoder does, from what a member with the name of the field was
written with and from the canonical form of that. -/
theorem reads (arranges : Arranges listed members) {name : String} {decoder : Decoder Json α}
    {value : α} (absent : Option α) {document : Json} (member : (name, document) ∈ members)
    (plain : decoder document = .ok value) (canonical : decoder document.canonical = .ok value) :
    (Record.field name decoder absent).Reads listed value := by
  rcases arranges.values name document member with same | sorted
  · exact .field_of_mem absent _ arranges.distinct same plain
  · exact .field_of_mem absent _ arranges.distinct sorted canonical

variable [Wire α] [Wire.Lawful α]

/-- A field reads the value that a member with its name was written for. -/
theorem field (arranges : Arranges listed members) (name : String) (value : α)
    (absent : Option α) (member : (name, Wire.encode value) ∈ members) :
    (Record.field name Wire.decode absent).Reads listed value :=
  arranges.reads absent member (Wire.Lawful.decode_encode value)
    (Wire.Lawful.decode_canonical value)

/-- A field that may be null reads the value that a member with its name was written for. It has
to be known that no value is written as null. -/
theorem nullable (arranges : Arranges listed members) (name : String) (value : Option α)
    (solid : ∀ value : α, Wire.encode value ≠ .null) (absent : Option (Option α))
    (member : (name, Wire.orNull value) ∈ members) :
    (Record.field name (Decoder.nullable Wire.decode) absent).Reads listed value := by
  cases value with
  | none => exact arranges.reads absent member rfl rfl
  | some value =>
    apply arranges.reads absent member
    · change Decoder.nullable Wire.decode (Wire.encode value) = _
      rw [Decoder.nullable_of_ne_null _ _ (solid value), Wire.Lawful.decode_encode]
      rfl
    · change Decoder.nullable Wire.decode (Wire.encode value).canonical = _
      rw [Decoder.nullable_of_ne_null _ _ (canonical_ne_null _ (solid value)),
        Wire.Lawful.decode_canonical]
      rfl

/-- A field that can be left out reads the value that a member with its name was written for, or
none if there is no such member. -/
theorem optional (arranges : Arranges listed members) (name : String) (value : Option α)
    (solid : ∀ value : α, Wire.encode value ≠ .null)
    (written : ∀ document, (name, document) ∈ members ↔
      (name, document) ∈ Wire.optionalMember name value) :
    (Wire.optionalField α name).Reads listed value := by
  cases value with
  | none =>
    have absent : name ∉ listed.map Prod.fst := by
      rw [arranges.keys]
      simpa [Wire.optionalMember] using written
    exact .field_of_not_mem none absent
  | some value =>
    have member : (name, Wire.encode value) ∈ members :=
      (written _).mpr (by simp [Wire.optionalMember])
    exact arranges.nullable name (some value) solid (some none) member

end Arranges

end Json

section Identifiers

instance : Wire.Lawful GoalId := .wrapper GoalId.mk GoalId.text fun _ => rfl

instance : Wire.Lawful HypothesisId := .wrapper HypothesisId.mk HypothesisId.text fun _ => rfl

instance : Wire.Lawful ContextRef := .wrapper ContextRef.mk ContextRef.text fun _ => rfl

instance : Wire.Lawful Position := .wrapper Position.mk Position.text fun _ => rfl

end Identifiers

section Diagrams

/-- No object in the wire form of a term has more than one member. -/
theorem Term.canonical_toJson (term : Term) : term.toJson.canonical = term.toJson := by
  induction term with
  | const name => rfl
  | var name => rfl
  | app function argument functionHypothesis argumentHypothesis =>
    have parts : (app function argument).toJson.canonical =
        .object [("app", .array [function.toJson.canonical, argument.toJson.canonical])] := rfl
    rw [parts, functionHypothesis, argumentHypothesis]
    rfl

instance : Wire.Lawful Term := .of_canonical Term.ofJson_toJson Term.canonical_toJson

instance : Wire.Lawful Kind := by
  refine .of_canonical (fun kind => ?_) fun _ => rfl
  cases kind <;> rfl

instance : Wire.Lawful Shape := by
  refine .of_canonical (fun shape => ?_) fun _ => rfl
  cases shape <;> rfl

instance : Wire.Lawful (Fact String) := by
  refine .of_canonical (fun fact => ?_) (fun fact => ?_)
  · cases fact <;> rfl
  · cases fact <;> rfl

/-- The parts of a declaration are members of an object inside its wire form. -/
theorem Line.reads_declaration (kind : Kind) (key : String) (listed : List (String × Json))
    (arranges : Arranges listed (Wire.member "kind" kind ++ Wire.member "key" key)) :
    Line.declaration.Reads listed (.declare kind key) := by
  have kindReads := arranges.field "kind" kind none (by simp [Wire.member])
  have keyReads := arranges.field "key" key none (by simp [Wire.member])
  exact (kindReads.map _).seq keyReads

instance : Wire.Lawful Line := by
  have distinct : ∀ (kind : Kind) (key : String),
      ((Wire.member "kind" kind ++ Wire.member "key" key).map Prod.fst).Nodup := by
    simp [Wire.member]
  constructor
  · intro line
    cases line with
    | autoLabel => rfl
    | declare kind key =>
      exact (Line.reads_declaration kind key _ (.refl _ (distinct kind key))).ofMembers
    | fact stated =>
      change Line.fact <$> Wire.decode (Wire.encode stated) = _
      rw [Wire.Lawful.decode_encode]
      rfl
  · intro line
    cases line with
    | autoLabel => rfl
    | declare kind key =>
      exact (Line.reads_declaration kind key _ (.canonical _ (distinct kind key))).ofMembers
    | fact stated =>
      change Line.fact <$> Wire.decode (Wire.encode stated).canonical = _
      rw [Wire.Lawful.decode_canonical]
      rfl

instance : Wire.Lawful Program := by
  refine .of_record _ _ _ (fun _ => rfl) rfl (fun _ => by simp [Wire.member]) ?_
  rintro ⟨lines⟩ listed arranges
  have linesReads := arranges.field "lines" lines none (by simp [Wire.member])
  exact linesReads.map _

instance : Wire.Lawful Entity := by
  refine .of_record _ _ _ (fun _ => rfl) rfl (fun _ => by simp [Wire.member]) ?_
  rintro ⟨kind, key, backing, order⟩ listed arranges
  have kindReads := arranges.field "kind" kind none (by simp [Wire.member])
  have keyReads := arranges.field "key" key none (by simp [Wire.member])
  have backingReads := arranges.field "backing" backing none (by simp [Wire.member])
  have orderReads := arranges.field "order" order none (by simp [Wire.member])
  exact (((kindReads.map _).seq keyReads).seq backingReads).seq orderReads

end Diagrams

section Goals

/-- A term is never written as null. -/
theorem Term.toJson_ne_null (term : Term) : term.toJson ≠ .null := by
  cases term <;> simp [toJson]

instance : Wire.Lawful Hypothesis := by
  refine .of_record _ _ _ (fun _ => rfl) rfl (fun _ => by simp [Wire.member]) ?_
  rintro ⟨id, name, type⟩ listed arranges
  have idReads := arranges.field "id" id none (by simp [Wire.member])
  have nameReads := arranges.field "name" name none (by simp [Wire.member])
  have typeReads := arranges.field "ty" type none (by simp [Wire.member])
  exact ((idReads.map _).seq nameReads).seq typeReads

instance : Wire.Lawful Goal := by
  refine .of_record _ _ _ (fun _ => rfl) rfl ?_ ?_
  · rintro ⟨_, _, target⟩
    cases target <;> simp [Wire.member, Wire.optionalMember]
  · rintro ⟨id, hypotheses, target⟩ listed arranges
    have idReads := arranges.field "id" id none (by simp [Wire.member])
    have hypothesesReads := arranges.field "hypotheses" hypotheses none (by simp [Wire.member])
    have targetReads :=
      arranges.optional "target" target Term.toJson_ne_null (by simp [Wire.member])
    exact ((idReads.map _).seq hypothesesReads).seq targetReads

instance : Wire.Lawful HypothesisFixture := by
  refine .of_record _ _ _ (fun _ => rfl) rfl ?_ ?_
  · rintro ⟨id, _, _⟩
    cases id <;> simp [Wire.member, Wire.optionalMember]
  · rintro ⟨id, name, type⟩ listed arranges
    have idReads :=
      arranges.optional "id" id (fun _ => by simp [Wire.encode]) (by simp [Wire.member])
    have nameReads := arranges.field "name" name none (by simp [Wire.member])
    have typeReads := arranges.field "type" type none (by simp [Wire.member])
    exact ((idReads.map _).seq nameReads).seq typeReads

instance : Wire.Lawful GoalFixture := by
  refine .of_record _ _ _ (fun _ => rfl) rfl ?_ ?_
  · rintro ⟨_, _, _, target⟩
    cases target <;> simp [Wire.member, Wire.optionalMember]
  · rintro ⟨id, description, hypotheses, target⟩ listed arranges
    have idReads := arranges.field "id" id none (by simp [Wire.member])
    have descriptionReads :=
      arranges.field "description" description (some "") (by simp [Wire.member])
    have hypothesesReads := arranges.field "hypotheses" hypotheses none (by simp [Wire.member])
    have targetReads :=
      arranges.optional "target" target (fun _ => by simp [Wire.encode]) (by simp [Wire.member])
    exact (((idReads.map _).seq descriptionReads).seq hypothesesReads).seq targetReads

namespace Location

/-- A location is decoded from members that name its kind and from which the fields of this kind
are read. -/
theorem ofJson_of_reads (location : Location) (name : String) (form : Form)
    (known : forms.lookup name = some form) (listed : List (String × Json))
    (kind : listed.lookup "kind" = some (.string name))
    (reads : form.fields.Reads listed location) :
    ofJson (.object listed) = .ok location := by
  simp only [ofJson, Json.Document.view, kind, formOf, known]
  exact reads.ofMembers

/-- The kind that a location is written with is found in every arrangement of its members. -/
theorem lookup_kind {listed members : List (String × Json)} (arranges : Arranges listed members)
    (name : String) (member : ("kind", .string name) ∈ members) :
    listed.lookup "kind" = some (.string name) := by
  apply Json.lookup_of_mem _ _ _ arranges.distinct
  -- The canonical form of a string is the string.
  exact (arranges.values _ _ member).elim id id

end Location

instance : Wire.Lawful Location := by
  refine .of_object
    (fun
      | .hypothesis id => Wire.member "kind" "hyp" ++ Wire.member "id" id
      | .hypothesisType id position =>
        Wire.member "kind" "hypType" ++ Wire.member "id" id ++ Wire.member "pos" position
      | .target => Wire.member "kind" "target"
      | .targetType position => Wire.member "kind" "targetType" ++ Wire.member "pos" position)
    ?_ ?_ ?_
  · rintro (_ | _ | _ | _) <;> rfl
  · rintro (_ | _ | _ | _) <;> simp [Wire.member]
  · intro location listed arranges
    cases location with
    | hypothesis id =>
      have kind := Location.lookup_kind arranges "hyp" (by simp [Wire.member, Wire.encode])
      have idReads := arranges.field "id" id none (by simp [Wire.member])
      exact Location.ofJson_of_reads _ "hyp" _ rfl listed kind (idReads.map _)
    | hypothesisType id position =>
      have kind := Location.lookup_kind arranges "hypType" (by simp [Wire.member, Wire.encode])
      have idReads := arranges.field "id" id none (by simp [Wire.member])
      have positionReads := arranges.field "pos" position none (by simp [Wire.member])
      exact Location.ofJson_of_reads _ "hypType" _ rfl listed kind
        ((idReads.map _).seq positionReads)
    | target =>
      have kind := Location.lookup_kind arranges "target" (by simp [Wire.member, Wire.encode])
      exact Location.ofJson_of_reads _ "target" _ rfl listed kind (.pure _)
    | targetType position =>
      have kind := Location.lookup_kind arranges "targetType" (by simp [Wire.member, Wire.encode])
      have positionReads := arranges.field "pos" position none (by simp [Wire.member])
      exact Location.ofJson_of_reads _ "targetType" _ rfl listed kind (positionReads.map _)

instance : Wire.Lawful GoalLocation := by
  refine .of_record _ _ _ (fun _ => rfl) rfl (fun _ => by simp [Wire.member]) ?_
  rintro ⟨goal, location⟩ listed arranges
  have goalReads := arranges.field "goalId" goal none (by simp [Wire.member])
  have locationReads := arranges.field "loc" location none (by simp [Wire.member])
  exact (goalReads.map _).seq locationReads

end Goals

section Services

instance : Wire.Lawful Request := by
  refine .of_record _ _ _ (fun _ => rfl) rfl (fun _ => by simp [Wire.member]) ?_
  rintro ⟨context, goal, locations⟩ listed arranges
  have contextReads := arranges.field "contextRef" context none (by simp [Wire.member])
  have goalReads := arranges.field "goalId" goal none (by simp [Wire.member])
  have locationsReads := arranges.field "locs" locations (some []) (by simp [Wire.member])
  exact ((contextReads.map _).seq goalReads).seq locationsReads

instance : Wire.Lawful Settings := by
  refine .of_record _ _ _ (fun _ => rfl) rfl (fun _ => by simp [Wire.member]) ?_
  rintro ⟨domainSchema, styleSheet, maxOptSteps, component⟩ listed arranges
  have domainSchemaReads := arranges.field "domainSchema" domainSchema
    (some Settings.standard.domainSchema) (by simp [Wire.member])
  have styleSheetReads := arranges.field "styleSheet" styleSheet
    (some Settings.standard.styleSheet) (by simp [Wire.member])
  have maxOptStepsReads := arranges.field "maxOptSteps" maxOptSteps
    (some Settings.standard.maxOptSteps) (by simp [Wire.member])
  have componentReads := arranges.field "component" component
    (some Settings.standard.component) (by simp [Wire.member])
  exact (((domainSchemaReads.map _).seq styleSheetReads).seq maxOptStepsReads).seq componentReads

instance : Wire.Lawful Cursor := by
  refine .of_record _ _ _ (fun _ => rfl) rfl (fun _ => by simp [Wire.member]) ?_
  rintro ⟨context, goal⟩ listed arranges
  have contextReads := arranges.field "contextRef" context none (by simp [Wire.member])
  have goalReads := arranges.nullable "goalId" goal (fun _ => by simp [Wire.encode]) (some none)
    (by simp [Wire.member])
  exact (contextReads.map _).seq goalReads

instance : Wire.Lawful Panel.Props := by
  refine .of_record _ _ _ (fun _ => rfl) rfl (fun _ => by simp [Wire.member]) ?_
  rintro ⟨cursor, goals, selected⟩ listed arranges
  have cursorReads := arranges.field "cursor" cursor none (by simp [Wire.member])
  have goalsReads := arranges.field "goals" goals none (by simp [Wire.member])
  have selectedReads :=
    arranges.field "selectedLocations" selected (some []) (by simp [Wire.member])
  exact ((cursorReads.map _).seq goalsReads).seq selectedReads

end Services

end PlaneFigure
