import PlaneFigure.Proofs.Wire.Lawful

/-!
# Round trips through wire forms

Every value that is exchanged is decoded from its wire form. So a wire form determines its value,
and what is decoded from any document, however it was written, is written in one way from then
on.

Markup contains JSON that nothing here looks into: the values of attributes and the properties of
components. It is passed on as it is. Where the members of all objects are sorted by key, those
inside such JSON are sorted too; a value that is decoded from a sorted wire form has the JSON
inside it in canonical form, and is otherwise the value that was written.
-/

namespace PlaneFigure

open Json (Arranges Decoder Record)

namespace Markup

mutual

/-- Markup with the JSON inside it in canonical form. -/
def canonical : Markup → Markup
  | element tag attributes children =>
    element tag (Json.canonicalMembers attributes) (canonicals children)
  | text content => text content
  | component name properties => component name properties.canonical

/-- Several pieces of markup with the JSON inside them in canonical form. -/
def canonicals : List Markup → List Markup
  | [] => []
  | child :: rest => child.canonical :: canonicals rest

end

/-- Attributes are decoded from their wire forms. -/
theorem list_attributeOf (attributes : List (String × Json)) :
    Decoder.list attributeOf (.array (attributes.map attributeJson)) = .ok attributes := by
  change (attributes.map attributeJson).mapM attributeOf = _
  rw [mapM_map_eq_ok attributeJson attributeOf id (fun _ => rfl), List.map_id]

/-- The canonical forms of attributes are those of the attributes with canonical values. -/
theorem canonicalItems_attributes (attributes : List (String × Json)) :
    Json.canonicalItems (attributes.map attributeJson) =
      (Json.canonicalMembers attributes).map attributeJson := by
  rw [Json.canonicalItems_eq_map, Json.canonicalMembers_eq_map, List.map_map, List.map_map]
  rfl

section Members

variable {listed : List (String × Json)} (distinct : (listed.map Prod.fst).Nodup)

include distinct

/-- Where no key is repeated, the children are those of the one member that holds them. -/
theorem childrenOf_of_mem (documents : List Json) (children : List Markup) (start : Nat)
    (member : ("children", .array documents) ∈ listed) (inner : ofJsons documents = .ok children) :
    childrenOf start listed = .ok children := by
  induction listed generalizing start with
  | nil => cases member
  | cons first rest inductionHypothesis =>
    obtain ⟨absent, restDistinct⟩ := List.nodup_cons.mp distinct
    obtain ⟨key, value⟩ := first
    rcases List.mem_cons.mp member with same | later
    · obtain ⟨rfl, rfl⟩ := Prod.mk.inj same
      rw [childrenOf, if_pos rfl, inner]
    · have different : key ≠ "children" := by
        rintro rfl
        exact absent (List.mem_map.mpr ⟨_, later, rfl⟩)
      unfold childrenOf
      rw [if_neg different]
      exact inductionHypothesis restDistinct (start + 1) later

/-- An element is decoded from the members that hold its parts, wherever they stand. -/
theorem ofJson_element (tag : String) (attributes : List (String × Json))
    (children : List Markup) (documents : List Json) (tagMember : ("tag", .string tag) ∈ listed)
    (attributesMember : ("attrs", .array (attributes.map attributeJson)) ∈ listed)
    (childrenMember : ("children", .array documents) ∈ listed)
    (inner : ofJsons documents = .ok children) :
    ofJson (.object [("element", .object listed)]) = .ok (element tag attributes children) := by
  have tagReads : (Record.required "tag" Decoder.string).Reads listed tag :=
    .field_of_mem none _ distinct tagMember rfl
  have attributesReads :
      (Record.required "attrs" (Decoder.list attributeOf)).Reads listed attributes :=
    .field_of_mem none _ distinct attributesMember (list_attributeOf attributes)
  have parts : elementParts.Reads listed (element tag attributes) :=
    (tagReads.map _).seq attributesReads
  rw [ofJson, parts, childrenOf_of_mem distinct documents children 0 childrenMember inner]
  rfl

/-- A component is decoded from the members that hold its parts, wherever they stand. -/
theorem ofJson_component (name : String) (properties : Json)
    (nameMember : ("name", .string name) ∈ listed)
    (propertiesMember : ("props", properties) ∈ listed) :
    ofJson (.object [("component", .object listed)]) = .ok (component name properties) := by
  have nameReads : (Record.required "name" Decoder.string).Reads listed name :=
    .field_of_mem none _ distinct nameMember rfl
  have propertiesReads : (Record.required "props" .ok).Reads listed properties :=
    .field_of_mem none _ distinct propertiesMember rfl
  have parts : componentParts.Reads listed (component name properties) :=
    (nameReads.map _).seq propertiesReads
  rw [ofJson, parts.ofMembers]

end Members

mutual

/-- Markup is decoded from its wire form. -/
theorem ofJson_toJson : (markup : Markup) → ofJson markup.toJson = .ok markup
  | element tag attributes children => by
    rw [toJson]
    apply ofJson_element (by simp) tag attributes children (toJsons children) (by simp) (by simp)
      (by simp)
    exact ofJsons_toJsons children
  | text _ => rfl
  | component name properties => by
    rw [toJson]
    exact ofJson_component (by simp) name properties (by simp) (by simp)

/-- Several pieces of markup are decoded from their wire forms. -/
theorem ofJsons_toJsons : (children : List Markup) → ofJsons (toJsons children) = .ok children
  | [] => rfl
  | child :: rest => by rw [toJsons, ofJsons, ofJson_toJson child, ofJsons_toJsons rest]

end

/-- In the canonical form of the wire form of an element its parts are sorted by key. -/
theorem canonical_element (tag : String) (attributes : List (String × Json))
    (children : List Markup) : (element tag attributes children).toJson.canonical =
      .object [("element", .object (Json.sortMembers (Json.canonicalMembers
        [("tag", .string tag), ("attrs", .array (attributes.map attributeJson)),
          ("children", .array (toJsons children))])))] := rfl

/-- In the canonical form of the wire form of a component its parts are sorted by key. -/
theorem canonical_component (name : String) (properties : Json) :
    (component name properties).toJson.canonical =
      .object [("component", .object (Json.sortMembers (Json.canonicalMembers
        [("name", .string name), ("props", properties)])))] := rfl

mutual

/-- From the canonical form of its wire form markup is decoded with the JSON inside it in
canonical form. -/
theorem ofJson_canonical : (markup : Markup) → ofJson markup.toJson.canonical = .ok markup.canonical
  | element tag attributes children => by
    rw [canonical_element]
    apply ofJson_element (Json.sorted_sortMembers _).distinct tag
      (Json.canonicalMembers attributes) (canonicals children)
      (Json.canonicalItems (toJsons children))
    · exact Json.mem_canonical_members "tag" (.string tag) _ (by simp) (by simp)
    · rw [← canonicalItems_attributes]
      exact Json.mem_canonical_members "attrs" (.array (attributes.map attributeJson)) _ (by simp)
        (by simp)
    · exact Json.mem_canonical_members "children" (.array (toJsons children)) _ (by simp)
        (by simp)
    · exact ofJsons_canonical children
  | text _ => rfl
  | component name properties => by
    rw [canonical_component]
    apply ofJson_component (Json.sorted_sortMembers _).distinct name properties.canonical
    · exact Json.mem_canonical_members "name" (.string name) _ (by simp) (by simp)
    · exact Json.mem_canonical_members "props" properties _ (by simp) (by simp)

/-- The same of several pieces of markup. -/
theorem ofJsons_canonical : (children : List Markup) →
    ofJsons (Json.canonicalItems (toJsons children)) = .ok (canonicals children)
  | [] => rfl
  | child :: rest => by
    rw [toJsons, Json.canonicalItems, ofJsons, ofJson_canonical child, ofJsons_canonical rest,
      canonicals]

end

mutual

/-- The JSON inside markup can be put into canonical form beforehand. -/
theorem canonical_toJson_canonical : (markup : Markup) →
    markup.canonical.toJson.canonical = markup.toJson.canonical
  | element tag attributes children => by
    have inner := canonicalItems_toJsons_canonicals children
    have outer : Json.canonicalItems ((Json.canonicalMembers attributes).map attributeJson) =
        Json.canonicalItems (attributes.map attributeJson) := by
      rw [canonicalItems_attributes, canonicalItems_attributes,
        Json.canonicalMembers_canonicalMembers]
    simp only [canonical, toJson, Json.canonical, Json.canonicalMembers, inner, outer]
  | text _ => rfl
  | component name properties => by
    simp only [canonical, toJson, Json.canonical, Json.canonicalMembers, Json.canonical_canonical]

/-- The same of several pieces of markup. -/
theorem canonicalItems_toJsons_canonicals : (children : List Markup) →
    Json.canonicalItems (toJsons (canonicals children)) = Json.canonicalItems (toJsons children)
  | [] => rfl
  | child :: rest => by
    rw [canonicals, toJsons, toJsons, Json.canonicalItems, Json.canonicalItems,
      canonical_toJson_canonical child, canonicalItems_toJsons_canonicals rest]

end

/-- Markup is never written as null. -/
theorem toJson_ne_null (markup : Markup) : markup.toJson ≠ .null := by
  cases markup <;> simp [toJson]

end Markup

/-- An answer with the JSON inside its markup in canonical form. -/
def Response.canonical (response : Response) : Response := ⟨response.markup.map Markup.canonical⟩

/-- A label with the JSON inside its markup in canonical form. -/
def Label.canonical (label : Label) : Label := { label with markup := label.markup.canonical }

/-- An answer is decoded from the object whose only member holds its markup. -/
theorem Response.decode_html (document : Json) (markup : Markup) (solid : document ≠ .null)
    (decodes : Markup.ofJson document = .ok markup) :
    Wire.decode (.object [("html", document)]) = .ok (Response.mk (some markup)) := by
  have markupReads : (Wire.optionalField Markup "html").Reads [("html", document)]
      (some markup) := by
    apply Record.Reads.field_of_mem (some none) document (by simp) (by simp)
    change Decoder.nullable Markup.ofJson document = _
    rw [Decoder.nullable_of_ne_null _ _ solid, decodes]
    rfl
  exact (markupReads.map Response.mk).decoder _

/-- A label is decoded from an arrangement of its members, with the markup that is found there. -/
theorem Label.decode_of_arranges (label : Label) (listed : List (String × Json))
    (arranges : Arranges listed (Wire.member "key" label.key ++ Wire.member "kind" label.kind ++
      Wire.member "label" label.markup))
    (document : Json) (markup : Markup) (member : ("label", document) ∈ listed)
    (decodes : Markup.ofJson document = .ok markup) :
    Wire.decode (.object listed) = .ok { label with markup } := by
  have keyReads := arranges.field "key" label.key none (by simp [Wire.member])
  have kindReads := arranges.field "kind" label.kind none (by simp [Wire.member])
  have markupReads : (Wire.field Markup "label").Reads listed markup :=
    .field_of_mem none document arranges.distinct member decodes
  exact (((keyReads.map _).seq kindReads).seq markupReads).decoder _

/-- What holds of wire forms that can be passed on and read back. Of a value that contains JSON it
is said what becomes of it where the members of all objects are sorted. -/
structure Wire.RoundTrips (α : Type) [Wire α] (canonical : α → α) : Prop where
  decode_encode : ∀ value : α, decode (encode value) = .ok value
  /-- Sorting the members of a wire form changes nothing but the JSON inside the value, -/
  decode_canonical : ∀ value : α, decode (encode value).canonical = .ok (canonical value)
  /-- and this JSON might as well have been sorted before. -/
  encode_canonical : ∀ value : α,
    (encode (canonical value)).canonical = (encode value).canonical
  encode_injective : ∀ value other : α, encode value = encode other → value = other
  /-- What is decoded from some document and encoded again stays as it is from then on. -/
  reencode : ∀ document form : Json, encode <$> (decode document : Except _ α) = .ok form →
    encode <$> (decode form : Except _ α) = .ok form
  /-- It also does if it is sorted each time. -/
  reencode_canonical : ∀ document form : Json,
    (fun value : α => (encode value).canonical) <$> decode document = .ok form →
      (fun value : α => (encode value).canonical) <$> decode form = .ok form

namespace Wire

variable {α : Type} [Wire α]

/-- All of it follows from what is decoded from wire forms and from their canonical forms. -/
theorem RoundTrips.of_decode (canonical : α → α)
    (decodes : ∀ value : α, decode (encode value) = .ok value)
    (decodesCanonical : ∀ value : α, decode (encode value).canonical = .ok (canonical value))
    (encodesCanonical : ∀ value : α,
      (encode (canonical value)).canonical = (encode value).canonical) :
    RoundTrips α canonical := by
  refine ⟨decodes, decodesCanonical, encodesCanonical, ?_, ?_, ?_⟩
  · intro value other same
    have decoded := decodes value
    rw [same, decodes other] at decoded
    exact (Except.ok.inj decoded).symm
  · intro document form encoded
    obtain ⟨value, _, rfl⟩ := (map_eq_ok_iff _ _ _).mp encoded
    rw [decodes value]
    rfl
  · intro document form encoded
    obtain ⟨value, _, rfl⟩ := (map_eq_ok_iff _ _ _).mp encoded
    rw [decodesCanonical value]
    exact congrArg Except.ok (encodesCanonical value)

/-- Lawful values contain no JSON. -/
theorem RoundTrips.of_lawful [Lawful α] : RoundTrips α id :=
  .of_decode id Lawful.decode_encode Lawful.decode_canonical fun _ => rfl

end Wire

/-- The wire forms of markup can be passed on and read back. -/
theorem Markup.roundTrips : Wire.RoundTrips Markup Markup.canonical :=
  .of_decode _ Markup.ofJson_toJson Markup.ofJson_canonical Markup.canonical_toJson_canonical

/-- The wire forms of answers can be passed on and read back. -/
theorem Response.roundTrips : Wire.RoundTrips Response Response.canonical := by
  apply Wire.RoundTrips.of_decode
  · rintro ⟨_ | markup⟩
    · rfl
    · exact Response.decode_html _ markup markup.toJson_ne_null markup.ofJson_toJson
  · rintro ⟨_ | markup⟩
    · rfl
    · exact Response.decode_html _ markup.canonical
        (Json.canonical_ne_null _ markup.toJson_ne_null) markup.ofJson_canonical
  · rintro ⟨_ | markup⟩
    · rfl
    · exact congrArg (fun document => Json.object [("html", document)])
        markup.canonical_toJson_canonical

/-- The wire forms of labels can be passed on and read back. -/
theorem Label.roundTrips : Wire.RoundTrips Label Label.canonical := by
  have distinct : ∀ label : Label, ((Wire.member "key" label.key ++
      Wire.member "kind" label.kind ++ Wire.member "label" label.markup).map Prod.fst).Nodup := by
    simp [Wire.member]
  apply Wire.RoundTrips.of_decode
  · intro label
    exact label.decode_of_arranges _ (.refl _ (distinct label)) label.markup.toJson label.markup
      (by simp [Wire.member, Wire.encode]) label.markup.ofJson_toJson
  · intro label
    apply label.decode_of_arranges _ (.canonical _ (distinct label))
      label.markup.toJson.canonical label.markup.canonical
    · exact Json.mem_canonical_members "label" label.markup.toJson _ (distinct label)
        (by simp [Wire.member, Wire.encode])
    · exact label.markup.ofJson_canonical
  · intro label
    have inner := label.markup.canonical_toJson_canonical
    simp only [Wire.encode, Wire.member, canonical, List.cons_append, List.nil_append,
      Json.canonical, Json.canonicalMembers, inner]

/-- The wire forms of all types of values that are exchanged or kept in files can be passed on
and read back: terms; kinds, shapes, facts, lines and programs; objects; hypotheses, lists of
them, and goals; locations, with and without a goal; requests and answers; markup and labels;
cursors and the properties of panels; hypotheses and goals as they are kept in files; and
settings. -/
theorem wire_forms_round_trip :
    Wire.RoundTrips Term id ∧ Wire.RoundTrips Kind id ∧ Wire.RoundTrips Shape id ∧
    Wire.RoundTrips (Fact String) id ∧ Wire.RoundTrips Line id ∧ Wire.RoundTrips Program id ∧
    Wire.RoundTrips Entity id ∧ Wire.RoundTrips Hypothesis id ∧
    Wire.RoundTrips (List Hypothesis) id ∧ Wire.RoundTrips Goal id ∧
    Wire.RoundTrips Location id ∧ Wire.RoundTrips GoalLocation id ∧
    Wire.RoundTrips Request id ∧ Wire.RoundTrips Response Response.canonical ∧
    Wire.RoundTrips Markup Markup.canonical ∧ Wire.RoundTrips Label Label.canonical ∧
    Wire.RoundTrips Cursor id ∧ Wire.RoundTrips Panel.Props id ∧
    Wire.RoundTrips HypothesisFixture id ∧ Wire.RoundTrips GoalFixture id ∧
    Wire.RoundTrips Settings id :=
  ⟨.of_lawful, .of_lawful, .of_lawful, .of_lawful, .of_lawful, .of_lawful, .of_lawful,
    .of_lawful, .of_lawful, .of_lawful, .of_lawful, .of_lawful, .of_lawful,
    Response.roundTrips, Markup.roundTrips, Label.roundTrips, .of_lawful, .of_lawful,
    .of_lawful, .of_lawful, .of_lawful⟩

end PlaneFigure
