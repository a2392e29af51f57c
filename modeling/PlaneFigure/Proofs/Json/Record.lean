import PlaneFigure.Proofs.Json.Fields
import PlaneFigure.Proofs.Json.Members

/-!
# Reading a record from its members

Where no key is repeated, the order of the members of an object does not matter to a record:
each of its fields looks for its own key and finds the one value that stands there. A record
reads a value from members if all its fields find what the value is put together from.

Sorting the members of an object by key rearranges them, as long as no key is repeated, and the
canonical form of a value does so inside each of its members as well. An arrangement of given
members is such a list: the same keys in some order, each with its value as it was or in
canonical form. What a record reads from every arrangement of some members it reads from the
object with these members and from its canonical form.
-/

namespace PlaneFigure.Json

variable {α β : Type}

/-- The same keys in some order, each with its value as it was or in canonical form. -/
structure Arranges (listed members : List (String × Json)) : Prop where
  distinct : (listed.map Prod.fst).Nodup
  keys : ∀ key, key ∈ listed.map Prod.fst ↔ key ∈ members.map Prod.fst
  values : ∀ key value, (key, value) ∈ members →
    (key, value) ∈ listed ∨ (key, value.canonical) ∈ listed

/-- Members without a repeated key arrange themselves. -/
theorem Arranges.refl (members : List (String × Json)) (distinct : (members.map Prod.fst).Nodup) :
    Arranges members members :=
  ⟨distinct, fun _ => Iff.rfl, fun _ _ member => .inl member⟩

/-- The members of the canonical form of an object arrange its members. -/
theorem Arranges.canonical (members : List (String × Json))
    (distinct : (members.map Prod.fst).Nodup) :
    Arranges (sortMembers (canonicalMembers members)) members := by
  have keys : ((sortMembers (canonicalMembers members)).map Prod.fst).Perm
      (members.map Prod.fst) := by
    have sorted := (canonical_members_perm members distinct).map Prod.fst
    rw [List.map_map] at sorted
    exact sorted
  refine ⟨keys.nodup_iff.mpr distinct, fun key => keys.mem_iff, ?_⟩
  intro key value member
  exact .inr (mem_canonical_members key value members distinct member)

namespace Record

/-- A record reads a value from members, whatever it would say about a missing field. -/
def Reads (record : Record Json α) (members : List (String × Json)) (value : α) : Prop :=
  ∀ missing, record.read missing members = .ok value

section Reads

variable {members : List (String × Json)}

/-- A constant is read from any members. -/
theorem Reads.pure (value : α) : Reads (pure value) members value := fun _ => rfl

/-- What is read is put into a function. -/
theorem Reads.map (function : α → β) {record : Record Json α} {value : α}
    (reads : record.Reads members value) :
    Reads (function <$> record) members (function value) := fun missing =>
  (read_map_eq_ok_iff function record missing members _).mpr ⟨value, reads missing, rfl⟩

/-- Two parts are read from the same members. -/
theorem Reads.seq {first : Record Json (α → β)} {second : Record Json α} {function : α → β}
    {value : α} (firstReads : first.Reads members function)
    (secondReads : second.Reads members value) :
    Reads (first <*> second) members (function value) := fun missing =>
  (read_seq_eq_ok_iff first second missing members _).mpr
    ⟨function, value, firstReads missing, secondReads missing, rfl⟩

/-- A field is read from the one member with its name. -/
theorem Reads.field_of_mem {name : String} {decoder : Decoder Json α} {value : α}
    (absent : Option α) (document : Json) (distinct : (members.map Prod.fst).Nodup)
    (member : (name, document) ∈ members) (decodes : decoder document = .ok value) :
    Reads (field name decoder absent) members value := by
  intro missing
  have single := documents_of_mem name document members distinct member
  exact (read_field_eq_ok_iff name decoder absent missing members value).mpr
    (.inr ⟨document, single, decodes⟩)

/-- A field with a default is read where no member has its name. -/
theorem Reads.field_of_not_mem {name : String} {decoder : Decoder Json α} (value : α)
    (absent : name ∉ members.map Prod.fst) :
    Reads (field name decoder (some value)) members value := by
  intro missing
  have nothing := documents_of_not_mem name members absent
  exact (read_field_eq_ok_iff name decoder (some value) missing members value).mpr
    (.inl ⟨nothing, rfl⟩)

/-- What is read from the members of an object is decoded, since every part of a value can be passed
over. -/
theorem Reads.ofMembers {record : Record Json α} {value : α} (reads : record.Reads members value) :
    record.ofMembers members = .ok value :=
  (ofMembers_eq_ok_iff record members value).mpr ⟨reads _, fun _ _ _ => rfl⟩

/-- What is read from the members of an object is decoded from the object. -/
theorem Reads.decoder {record : Record Json α} {value : α} (name : String)
    (reads : record.Reads members value) : record.decoder name (.object members) = .ok value :=
  reads.ofMembers

end Reads

end Record

end PlaneFigure.Json
