import PlaneFigure.Json.Record
import PlaneFigure.Proofs.Outcome

/-!
# When decoding succeeds

A record is decoded from an object exactly if each of its fields is decoded from the documents
under its own name, and all documents under other names can be passed over. The fields are
decoded independently of each other: of several faults one is reported, but that there is no
fault does not depend on where the members stand. In a text, a string and an unsigned integer
are written in one way only as far as decoding is concerned.
-/

namespace PlaneFigure

namespace Json

variable {δ α β : Type}

namespace Record

/-- The documents under a key, in their order. -/
def documents (name : String) (members : List (String × δ)) : List δ :=
  (members.filter fun member => member.1 = name).map Prod.snd

/-- The occurrences of a key are the documents under it. -/
theorem map_snd_occurrences (name : String) (place : Nat) (members : List (String × δ)) :
    (occurrences name place members).map Prod.snd = documents name members := by
  induction members generalizing place with
  | nil => rfl
  | cons member rest inductionHypothesis =>
    by_cases same : member.1 = name <;>
      simp [occurrences, documents, same, inductionHypothesis (place + 1)]

/-- There are no documents under a key that no member has. -/
theorem documents_of_not_mem (name : String) (members : List (String × δ))
    (absent : name ∉ members.map Prod.fst) : documents name members = [] := by
  rw [documents, List.map_eq_nil_iff, List.filter_eq_nil_iff]
  intro member among same
  exact absent (List.mem_map.mpr ⟨member, among, of_decide_eq_true same⟩)

/-- Where no key is repeated, there is one document under the key of a member. -/
theorem documents_of_mem (name : String) (value : δ) (members : List (String × δ))
    (distinct : (members.map Prod.fst).Nodup) (member : (name, value) ∈ members) :
    documents name members = [value] := by
  induction members with
  | nil => cases member
  | cons first rest inductionHypothesis =>
    obtain ⟨absent, restDistinct⟩ := List.nodup_cons.mp distinct
    rcases List.mem_cons.mp member with rfl | later
    · have nothing := documents_of_not_mem name rest absent
      simpa [documents] using nothing
    · have different : first.1 ≠ name := by
        intro same
        exact absent (List.mem_map.mpr ⟨_, later, same.symm⟩)
      simpa [documents, different] using inductionHypothesis restDistinct later

/-- A description that is mapped reads what it is mapped from. -/
theorem read_map_eq_ok_iff (function : α → β) (record : Record δ α)
    (missing : String → DecodeError) (members : List (String × δ)) (value : β) :
    (function <$> record).read missing members = .ok value ↔
      ∃ given, record.read missing members = .ok given ∧ function given = value := by
  change both (.ok function) (record.read missing members) = _ ↔ _
  cases record.read missing members <;> simp [both]

/-- Two descriptions are read independently of each other. -/
theorem read_seq_eq_ok_iff (first : Record δ (α → β)) (second : Record δ α)
    (missing : String → DecodeError) (members : List (String × δ)) (value : β) :
    (first <*> second).read missing members = .ok value ↔
      ∃ function given, first.read missing members = .ok function ∧
        second.read missing members = .ok given ∧ function given = value := by
  change both (first.read missing members) (second.read missing members) = _ ↔ _
  cases first.read missing members <;> cases second.read missing members <;> simp [both]

/-- A field reads the one document under its name, or has its default if there is none. -/
theorem read_field_eq_ok_iff (name : String) (decoder : Decoder δ α) (absent : Option α)
    (missing : String → DecodeError) (members : List (String × δ)) (value : α) :
    (field name decoder absent).read missing members = .ok value ↔
      (documents name members = [] ∧ absent = some value) ∨
        ∃ document, documents name members = [document] ∧ decoder document = .ok value := by
  rw [← map_snd_occurrences name 0]
  rcases found : occurrences name 0 members with _ | ⟨⟨place, document⟩, further⟩
  · cases absent <;> simp [field, found]
  · cases decodes : decoder document <;> cases further <;> simp [field, found, decodes]

/-- Nothing is in the way if every other document can be passed over. -/
theorem obstacle?_eq_none_iff [Document δ] (names : List String) (place : Nat)
    (members : List (String × δ)) :
    obstacle? names place members = none ↔
      ∀ member ∈ members, member.1 ∉ names → Document.passable member.2 = true := by
  induction members generalizing place with
  | nil => simp [obstacle?]
  | cons member rest inductionHypothesis =>
    rw [List.forall_mem_cons, ← inductionHypothesis (place + 1), obstacle?]
    by_cases known : member.1 ∈ names <;>
      cases Document.passable member.2 <;> simp [known]

/-- A record is decoded from the members of an object if it is read from them and nothing is in the
way. -/
theorem ofMembers_eq_ok_iff [Document δ] (record : Record δ α) (members : List (String × δ))
    (value : α) :
    record.ofMembers members = .ok value ↔
      record.read .missingField members = .ok value ∧
        ∀ member ∈ members, member.1 ∉ record.names → Document.passable member.2 = true := by
  rw [← obstacle?_eq_none_iff record.names 0, ofMembers]
  cases record.read .missingField members <;> cases obstacle? record.names 0 members <;> simp

end Record

/-- Texts are decoded as a whole. -/
theorem decodeText_eq_ok_iff (decoder : Decoder Draft α) (text : String) (value : α) :
    decodeText decoder text = .ok value ↔
      ∃ draft, Draft.ofText text = (draft, true) ∧ decoder draft = .ok value := by
  rcases read : Draft.ofText text with ⟨draft, whole⟩
  rcases decodes : decoder draft with fault | found
  · cases fault <;> simp [decodeText, read, decodes]
  · cases whole <;> simp [decodeText, read, decodes]

/-- The draft of an object all of whose keys can be read. -/
def Draft.ofMembers (members : List (String × Draft)) : Draft :=
  .object (members.map fun member => (some member.1, member.2))

/-- Keys that can be read are seen as they are. -/
theorem Draft.view_ofMembers (members : List (String × Draft)) :
    Document.view (Draft.ofMembers members) = .object members := by
  have seen : Draft.member ∘ (fun member => (some member.1, member.2)) = id := rfl
  simp [Document.view, ofMembers, seen]

namespace Decoder

/-- In a text a string is decoded from itself only. -/
theorem string_eq_ok_iff (draft : Draft) (value : String) :
    string draft = .ok value ↔ draft = .string (some value) := by
  rcases draft with _ | _ | (_ | _) | (_ | _) | _ | _ | _ <;> simp [string, Document.view]

/-- In a text an unsigned integer is decoded from itself only. -/
theorem word32_eq_ok_iff (draft : Draft) (value : UInt32) :
    word32 draft = .ok value ↔ draft = .number (some (.integer value.toNat)) := by
  have exact (number : Int) (bounds : 0 ≤ number ∧ number < UInt32.size) :
      UInt32.ofNat number.toNat = value ↔ number = value.toNat := by
    have small : number.toNat < 4294967296 := by
      have upper : number < 4294967296 := bounds.2
      omega
    rw [← UInt32.toNat_inj, UInt32.toNat_ofNat_of_lt' small]
    omega
  have within : (value.toNat : Int) < UInt32.size := Int.ofNat_lt.mpr value.toNat_lt_size
  rcases draft with _ | _ | (_ | (number | _)) | (_ | _) | _ | _ | _ <;>
    simp only [word32, Document.view, reduceCtorEq, Draft.number.injEq, Option.some.injEq,
      Number.integer.injEq]
  split
  · rename_i bounds
    rw [Except.ok.injEq, exact number bounds]
  · rename_i outside
    simp only [reduceCtorEq, false_iff]
    rintro rfl
    exact outside ⟨Int.natCast_nonneg _, within⟩

end Decoder

end Json

end PlaneFigure
