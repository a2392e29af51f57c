import Mathlib.Data.List.Nodup
import Mathlib.Data.List.TakeWhile
import PlaneFigure.Goal.Fixture
import PlaneFigure.Proofs.Outcome

/-!
# The goals of a folder

Every entry of a folder makes a contribution of its own: the fixture that it holds, if its name
has the right extension and the fixture is usable, and otherwise nothing. A folder contributes
what its entries do, in the order of their names.

The system lists the entries in whatever order it likes. Entries of one folder have different
names, so there is only one way to sort them, and the order in which they were listed is lost.
An entry that is added has its place between those with smaller and those with larger names,
whatever it holds; the contributions of the others stay what they are.
-/

namespace PlaneFigure

namespace FileName

/-- What follows the last dot of a name is its extension, if something is in front of this dot.
There is no dot behind the last one. -/
theorem extension?_eq_some_iff (name : FileName) (ending : List UInt8) :
    name.extension? = some ending ↔
      dot ∉ ending ∧ ∃ stem, stem ≠ [] ∧ name.bytes = stem ++ dot :: ending := by
  constructor
  · intro found
    have split := List.takeWhile_append_dropWhile (p := (· != dot)) (l := name.bytes.reverse)
    have stopped := List.head?_dropWhile_not (· != dot) name.bytes.reverse
    unfold extension? at found
    cases rest : name.bytes.reverse.dropWhile (· != dot) with
    | nil => simp [rest] at found
    | cons mark stem =>
      simp only [rest, List.isEmpty_iff, Option.ite_none_left_eq_some, Option.some.injEq] at found
      obtain ⟨inhabited, rfl⟩ := found
      obtain rfl : mark = dot := by simpa [rest] using stopped
      refine ⟨?_, stem.reverse, by simpa using inhabited, ?_⟩
      · intro member
        have other := List.mem_takeWhile_imp (List.mem_reverse.mp member)
        simp at other
      · rw [rest] at split
        have forwards := congrArg List.reverse split
        simpa using forwards.symm
  · rintro ⟨apart, stem, inhabited, bytes⟩
    have backwards : name.bytes.reverse = ending.reverse ++ dot :: stem.reverse := by
      simp [bytes]
    have passed : ∀ byte ∈ ending.reverse, (byte != dot) = true := by
      intro byte member
      rw [bne_iff_ne]
      rintro rfl
      exact apart (List.mem_reverse.mp member)
    have stopped : (dot != dot) = false := by simp
    simp only [extension?, backwards]
    rw [List.dropWhile_append_of_pos passed, List.takeWhile_append_of_pos passed]
    simp [inhabited]

/-- One of two names is not larger than the other. -/
theorem le_total (name other : FileName) : name ≤ other ∨ other ≤ name :=
  List.le_total name.bytes other.bytes

/-- The order of names is transitive. -/
theorem le_trans (name other third : FileName) (first : name ≤ other) (second : other ≤ third) :
    name ≤ third := by
  have bytes : name.bytes ≤ third.bytes := List.le_trans first second
  exact bytes

/-- Names of which neither is larger are the same. -/
theorem le_antisymm (name other : FileName) (first : name ≤ other) (second : other ≤ name) :
    name = other := by
  have bytes : name.bytes = other.bytes := List.le_antisymm first second
  cases name
  cases other
  exact congrArg FileName.mk bytes

/-- A name that is not larger is smaller, if it is not the same. -/
theorem lt_of_le_of_ne (name other : FileName) (notLarger : name ≤ other)
    (different : name ≠ other) : name < other := by
  by_contra notSmaller
  exact different (le_antisymm name other notLarger (List.not_lt.mp notSmaller))

end FileName

namespace GoalFixture

/-- A fixture that is loaded is usable. -/
theorem goal_of_ofFile (entry : Option Entry) (fixture : GoalFixture) (goal : Goal)
    (loaded : ofFile entry = .ok (fixture, goal)) : fixture.goal = .ok goal := by
  unfold ofFile at loaded
  split at loaded
  · rw [ofText, bind_eq_ok_iff] at loaded
    obtain ⟨decoded, _, rest⟩ := loaded
    rw [bind_eq_ok_iff] at rest
    obtain ⟨found, usable, returned⟩ := rest
    obtain ⟨rfl, rfl⟩ := Prod.mk.inj (Except.ok.inj returned)
    exact usable
  · cases loaded

/-- What an entry contributes to its folder: its fixture with the goal, if it has one. -/
def contribution (entry : FileName × Entry) : Option (GoalFixture × Goal) :=
  if isFixtureName entry.1 then (ofFile (some entry.2)).toOption else none

/-- An entry contributes the fixture that is loaded from it, if it has the right extension. -/
theorem contribution_eq_some_iff (entry : FileName × Entry) (loaded : GoalFixture × Goal) :
    contribution entry = some loaded ↔
      entry.1.extension? = some fixtureExtension ∧ ofFile (some entry.2) = .ok loaded := by
  rw [contribution, Option.ite_none_right_eq_some, isFixtureName, decide_eq_true_eq]
  cases ofFile (some entry.2) <;> simp [Except.toOption]

/-- Sorting keeps all entries. -/
theorem sortByName_perm (entries : List (FileName × Entry)) :
    (sortByName entries).Perm entries :=
  List.mergeSort_perm entries _

/-- Sorted entries have ascending names. -/
theorem sortByName_ordered (entries : List (FileName × Entry)) :
    (sortByName entries).Pairwise fun entry other => entry.1 ≤ other.1 := by
  have transitive : ∀ entry other third : FileName × Entry, decide (entry.1 ≤ other.1) = true →
      decide (other.1 ≤ third.1) = true → decide (entry.1 ≤ third.1) = true := by
    intro entry other third first second
    rw [decide_eq_true_eq] at first second ⊢
    exact FileName.le_trans entry.1 other.1 third.1 first second
  have total : ∀ entry other : FileName × Entry,
      (decide (entry.1 ≤ other.1) || decide (other.1 ≤ entry.1)) = true := by
    intro entry other
    rw [Bool.or_eq_true, decide_eq_true_eq, decide_eq_true_eq]
    exact FileName.le_total entry.1 other.1
  exact (List.pairwise_mergeSort transitive total entries).imp of_decide_eq_true

/-- Entries with different names can be sorted in one way only. -/
theorem eq_sortByName (entries sorted : List (FileName × Entry))
    (distinct : (entries.map Prod.fst).Nodup) (same : sorted.Perm entries)
    (ordered : sorted.Pairwise fun entry other => entry.1 ≤ other.1) :
    sorted = sortByName entries := by
  have permuted := sortByName_perm entries
  refine List.Perm.eq_of_pairwise ?_ ordered (sortByName_ordered entries)
    (same.trans permuted.symm)
  intro entry other inSorted inEntries first second
  exact List.inj_on_of_nodup_map distinct (same.mem_iff.mp inSorted)
    (permuted.mem_iff.mp inEntries) (FileName.le_antisymm entry.1 other.1 first second)

/-- Entries can be picked out before or after they are sorted. -/
theorem sortByName_filter (keep : FileName × Entry → Bool) (entries : List (FileName × Entry))
    (distinct : (entries.map Prod.fst).Nodup) :
    sortByName (entries.filter keep) = (sortByName entries).filter keep := by
  symm
  apply eq_sortByName
  · exact distinct.sublist (List.filter_sublist.map Prod.fst)
  · exact (sortByName_perm entries).filter keep
  · exact (sortByName_ordered entries).filter keep

/-- The names of sorted entries are strictly ascending, if they are different. -/
theorem sortByName_ascending (entries : List (FileName × Entry))
    (distinct : (entries.map Prod.fst).Nodup) :
    (sortByName entries).Pairwise fun entry other => entry.1 < other.1 := by
  have different : (sortByName entries).Pairwise fun entry other => entry.1 ≠ other.1 := by
    rw [← List.pairwise_map]
    exact ((sortByName_perm entries).map Prod.fst).nodup_iff.mpr distinct
  exact (sortByName_ordered entries).imp₂
    (fun entry other => FileName.lt_of_le_of_ne entry.1 other.1) different

/-- A folder contributes what its entries do, in the order of their names. -/
theorem ofFolder_eq (entries : List (FileName × Entry))
    (distinct : (entries.map Prod.fst).Nodup) :
    ofFolder (some (.folder entries)) = .ok ((sortByName entries).filterMap contribution) := by
  have picked := sortByName_filter (fun entry => isFixtureName entry.1) entries distinct
  simp only [ofFolder, Option.bind_some, Entry.entries?, picked, List.filterMap_filter]
  rfl

/-- The contributions of a folder with the names of the entries that they come from. -/
def contributions (entries : List (FileName × Entry)) :
    List (FileName × GoalFixture × Goal) :=
  (sortByName entries).filterMap fun entry => (contribution entry).map (entry.1, ·)

/-- Without the names, the contributions are what is loaded from the folder. -/
theorem ofFolder_eq_contributions (entries : List (FileName × Entry))
    (distinct : (entries.map Prod.fst).Nodup) :
    ofFolder (some (.folder entries)) = .ok ((contributions entries).map Prod.snd) := by
  rw [ofFolder_eq entries distinct, contributions, List.map_filterMap]
  simp only [Option.map_map, Function.comp_def, Option.map_id']

/-- The contributions have strictly ascending names. -/
theorem contributions_ascending (entries : List (FileName × Entry))
    (distinct : (entries.map Prod.fst).Nodup) :
    (contributions entries).Pairwise fun earlier later => earlier.1 < later.1 := by
  refine (sortByName_ascending entries distinct).filterMap _ ?_
  intro entry other smaller named found otherNamed otherFound
  obtain ⟨_, _, rfl⟩ := Option.map_eq_some_iff.mp found
  obtain ⟨_, _, rfl⟩ := Option.map_eq_some_iff.mp otherFound
  exact smaller

/-- The contributions are those of the entries from which a fixture is loaded. -/
theorem mem_contributions_iff (entries : List (FileName × Entry)) (name : FileName)
    (loaded : GoalFixture × Goal) :
    (name, loaded) ∈ contributions entries ↔
      name.extension? = some fixtureExtension ∧
        ∃ entry, (name, entry) ∈ entries ∧ ofFile (some entry) = .ok loaded := by
  simp only [contributions, List.mem_filterMap, (sortByName_perm entries).mem_iff,
    Option.map_eq_some_iff, contribution_eq_some_iff]
  constructor
  · rintro ⟨⟨_, entry⟩, member, _, ⟨suited, loads⟩, same⟩
    obtain ⟨rfl, rfl⟩ := Prod.mk.inj same
    exact ⟨suited, entry, member, loads⟩
  · rintro ⟨suited, entry, member, loads⟩
    exact ⟨(name, entry), member, loaded, ⟨suited, loads⟩, rfl⟩

/-- The order in which entries are listed does not matter. -/
theorem ofFolder_of_perm (entries listing : List (FileName × Entry))
    (distinct : (entries.map Prod.fst).Nodup) (listed : listing.Perm entries) :
    ofFolder (some (.folder listing)) = ofFolder (some (.folder entries)) := by
  have listedOnce := (listed.map Prod.fst).nodup_iff.mpr distinct
  rw [ofFolder_eq listing listedOnce, ofFolder_eq entries distinct,
    eq_sortByName entries (sortByName listing) distinct
      ((sortByName_perm listing).trans listed) (sortByName_ordered listing)]

/-- An entry stands in order behind those with names that are not larger and in front of the
others, if these were in order. -/
theorem ordered_around (entry : FileName × Entry) (entries : List (FileName × Entry))
    (ordered : entries.Pairwise fun other third => other.1 ≤ third.1) :
    (entries.filter (fun other => other.1 ≤ entry.1) ++
        entry :: entries.filter fun other => !decide (other.1 ≤ entry.1)).Pairwise
      fun other third => other.1 ≤ third.1 := by
  have below : ∀ other ∈ entries.filter (fun other => other.1 ≤ entry.1), other.1 ≤ entry.1 := by
    intro other member
    simpa using (List.mem_filter.mp member).2
  have above : ∀ other ∈ entries.filter (fun other => !decide (other.1 ≤ entry.1)),
      entry.1 ≤ other.1 := by
    intro other member
    have notBelow : ¬ other.1 ≤ entry.1 := by simpa using (List.mem_filter.mp member).2
    exact (FileName.le_total entry.1 other.1).resolve_right notBelow
  refine List.pairwise_append.mpr ⟨ordered.filter _, .cons above (ordered.filter _), ?_⟩
  intro other smaller third member
  rcases List.mem_cons.mp member with rfl | larger
  · exact below other smaller
  · exact FileName.le_trans other.1 entry.1 third.1 (below other smaller) (above third larger)

/-- Entries with different names and one more with a new name have different names, in whatever
order they are listed. -/
theorem distinct_of_listed (name : FileName) (entry : Entry)
    (entries listing : List (FileName × Entry)) (distinct : (entries.map Prod.fst).Nodup)
    (fresh : name ∉ entries.map Prod.fst) (listed : listing.Perm ((name, entry) :: entries)) :
    (listing.map Prod.fst).Nodup :=
  (listed.map Prod.fst).nodup_iff.mpr (List.nodup_cons.mpr ⟨fresh, distinct⟩)

/-- An entry with a new name has its place behind the entries with smaller names and in front of
those with larger ones. Neither these nor the place depend on what the entry is. -/
theorem sortByName_split (name : FileName) (entries : List (FileName × Entry))
    (distinct : (entries.map Prod.fst).Nodup) (fresh : name ∉ entries.map Prod.fst) :
    ∃ smaller larger, sortByName entries = smaller ++ larger ∧
      ∀ entry listing, listing.Perm ((name, entry) :: entries) →
        sortByName listing = smaller ++ (name, entry) :: larger := by
  have parts := (List.filter_append_perm (fun other => decide (other.1 ≤ name))
    (sortByName entries)).trans (sortByName_perm entries)
  have ordered := fun entry =>
    ordered_around (name, entry) (sortByName entries) (sortByName_ordered entries)
  refine ⟨(sortByName entries).filter fun other => other.1 ≤ name,
    (sortByName entries).filter fun other => !decide (other.1 ≤ name), ?_, ?_⟩
  · symm
    apply eq_sortByName entries _ distinct parts
    exact (ordered (.folder [])).sublist
      ((List.Sublist.refl _).append (List.sublist_cons_self _ _))
  · intro entry listing listed
    symm
    apply eq_sortByName listing _
      (distinct_of_listed name entry entries listing distinct fresh listed) ?_ (ordered entry)
    exact (List.perm_middle.trans (parts.cons _)).trans listed.symm

/-- An entry with a new name adds its contribution between those of the entries with smaller and
with larger names. -/
theorem ofFolder_insert (name : FileName) (entries : List (FileName × Entry))
    (distinct : (entries.map Prod.fst).Nodup) (fresh : name ∉ entries.map Prod.fst) :
    ∃ before after, ofFolder (some (.folder entries)) = .ok (before ++ after) ∧
      ∀ entry listing, listing.Perm ((name, entry) :: entries) →
        ofFolder (some (.folder listing)) =
          .ok (before ++ ((contribution (name, entry)).toList ++ after)) := by
  obtain ⟨smaller, larger, split, place⟩ := sortByName_split name entries distinct fresh
  refine ⟨smaller.filterMap contribution, larger.filterMap contribution, ?_, ?_⟩
  · rw [ofFolder_eq entries distinct, split, List.filterMap_append]
  · intro entry listing listed
    rw [ofFolder_eq listing (distinct_of_listed name entry entries listing distinct fresh listed),
      place entry listing listed, List.filterMap_append, List.filterMap_cons]
    cases contribution (name, entry) <;> rfl

/-- A folder whose entries have different names is always read. It contributes, in the order of
their names, the fixtures of the entries whose name ends in the right extension, with something
in front of it, and from which a fixture is loaded; every one has the goal that it comes with.
The order in which the entries are listed does not matter. Of what a folder contributes, an entry
with a new name only adds its own contribution at a fixed place, whatever it is and wherever it
is listed, so it can be removed or replaced without consequences for the others. -/
theorem ofFolder_by_entries (entries : List (FileName × Entry))
    (distinct : (entries.map Prod.fst).Nodup) :
    (∃ named : List (FileName × GoalFixture × Goal),
      ofFolder (some (.folder entries)) = .ok (named.map Prod.snd) ∧
      named.Pairwise (fun earlier later => earlier.1 < later.1) ∧
      ∀ name fixture goal, (name, fixture, goal) ∈ named ↔
        (∃ stem, stem ≠ [] ∧ name.bytes = stem ++ FileName.dot :: fixtureExtension) ∧
        ∃ entry, (name, entry) ∈ entries ∧ ofFile (some entry) = .ok (fixture, goal)) ∧
    (∀ loaded, ofFolder (some (.folder entries)) = .ok loaded →
      ∀ fixture goal, (fixture, goal) ∈ loaded → fixture.goal = .ok goal) ∧
    (∀ listing, listing.Perm entries →
      ofFolder (some (.folder listing)) = ofFolder (some (.folder entries))) ∧
    ∀ name, name ∉ entries.map Prod.fst → ∃ before after,
      ofFolder (some (.folder entries)) = .ok (before ++ after) ∧
      ∀ entry listing, listing.Perm ((name, entry) :: entries) →
        ofFolder (some (.folder listing)) =
          .ok (before ++ ((contribution (name, entry)).toList ++ after)) := by
  refine ⟨⟨contributions entries, ofFolder_eq_contributions entries distinct,
    contributions_ascending entries distinct, ?_⟩, ?_,
    fun listing listed => ofFolder_of_perm entries listing distinct listed,
    fun name fresh => ofFolder_insert name entries distinct fresh⟩
  · intro name fixture goal
    have noDot : FileName.dot ∉ fixtureExtension := by decide
    rw [mem_contributions_iff, FileName.extension?_eq_some_iff, and_iff_right noDot]
  · intro loaded succeeds fixture goal member
    rw [ofFolder_eq entries distinct] at succeeds
    obtain rfl := Except.ok.inj succeeds
    obtain ⟨entry, _, contributes⟩ := List.mem_filterMap.mp member
    exact goal_of_ofFile _ fixture goal ((contribution_eq_some_iff entry _).mp contributes).2

/-- The name that is spelled by ASCII characters. -/
def spelled (text : String) : FileName := ⟨text.toList.map Char.toUInt8⟩

/-- A file with a goal without hypotheses. -/
def smallFile : Entry := .file r#"{"id": "g", "hypotheses": []}"#.toUTF8

/-- A folder with a usable file, one whose name has no extension, one that is no text, and a
folder with the name of a file. -/
def mixed : List (FileName × Entry) :=
  [(spelled "c.json", .folder []), (spelled "b.x.json", smallFile), (spelled ".json", smallFile),
    (spelled "a.json", .file ⟨#[255]⟩)]

/-- The usable file is found behind one that is no text, in any order of the entries, and one
more that is no text makes no difference. -/
theorem ofFolder_by_entries_mixed :
    (∃ loaded, ofFolder (some (.folder mixed)) = .ok loaded ∧
      (⟨"g", "", [], none⟩, ⟨⟨"g"⟩, [], none⟩) ∈ loaded ∧
      GoalFixture.goal ⟨"g", "", [], none⟩ = .ok ⟨⟨"g"⟩, [], none⟩) ∧
    ofFolder (some (.folder mixed.reverse)) = ofFolder (some (.folder mixed)) ∧
    ofFolder (some (.folder ((spelled "0.json", .file ⟨#[255]⟩) :: mixed))) =
      ofFolder (some (.folder mixed)) := by
  have distinct : (mixed.map Prod.fst).Nodup := by decide
  obtain ⟨⟨named, succeeds, _, exactly⟩, usable, reordered, separate⟩ :=
    ofFolder_by_entries mixed distinct
  obtain ⟨before, after, without, inserted⟩ := separate (spelled "0.json") (by decide)
  have loads : ofFile (some smallFile) = .ok (⟨"g", "", [], none⟩, ⟨⟨"g"⟩, [], none⟩) := rfl
  have among := (exactly (spelled "b.x.json") _ _).mpr
    ⟨⟨(spelled "b.x").bytes, by decide, by decide⟩, smallFile, by simp [mixed], loads⟩
  have member := List.mem_map_of_mem (f := Prod.snd) among
  refine ⟨⟨_, succeeds, member, usable _ succeeds _ _ member⟩,
    reordered _ mixed.reverse_perm, ?_⟩
  rw [inserted (.file ⟨#[255]⟩) _ (List.Perm.refl _), without]
  rfl

end GoalFixture

end PlaneFigure
