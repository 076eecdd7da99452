import Mathlib.Data.Finset.Card
import Mathlib.Data.List.Induction
import Mathlib.Data.List.Sort
import Std.Data.TreeMap.Lemmas
import FormAssembly.Mesh.FacetCensus

/-!
# What the census knows

The census numbers vertex sets in the order in which they first appear, and it keeps for each of
them where that was and how often the vertex set has appeared since (`FacetCensus.Records`). So the
facets on the boundary are the incidences whose vertex set never appears again, in the order in
which they were seen (`FacetCensus.Records.exterior_eq`).
-/

namespace FormAssembly

/-! ## First appearances -/

section FirstAppearances

variable {κ : Type} [BEq κ] [LawfulBEq κ] {keys : List κ} {key : κ}

/-- Only a key that is new comes after the keys that appeared before. -/
theorem eraseDups_concat (keys : List κ) (key : κ) :
    (keys ++ [key]).eraseDups =
      if key ∈ keys then keys.eraseDups else keys.eraseDups ++ [key] := by
  by_cases known : key ∈ keys <;>
    simp [List.eraseDups_append, List.eraseDups_cons, List.removeAll, known]

theorem nodup_eraseDups (keys : List κ) : keys.eraseDups.Nodup := by
  induction keys using List.reverseRecOn with
  | nil => simp
  | append_singleton keys key ih =>
      by_cases known : key ∈ keys
      · simpa [eraseDups_concat, known] using ih
      · simpa [eraseDups_concat, known, List.nodup_append] using
          ⟨ih, fun other among same => known (same ▸ among)⟩

theorem length_eraseDups [DecidableEq κ] (keys : List κ) :
    keys.eraseDups.length = keys.toFinset.card := by
  have same : keys.eraseDups.toFinset = keys.toFinset := by
    ext key
    simp
  simpa [same] using (List.toFinset_card_of_nodup (nodup_eraseDups keys)).symm

/-- Keys that appear only once are listed in the order of their appearances. -/
theorem filter_eraseDups {p : κ → Bool} (once : ∀ key, p key = true → keys.count key ≤ 1) :
    keys.eraseDups.filter p = keys.filter p := by
  induction keys using List.reverseRecOn with
  | nil => simp
  | append_singleton keys key ih =>
      have earlier : keys.eraseDups.filter p = keys.filter p := by
        refine ih ?_
        intro other chosen
        exact Nat.le_trans (by simp) (once other chosen)
      by_cases known : key ∈ keys
      · -- A key that comes again is not chosen.
        have skipped : ¬ p key = true := by
          intro chosen
          have appeared : 0 < keys.count key := List.count_pos_iff.mpr known
          have bound := once key chosen
          simp at bound
          omega
        simp [eraseDups_concat, known, earlier, skipped]
      · simp [eraseDups_concat, known, earlier]

/-- The keys are numbered in the order in which they first appear. -/
theorem pairwise_idxOf (keys : List κ) :
    keys.eraseDups.Pairwise fun a b => keys.eraseDups.idxOf a < keys.eraseDups.idxOf b := by
  refine List.pairwise_iff_getElem.mpr ?_
  intro i j here there before
  simpa [(nodup_eraseDups keys).idxOf_getElem] using before

/-- The number of a key is the number of different keys before it. -/
theorem idxOf_eraseDups_of_first [DecidableEq κ] {later : List κ} :
    key ∉ keys → (keys ++ key :: later).eraseDups.idxOf key = keys.toFinset.card := by
  intro fresh
  have first : (keys ++ [key]).eraseDups = keys.eraseDups ++ [key] := by
    simp [eraseDups_concat, fresh]
  have split : (keys ++ key :: later).eraseDups =
      keys.eraseDups ++ key :: (later.removeAll (keys ++ [key])).eraseDups := by
    calc (keys ++ key :: later).eraseDups
        = ((keys ++ [key]) ++ later).eraseDups := by simp
      _ = (keys ++ [key]).eraseDups ++ (later.removeAll (keys ++ [key])).eraseDups :=
          List.eraseDups_append
      _ = _ := by simp [first]
  have new : key ∉ keys.eraseDups := by
    simpa using fresh
  simp [split, List.idxOf_append_of_notMem new, length_eraseDups]

theorem zipIdx_of_nodup (distinct : keys.Nodup) :
    keys.zipIdx = keys.map fun key => (key, keys.idxOf key) := by
  refine List.ext_getElem (by simp) ?_
  intro number inside _
  have place : number < keys.length := by
    simpa using inside
  simp [distinct.idxOf_getElem number place]

/-- Items with a key of their own are told apart by their keys. -/
theorem eq_of_count_map_eq_one {ι : Type} {items : List ι} {f : ι → κ} {a b : ι}
    (here : a ∈ items) (there : b ∈ items) (once : (items.map f).count (f a) = 1) :
    f b = f a → b = a := by
  intro same
  rcases List.append_of_mem here with ⟨before, after, rfl⟩
  have alone : (before.map f).count (f a) = 0 ∧ (after.map f).count (f a) = 0 := by
    simp at once
    omega
  rcases List.mem_append.mp there with earlier | rest
  · exact absurd (List.mem_map.mpr ⟨b, earlier, same⟩) (List.count_eq_zero.mp alone.1)
  · rcases List.mem_cons.mp rest with equal | later
    · exact equal
    · exact absurd (List.mem_map.mpr ⟨b, later, same⟩) (List.count_eq_zero.mp alone.2)

theorem count_map_eq_one_iff {ι : Type} [BEq ι] [LawfulBEq ι] {items : List ι} {f : ι → κ} {a : ι}
    (distinct : items.Nodup) (here : a ∈ items) :
    (items.map f).count (f a) = 1 ↔ ∀ b ∈ items, f b = f a → b = a := by
  constructor
  · intro once b there
    exact eq_of_count_map_eq_one here there once
  · intro alone
    have sameTest : ∀ b ∈ items, (f b == f a) = true ↔ (b == a) = true := by
      intro b there
      simpa using ⟨alone b there, fun equal => equal ▸ rfl⟩
    calc (items.map f).count (f a)
        = items.countP fun b => f b == f a := by
          simp [List.count, List.countP_map, Function.comp_def]
      _ = items.count a := List.countP_congr sameTest
      _ = 1 := List.count_eq_one_of_mem distinct here

end FirstAppearances

/-! ## Vertex sets -/

theorem sortVertices_eq (vertices : List Nat) :
    sortVertices vertices = vertices.insertionSort (· ≤ ·) := by
  have place : ∀ v sorted, insertVertex v sorted = sorted.orderedInsert (· ≤ ·) v := by
    intro v sorted
    induction sorted with
    | nil => rfl
    | cons w rest ih => simp [insertVertex, ih]
  induction vertices with
  | nil => rfl
  | cons v rest ih =>
      calc sortVertices (v :: rest)
          = insertVertex v (sortVertices rest) := rfl
        _ = (v :: rest).insertionSort (· ≤ ·) := by simp [place, ih]

namespace FacetCensus

/-! ## Records -/

variable {census : FacetCensus} {seen : List (List Nat × Nat × Nat)} {key : List Nat}

/-- Vertex sets of incidences. -/
def keysOf (seen : List (List Nat × Nat × Nat)) : List (List Nat) :=
  seen.map (·.1)

@[simp] theorem keysOf_concat (seen : List (List Nat × Nat × Nat)) (key : List Nat)
    (cell localFacet : Nat) :
    keysOf (seen ++ [(key, cell, localFacet)]) = keysOf seen ++ [key] := by
  simp [keysOf]

/-- What is known of a vertex set when `seen` has been seen: where it appeared first, and how often
it has appeared. -/
def sightingOf (seen : List (List Nat × Nat × Nat)) (key : List Nat) : FacetSighting :=
  match seen.find? fun incidence => incidence.1 = key with
  | some (_, cell, localFacet) => ⟨cell, localFacet, (keysOf seen).count key⟩
  | none => ⟨0, 0, 0⟩

theorem find?_eq_none_iff :
    (seen.find? fun incidence => incidence.1 = key) = none ↔ key ∉ keysOf seen := by
  simp only [List.find?_eq_none, decide_eq_true_eq, keysOf, List.mem_map, not_exists, not_and]

theorem sightingOf_concat_of_ne {other : List Nat} (cell localFacet : Nat) :
    key ≠ other →
      sightingOf (seen ++ [(key, cell, localFacet)]) other = sightingOf seen other := by
  intro different
  simp [sightingOf, List.find?_append, different]

theorem sightingOf_concat_of_mem (cell localFacet : Nat) :
    key ∈ keysOf seen →
      sightingOf (seen ++ [(key, cell, localFacet)]) key =
        { sightingOf seen key with count := (sightingOf seen key).count + 1 } := by
  intro known
  cases found : seen.find? fun incidence => incidence.1 = key with
  | some incidence => simp [sightingOf, List.find?_append, found]
  | none => exact absurd known (find?_eq_none_iff.mp found)

theorem sightingOf_concat_of_not_mem (cell localFacet : Nat) :
    key ∉ keysOf seen →
      sightingOf (seen ++ [(key, cell, localFacet)]) key = ⟨cell, localFacet, 1⟩ := by
  intro fresh
  have unseen := find?_eq_none_iff.mpr fresh
  have never : (keysOf seen).count key = 0 := List.count_eq_zero.mpr fresh
  simp [sightingOf, List.find?_append, unseen, never]

/-- The census has seen `seen`. -/
structure Records (census : FacetCensus) (seen : List (List Nat × Nat × Nat)) : Prop where
  numbers : ∀ key : List Nat, census.numbers[key]? =
    if key ∈ keysOf seen then some ((keysOf seen).eraseDups.idxOf key) else none
  sightings : census.sightings.toList = (keysOf seen).eraseDups.map (sightingOf seen)

/-! ## One more incidence -/

theorem Records.size_sightings (records : census.Records seen) :
    census.sightings.size = (keysOf seen).eraseDups.length := by
  simpa using congrArg List.length records.sightings

/-- The vertex set is known. No number changes, and it has appeared once more. -/
theorem Records.see_of_mem (records : census.Records seen) (cell localFacet : Nat)
    (known : key ∈ keysOf seen) :
    (census.see key cell localFacet).Records (seen ++ [(key, cell, localFacet)]) := by
  have firsts_concat : (keysOf seen ++ [key]).eraseDups = (keysOf seen).eraseDups := by
    simp [eraseDups_concat, known]
  have looked : census.numbers[key]? = some ((keysOf seen).eraseDups.idxOf key) := by
    simp [records.numbers, known]
  constructor
  · intro other
    have same : other ∈ keysOf seen ++ [key] ↔ other ∈ keysOf seen := by
      simpa using fun equal => equal ▸ known
    simp only [FacetCensus.see, looked, keysOf_concat, firsts_concat, same]
    exact records.numbers other
  · simp only [FacetCensus.see, looked, keysOf_concat, firsts_concat, Array.toList_modify,
      records.sightings]
    have distinct : (keysOf seen).eraseDups.Nodup := nodup_eraseDups (keysOf seen)
    have among : key ∈ (keysOf seen).eraseDups := List.mem_eraseDups.mpr known
    generalize (keysOf seen).eraseDups = firsts at distinct among
    refine List.ext_getElem (by simp) ?_
    intro number inBounds _
    have inside : number < firsts.length := by
      simpa using inBounds
    -- The sighting that changes is the one with the number of the vertex set.
    by_cases here : firsts.idxOf key = number
    · have same : firsts[number] = key := by
        simp [← here]
      simp [here, same, sightingOf_concat_of_mem cell localFacet known]
    · have different : key ≠ firsts[number] := by
        rintro rfl
        exact here (distinct.idxOf_getElem number inside)
      simp [here, sightingOf_concat_of_ne cell localFacet different]

/-- The vertex set is new and gets the next number. -/
theorem Records.see_of_not_mem (records : census.Records seen) (cell localFacet : Nat)
    (fresh : key ∉ keysOf seen) :
    (census.see key cell localFacet).Records (seen ++ [(key, cell, localFacet)]) := by
  have firsts_concat :
      (keysOf seen ++ [key]).eraseDups = (keysOf seen).eraseDups ++ [key] := by
    simp [eraseDups_concat, fresh]
  have looked : census.numbers[key]? = none := by
    simp [records.numbers, fresh]
  have new : key ∉ (keysOf seen).eraseDups := by
    simpa using fresh
  constructor
  · intro other
    simp only [FacetCensus.see, looked, keysOf_concat, firsts_concat, Std.TreeMap.getElem?_insert,
      Std.compare_eq_iff_eq, records.size_sightings]
    by_cases same : key = other
    · subst same
      simp [List.idxOf_append_of_notMem new]
    · by_cases known : other ∈ keysOf seen
      · have old : other ∈ (keysOf seen).eraseDups := List.mem_eraseDups.mpr known
        simp [same, records.numbers, known, List.idxOf_append_of_mem old]
      · simp [same, Ne.symm same, records.numbers, known]
  · have others : ∀ other ∈ (keysOf seen).eraseDups,
        sightingOf seen other = sightingOf (seen ++ [(key, cell, localFacet)]) other := by
      intro other among
      have different : key ≠ other := fun same => new (same ▸ among)
      exact (sightingOf_concat_of_ne cell localFacet different).symm
    simp [FacetCensus.see, looked, firsts_concat, records.sightings,
      sightingOf_concat_of_not_mem cell localFacet fresh, List.map_congr_left others]

theorem Records.see (records : census.Records seen) (key : List Nat) (cell localFacet : Nat) :
    (census.see key cell localFacet).Records (seen ++ [(key, cell, localFacet)]) := by
  by_cases known : key ∈ keysOf seen
  · exact records.see_of_mem cell localFacet known
  · exact records.see_of_not_mem cell localFacet known

/-! ## Whole runs -/

theorem records_empty : Records {} [] where
  numbers key := by
    simp [keysOf]
  sightings := rfl

theorem records_foldl (seen : List (List Nat × Nat × Nat)) :
    Records (seen.foldl (fun census (key, cell, localFacet) => census.see key cell localFacet) {})
      seen := by
  induction seen using List.reverseRecOn with
  | nil => exact records_empty
  | append_singleton seen incidence ih =>
      simpa using ih.see incidence.1 incidence.2.1 incidence.2.2

theorem records_ofCells (width : Nat) (connectivity : Array Nat) :
    (ofCells width connectivity).Records (incidences width connectivity) :=
  records_foldl (incidences width connectivity)

/-! ## Facets on the boundary -/

theorem count_sightingOf :
    key ∈ keysOf seen → (sightingOf seen key).count = (keysOf seen).count key := by
  intro known
  cases found : seen.find? fun incidence => incidence.1 = key with
  | some incidence => simp [sightingOf, found]
  | none => exact absurd known (find?_eq_none_iff.mp found)

/-- The first appearance of a vertex set is its only one, if there is no other. -/
theorem sightingOf_of_count {incidence : List Nat × Nat × Nat} (among : incidence ∈ seen)
    (once : (keysOf seen).count incidence.1 = 1) :
    sightingOf seen incidence.1 = ⟨incidence.2.1, incidence.2.2, 1⟩ := by
  have known : incidence.1 ∈ keysOf seen := List.mem_map_of_mem among
  cases found : seen.find? fun other => other.1 = incidence.1 with
  | some other =>
      have same : other.1 = incidence.1 := by
        simpa using List.find?_some found
      obtain rfl : other = incidence :=
        eq_of_count_map_eq_one among (List.mem_of_find?_eq_some found) once same
      simp [sightingOf, found, once]
  | none => exact absurd known (find?_eq_none_iff.mp found)

/-- The facets on the boundary are the incidences whose vertex set appears only once, in the order
in which they were seen. -/
theorem Records.exterior_eq (records : census.Records seen) :
    census.exterior = (seen.filter fun incidence => (keysOf seen).count incidence.1 = 1).map
      fun incidence => ⟨PointId.ofIndex ((keysOf seen).eraseDups.idxOf incidence.1),
        PointId.ofIndex incidence.2.1, incidence.2.2⟩ := by
  let once (key : List Nat) : Bool := (keysOf seen).count key = 1
  let facetOf (key : List Nat) : ExteriorFacet :=
    ⟨PointId.ofIndex ((keysOf seen).eraseDups.idxOf key),
      PointId.ofIndex (sightingOf seen key).cell, (sightingOf seen key).localFacet⟩
  have counted : ∀ key ∈ (keysOf seen).eraseDups,
      (if (sightingOf seen key).count = 1 then some (facetOf key) else none) =
        if once key then (some ∘ facetOf) key else none := by
    intro key among
    simp [count_sightingOf (List.mem_eraseDups.mp among), once]
  have distinct : (keysOf seen).eraseDups.Nodup := nodup_eraseDups (keysOf seen)
  calc census.exterior
      = (keysOf seen).eraseDups.filterMap fun key =>
          if (sightingOf seen key).count = 1 then some (facetOf key) else none := by
        simp [exterior, records.sightings, List.zipIdx_map, zipIdx_of_nodup distinct,
          List.filterMap_map, Function.comp_def, facetOf]
    _ = ((keysOf seen).eraseDups.filter once).map facetOf := by
        simp [List.filterMap_congr counted, ← List.filterMap_filter]
    _ = ((keysOf seen).filter once).map facetOf := by
        have bound : ∀ key, once key = true → (keysOf seen).count key ≤ 1 := by
          simp +contextual [once]
        simp only [filter_eraseDups bound]
    _ = (seen.filter fun incidence => once incidence.1).map fun incidence =>
          facetOf incidence.1 := by
        simp [keysOf, List.filter_map, Function.comp_def]
    _ = _ := by
        refine List.map_congr_left ?_
        intro incidence listed
        rcases List.mem_filter.mp listed with ⟨among, single⟩
        simp [facetOf, sightingOf_of_count among (of_decide_eq_true single)]

end FacetCensus
end FormAssembly
