import Mathlib.Algebra.GroupWithZero.Nat
import Mathlib.Data.Finset.Card
import Mathlib.Data.List.Induction
import Mathlib.Data.List.Nodup
import FormAssembly.Mesh.Markers

/-!
# Views of markers

Markers can be looked at entity by entity, number by number, or as a whole. All of this is a matter
of `Markers.get?` alone: the numbers in use are its values, the entities with a number are its
preimages, and markers with the same lookups are equal (`Markers.mem_numbers_iff`,
`Markers.mem_entitiesWith_iff`, `Markers.ext_get?`). What an entity is looked up as is the number
that it was given last (`Markers.get?_afterCalls`), so the views follow from the history
(`Markers.views_follow_history`).
-/

namespace FormAssembly

/-! ## Members of ascending lists -/

namespace Ascending

variable {ε : Type} {key : ε → Nat}

theorem mem_iff_find? {x : ε} {entries : List ε} (sorted : Sorted key entries) :
    x ∈ entries ↔ find? key (key x) entries = some x := by
  constructor
  · exact find?_key_eq_some sorted
  · intro found
    exact (mem_of_find?_eq_some found).1

theorem mem_insert_id_iff {n k : Nat} {numbers : List Nat} (sorted : Sorted id numbers) :
    n ∈ insert id k numbers ↔ n = k ∨ n ∈ numbers := by
  rw [mem_iff_find? (sorted_insert k sorted), mem_iff_find? sorted, find?_insert]
  by_cases same : k = n
  · simp [same]
  · simp [same, Ne.symm same]

/-- Inserting numbers one after another collects them. -/
theorem collect_numbers (more : List Nat) {numbers : List Nat} (sorted : Sorted id numbers) :
    Sorted id (more.foldl (fun seen n => insert id n seen) numbers) ∧
      ∀ n, n ∈ more.foldl (fun seen n => insert id n seen) numbers ↔ n ∈ numbers ∨ n ∈ more := by
  induction more generalizing numbers with
  | nil => simpa using sorted
  | cons first later ih =>
      rcases ih (sorted_insert first sorted) with ⟨stillSorted, members⟩
      refine ⟨stillSorted, ?_⟩
      intro n
      rw [List.foldl_cons, members, mem_insert_id_iff sorted, List.mem_cons]
      tauto

end Ascending

namespace Markers

variable {m other : Markers} {entity : PointId} {number : Nat}

/-! ## Entries -/

theorem find?_eq_some_iff {k : Nat} :
    Ascending.find? key k m.entries = some (entity, number) ↔
      entity.toNat = k ∧ m.get? entity = some number := by
  constructor
  · intro found
    have here : entity.toNat = k := (Ascending.mem_of_find?_eq_some found).2
    refine ⟨here, ?_⟩
    rw [get?, here, found]
    rfl
  · rintro ⟨rfl, looked⟩
    rcases Option.map_eq_some_iff.mp looked with ⟨⟨found, held⟩, there, rfl⟩
    have same : found = entity := PointId.ext_of_toNat (Ascending.mem_of_find?_eq_some there).2
    rw [there, same]

theorem mem_entries_iff : (entity, number) ∈ m.entries ↔ m.get? entity = some number := by
  rw [Ascending.mem_iff_find? m.sorted, find?_eq_some_iff]
  exact and_iff_right rfl

/-- Markers are determined by their lookups. -/
theorem ext_get? (dims : m.dim = other.dim) (same : ∀ entity, m.get? entity = other.get? entity) :
    m = other := by
  have entries : m.entries = other.entries := by
    refine Ascending.ext_of_find? m.sorted other.sorted ?_
    intro k
    refine Option.ext ?_
    rintro ⟨entity, number⟩
    rw [find?_eq_some_iff, find?_eq_some_iff, same]
  cases m
  cases other
  cases dims
  cases entries
  rfl

/-- The marked entities, in ascending order. -/
def entities (m : Markers) : List PointId :=
  m.entries.map (·.1)

theorem mem_entities_iff : entity ∈ m.entities ↔ ∃ number, m.get? entity = some number := by
  simp [entities, mem_entries_iff]

theorem pairwise_entities (m : Markers) : m.entities.Pairwise fun a b => a.toNat < b.toNat :=
  List.pairwise_map.mpr m.sorted

theorem nodup_of_pairwise {entities : List PointId}
    (ascending : entities.Pairwise fun a b => a.toNat < b.toNat) : entities.Nodup :=
  ascending.imp fun {_ _} less same => Nat.ne_of_lt less (congrArg PointId.toNat same)

/-! ## Numbers and their entities -/

theorem numbers_eq_foldl (m : Markers) :
    m.numbers = (m.entries.map (·.2)).foldl (fun seen n => Ascending.insert id n seen) [] := by
  rw [numbers, List.foldl_map]

theorem pairwise_numbers (m : Markers) : m.numbers.Pairwise (· < ·) := by
  rw [numbers_eq_foldl]
  exact (Ascending.collect_numbers _ List.Pairwise.nil).1

theorem mem_numbers_iff : number ∈ m.numbers ↔ ∃ entity, m.get? entity = some number := by
  rw [numbers_eq_foldl, (Ascending.collect_numbers _ List.Pairwise.nil).2]
  simp [mem_entries_iff]

theorem mem_entitiesWith_iff : entity ∈ m.entitiesWith number ↔ m.get? entity = some number := by
  simp [entitiesWith, mem_entries_iff]

theorem pairwise_entitiesWith (m : Markers) (number : Nat) :
    (m.entitiesWith number).Pairwise fun a b => a.toNat < b.toNat :=
  m.pairwise_entities.sublist (List.filter_sublist.map _)

theorem entitiesWith_ne_nil (used : number ∈ m.numbers) : m.entitiesWith number ≠ [] := by
  rcases mem_numbers_iff.mp used with ⟨entity, marked⟩
  exact List.ne_nil_of_mem (mem_entitiesWith_iff.mpr marked)

/-- No entity has two numbers, so the entities of all numbers together are the marked entities, each
once. -/
theorem nodup_flatMap_entitiesWith (m : Markers) : (m.numbers.flatMap m.entitiesWith).Nodup := by
  refine List.nodup_flatMap.mpr ⟨?_, ?_⟩
  · intro number _
    exact nodup_of_pairwise (m.pairwise_entitiesWith number)
  · refine m.pairwise_numbers.imp ?_
    intro low high less entity here there
    have same := (mem_entitiesWith_iff.mp here).symm.trans (mem_entitiesWith_iff.mp there)
    exact Nat.ne_of_lt less (Option.some.inj same)

theorem mem_flatMap_entitiesWith_iff :
    entity ∈ m.numbers.flatMap m.entitiesWith ↔ ∃ number, m.get? entity = some number := by
  constructor
  · intro among
    rcases List.mem_flatMap.mp among with ⟨number, _, here⟩
    exact ⟨number, mem_entitiesWith_iff.mp here⟩
  · rintro ⟨number, marked⟩
    exact List.mem_flatMap.mpr
      ⟨number, mem_numbers_iff.mpr ⟨entity, marked⟩, mem_entitiesWith_iff.mpr marked⟩

theorem perm_entities (m : Markers) : (m.numbers.flatMap m.entitiesWith).Perm m.entities := by
  have distinct := nodup_of_pairwise m.pairwise_entities
  refine (List.perm_ext_iff_of_nodup m.nodup_flatMap_entitiesWith distinct).mpr ?_
  intro entity
  rw [mem_flatMap_entitiesWith_iff, mem_entities_iff]

theorem sum_length_entitiesWith (m : Markers) :
    (m.numbers.map fun number => (m.entitiesWith number).length).sum = m.size := by
  calc (m.numbers.map fun number => (m.entitiesWith number).length).sum
      = (m.numbers.flatMap m.entitiesWith).length := List.length_flatMap.symm
    _ = m.entities.length := m.perm_entities.length_eq
    _ = m.size := List.length_map _

/-! ## Histories -/

/-- The number that an entity is given last in some pairs. -/
def lastNumber? (entity : PointId) (pairs : List (PointId × Nat)) : Option Nat :=
  (pairs.filterMap fun (marked, number) => if marked = entity then some number else none).getLast?

/-- The markers after some calls of `replace`. -/
def afterCalls (m : Markers) (calls : List (PointId × Nat)) : Markers :=
  calls.foldl (fun m (entity, number) => (m.replace entity number).2) m

variable {pairs calls : List (PointId × Nat)}

theorem lastNumber?_cons (entity marked : PointId) (number : Nat) (later : List (PointId × Nat)) :
    lastNumber? entity ((marked, number) :: later) =
      (lastNumber? entity later).or (if entity = marked then some number else none) := by
  by_cases same : entity = marked
  · simp only [lastNumber?, same, List.filterMap_cons, if_true, List.getLast?_cons]
    cases (later.filterMap fun (other, number) =>
      if other = marked then some number else none).getLast? <;> rfl
  · simp [lastNumber?, same, Ne.symm same]

theorem lastNumber?_eq_none_iff : lastNumber? entity pairs = none ↔ entity ∉ pairs.map (·.1) := by
  simp only [lastNumber?, List.getLast?_eq_none_iff, List.filterMap_eq_nil_iff, List.mem_map,
    not_exists, not_and]
  refine forall₂_congr ?_
  intro pair _
  by_cases same : pair.1 = entity <;> simp [same]

theorem mem_of_lastNumber? (last : lastNumber? entity pairs = some number) :
    (entity, number) ∈ pairs := by
  rcases List.mem_filterMap.mp (List.mem_of_getLast? last) with ⟨⟨marked, given⟩, among, here⟩
  rcases Option.ite_none_right_eq_some.mp here with ⟨rfl, held⟩
  exact Option.some.inj held ▸ among

/-- If no two pairs disagree about an entity, any of them is the last. -/
theorem lastNumber?_eq_some_iff
    (agree : ∀ j k, (entity, j) ∈ pairs → (entity, k) ∈ pairs → j = k) :
    lastNumber? entity pairs = some number ↔ (entity, number) ∈ pairs := by
  refine ⟨mem_of_lastNumber?, ?_⟩
  intro among
  cases last : lastNumber? entity pairs with
  | none => exact absurd (List.mem_map_of_mem among) (lastNumber?_eq_none_iff.mp last)
  | some given => rw [agree given number (mem_of_lastNumber? last) among]

theorem ofPairs_eq_afterCalls (dim : Nat) (pairs : List (PointId × Nat)) :
    ofPairs dim pairs = (empty dim).afterCalls pairs :=
  rfl

theorem afterCalls_append (m : Markers) (first later : List (PointId × Nat)) :
    m.afterCalls (first ++ later) = (m.afterCalls first).afterCalls later :=
  List.foldl_append

theorem get?_afterCalls (m : Markers) (calls : List (PointId × Nat)) (entity : PointId) :
    (m.afterCalls calls).get? entity = (lastNumber? entity calls).or (m.get? entity) := by
  induction calls generalizing m with
  | nil => rfl
  | cons call later ih =>
      rcases call with ⟨marked, number⟩
      have now : (m.replace marked number).2.get? entity =
          if entity = marked then some number else m.get? entity :=
        m.get?_mark marked entity number
      rw [afterCalls, List.foldl_cons, ← afterCalls, ih, now, lastNumber?_cons, Option.or_assoc]
      by_cases same : entity = marked <;> simp [same]

theorem get?_ofPairs (dim : Nat) (pairs : List (PointId × Nat)) (entity : PointId) :
    (ofPairs dim pairs).get? entity = lastNumber? entity pairs := by
  have nothing : (empty dim).get? entity = none := rfl
  rw [ofPairs_eq_afterCalls, get?_afterCalls, nothing, Option.or_none]

theorem dim_afterCalls (m : Markers) (calls : List (PointId × Nat)) :
    (m.afterCalls calls).dim = m.dim := by
  induction calls generalizing m with
  | nil => rfl
  | cons call later ih => exact ih _

theorem dim_ofPairs (dim : Nat) (pairs : List (PointId × Nat)) : (ofPairs dim pairs).dim = dim := by
  rw [ofPairs_eq_afterCalls, dim_afterCalls, empty]

theorem size_eq_card (m : Markers) : m.size = m.entities.toFinset.card := by
  have distinct := nodup_of_pairwise m.pairwise_entities
  rw [List.toFinset_card_of_nodup distinct, entities, List.length_map, size]

/-- The pairs that markers are made from and the later calls determine all that is seen of them. An
entity is looked up as the number that it was given last, and a call answers with the number that it
had before. The numbers in use are the values of the lookup, and the entities with a number are
those that are looked up as it, both in ascending order. No number in use is without entities, and
the entities of all numbers are the marked entities, each once, of which there are as many as
different entities were ever marked. Markers are equal iff they have one dimension and the same
lookups, whatever their histories are. -/
theorem views_follow_history (dim : Nat) (pairs calls : List (PointId × Nat)) :
    let m := (ofPairs dim pairs).afterCalls calls
    m.dim = dim ∧
    (∀ entity, m.get? entity = lastNumber? entity (pairs ++ calls)) ∧
    (∀ entity number, m.replace entity number = (lastNumber? entity (pairs ++ calls),
      (ofPairs dim pairs).afterCalls (calls ++ [(entity, number)]))) ∧
    -- The numbers in use.
    m.numbers.Pairwise (· < ·) ∧
    (∀ number, number ∈ m.numbers ↔ ∃ entity, m.get? entity = some number) ∧
    -- The entities of a number.
    (∀ number, (m.entitiesWith number).Pairwise (fun a b => a.toNat < b.toNat) ∧
      ∀ entity, entity ∈ m.entitiesWith number ↔ m.get? entity = some number) ∧
    -- The entities of all numbers.
    (∀ number ∈ m.numbers, m.entitiesWith number ≠ []) ∧
    (m.numbers.flatMap m.entitiesWith).Nodup ∧
    (∀ entity, entity ∈ m.numbers.flatMap m.entitiesWith ↔ ∃ number, m.get? entity = some number) ∧
    (m.numbers.map fun number => (m.entitiesWith number).length).sum = m.size ∧
    m.size = ((pairs ++ calls).map (·.1)).toFinset.card ∧
    -- Equality.
    ∀ otherDim otherPairs otherCalls,
      let other := (ofPairs otherDim otherPairs).afterCalls otherCalls
      m = other ↔ dim = otherDim ∧ ∀ entity, m.get? entity = other.get? entity := by
  intro m
  have dimension (dim : Nat) (pairs calls : List (PointId × Nat)) :
      ((ofPairs dim pairs).afterCalls calls).dim = dim := by
    rw [dim_afterCalls, dim_ofPairs]
  have lookup : ∀ entity, m.get? entity = lastNumber? entity (pairs ++ calls) := by
    intro entity
    have whole : m = ofPairs dim (pairs ++ calls) := (afterCalls_append _ pairs calls).symm
    rw [whole, get?_ofPairs]
  have marked : ∀ entity, entity ∈ m.entities ↔ entity ∈ (pairs ++ calls).map (·.1) := by
    intro entity
    rw [mem_entities_iff, ← Option.ne_none_iff_exists', lookup, Ne, lastNumber?_eq_none_iff,
      not_not]
  refine ⟨dimension dim pairs calls, lookup, ?_, m.pairwise_numbers, fun _ => mem_numbers_iff,
    fun number => ⟨m.pairwise_entitiesWith number, fun _ => mem_entitiesWith_iff⟩,
    fun _ => entitiesWith_ne_nil, m.nodup_flatMap_entitiesWith,
    fun _ => mem_flatMap_entitiesWith_iff, m.sum_length_entitiesWith, ?_, ?_⟩
  · intro entity number
    rw [← lookup, afterCalls_append]
    rfl
  · rw [size_eq_card]
    exact congrArg Finset.card (Finset.ext fun entity => by simpa using marked entity)
  · intro otherDim otherPairs otherCalls other
    constructor
    · intro same
      refine ⟨?_, fun entity => by rw [same]⟩
      rw [← dimension dim pairs calls, ← dimension otherDim otherPairs otherCalls]
      exact congrArg Markers.dim same
    · rintro ⟨rfl, same⟩
      exact ext_get? ((dimension dim pairs calls).trans (dimension dim otherPairs otherCalls).symm)
        same

/-- Two entities swap their numbers and a third gets one of them, so that its own is out of use. -/
theorem views_follow_history_swapped :
    let a := PointId.ofIndex 4
    let b := PointId.ofIndex 1
    let c := PointId.ofIndex 2
    let m := (ofPairs 2 [(a, 1), (b, 7), (c, 9)]).afterCalls [(a, 7), (b, 1), (c, 7)]
    m.get? a = some 7 ∧ (m.replace b 5).1 = some 1 ∧ m.entitiesWith 7 ≠ [] ∧
      (∀ entity, m.get? entity ≠ some 9) ∧ m.size = 3 ∧
      ∀ entity, m.get? entity = (ofPairs 2 [(c, 7), (b, 1), (a, 7)]).get? entity := by
  intro a b c m
  rcases views_follow_history 2 [(a, 1), (b, 7), (c, 9)] [(a, 7), (b, 1), (c, 7)] with
    ⟨_, lookup, answer, _, used, _, inhabited, _, _, _, size, equal⟩
  have looked : m.get? a = some 7 := (lookup a).trans (by decide)
  have unused : 9 ∉ m.numbers := by decide
  refine ⟨looked, ?_, inhabited 7 ((used 7).mpr ⟨a, looked⟩), ?_, size.trans (by decide), ?_⟩
  · exact (congrArg Prod.fst (answer b 5)).trans (by decide)
  · exact fun entity marked => unused ((used 9).mpr ⟨entity, marked⟩)
  · exact ((equal 2 [(c, 7), (b, 1), (a, 7)] []).mp (by decide)).2

end Markers
end FormAssembly
