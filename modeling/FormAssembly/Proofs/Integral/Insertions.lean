import FormAssembly.Integral.Registry

/-!
# Histories of insertions

A registry keeps its integrals in ascending order, so it shows neither in which order they were
inserted nor which calls failed. `IntegralSet.Attempts` keeps the records that were taken, in the
order of the calls, beside the registry. `IntegralSet.Holds` ties the two: every kind's list is a
rearrangement of the records of that kind that were taken. What a call does, what the lists are and
what is looked up follows from it (`IntegralSet.insertion_history`).
-/

namespace FormAssembly

/-! ## Ascending lists -/

namespace Ascending

variable {ε : Type} {key : ε → Nat} {left right : List ε}

/-- An entry with a new key goes between those with lower and those with higher keys. -/
theorem exists_split_insert {x : ε} {entries : List ε} (sorted : Sorted key entries)
    (fresh : find? key (key x) entries = none) :
    ∃ lower higher, entries = lower ++ higher ∧ insert key x entries = lower ++ x :: higher ∧
      (∀ y ∈ lower, key y < key x) ∧ ∀ y ∈ higher, key x < key y := by
  induction entries with
  | nil => exact ⟨[], [], rfl, rfl, by simp, by simp⟩
  | cons y rest ih =>
      obtain ⟨above, tail⟩ := List.pairwise_cons.mp sorted
      have apart : key y ≠ key x := by
        simpa using List.find?_eq_none.mp fresh y List.mem_cons_self
      simp only [insert, if_neg apart.symm]
      split
      next less =>
        refine ⟨[], y :: rest, rfl, rfl, by simp, ?_⟩
        exact List.forall_mem_cons.mpr ⟨less, fun z among => Nat.lt_trans less (above z among)⟩
      next notLess =>
        have freshLater : find? key (key x) rest = none :=
          List.find?_eq_none.mpr fun z among =>
            List.find?_eq_none.mp fresh z (List.mem_cons_of_mem y among)
        rcases ih tail freshLater with ⟨lower, higher, split, inserted, below, beyond⟩
        refine ⟨y :: lower, higher, congrArg (y :: ·) split, congrArg (y :: ·) inserted, ?_, beyond⟩
        exact List.forall_mem_cons.mpr ⟨Nat.lt_of_le_of_ne (Nat.le_of_not_lt notLess) apart, below⟩

theorem eq_of_perm (sorted : Sorted key left) (alsoSorted : Sorted key right)
    (perm : left.Perm right) : left = right := by
  have strict : ∀ x y, x ∈ left → y ∈ right → key x < key y → key y < key x → x = y :=
    fun _ _ _ _ less more => absurd more (Nat.lt_asymm less)
  exact perm.eq_of_pairwise strict sorted alsoSorted

end Ascending

theorem Integral.lt_of_rank_lt {a b : Option Nat} (less : rank a < rank b) : a < b := by
  cases a <;> cases b <;> simp_all [rank]

/-! ## Records and registries -/

namespace IntegralSet

variable {α : Type} {taken : List (IntegralRecord α)} {set : IntegralSet α} {kind : IntegralKind}
  {subdomain : Option Nat} {integral : Integral α}

/-- Among the records is one for this kind and subdomain. -/
def Declared (taken : List (IntegralRecord α)) (kind : IntegralKind) (subdomain : Option Nat) :
    Prop :=
  ∃ record ∈ taken, record.kind = kind ∧ record.subdomain = subdomain

/-- A list with one more integral, behind all those for lower subdomains and before all those for
higher ones. -/
def Placed (integral : Integral α) (before after : List (Integral α)) : Prop :=
  ∃ lower higher, before = lower ++ higher ∧ after = lower ++ integral :: higher ∧
    (∀ other ∈ lower, other.subdomain < integral.subdomain) ∧
    ∀ other ∈ higher, integral.subdomain < other.subdomain

/-- Of each kind, a registry has the integrals of the records, as often as these are listed. -/
def Holds (taken : List (IntegralRecord α)) (set : IntegralSet α) : Prop :=
  ∀ kind, (set.integrals kind).Perm
    ((taken.filter fun record => record.kind = kind).map IntegralRecord.toIntegral)

theorem declared_concat {record : IntegralRecord α} :
    Declared (taken ++ [record]) kind subdomain ↔
      Declared taken kind subdomain ∨ record.kind = kind ∧ record.subdomain = subdomain := by
  simp [Declared, or_and_right, exists_or]

theorem find?_eq_some_iff :
    set.find? kind subdomain = some integral ↔
      integral ∈ set.integrals kind ∧ integral.subdomain = subdomain := by
  constructor
  · intro found
    rcases Ascending.mem_of_find?_eq_some found with ⟨among, sameRank⟩
    exact ⟨among, Integral.rank_injective sameRank⟩
  · rintro ⟨among, rfl⟩
    exact Ascending.find?_key_eq_some (set.sorted kind) among

theorem Holds.mem_integrals_iff (holds : Holds taken set) :
    integral ∈ set.integrals kind ↔
      ∃ record ∈ taken, record.kind = kind ∧ record.toIntegral = integral := by
  rw [(holds kind).mem_iff]
  simp [and_assoc]

theorem Holds.find?_eq_some_iff (holds : Holds taken set) :
    set.find? kind subdomain = some integral ↔
      ∃ record ∈ taken, record.kind = kind ∧ record.subdomain = subdomain ∧
        record.toIntegral = integral := by
  rw [IntegralSet.find?_eq_some_iff, holds.mem_integrals_iff]
  constructor
  · rintro ⟨⟨record, among, ofKind, rfl⟩, ofSubdomain⟩
    exact ⟨record, among, ofKind, ofSubdomain, rfl⟩
  · rintro ⟨record, among, ofKind, ofSubdomain, rfl⟩
    exact ⟨⟨record, among, ofKind, rfl⟩, ofSubdomain⟩

theorem Holds.find?_eq_none_iff (holds : Holds taken set) :
    set.find? kind subdomain = none ↔ ¬ Declared taken kind subdomain := by
  rw [Option.eq_none_iff_forall_ne_some]
  constructor
  · rintro absent ⟨record, among, ofKind, ofSubdomain⟩
    exact absent record.toIntegral
      (holds.find?_eq_some_iff.mpr ⟨record, among, ofKind, ofSubdomain, rfl⟩)
  · intro undeclared integral found
    rcases holds.find?_eq_some_iff.mp found with ⟨record, among, ofKind, ofSubdomain, _⟩
    exact undeclared ⟨record, among, ofKind, ofSubdomain⟩

theorem holds_empty : Holds [] (empty : IntegralSet α) := by
  intro kind
  simp [integrals, empty]

theorem placed_put (set : IntegralSet α) (kind : IntegralKind) (integral : Integral α)
    (fresh : set.find? kind integral.subdomain = none) :
    Placed integral (set.integrals kind) ((set.put kind integral).integrals kind) := by
  rw [integrals_put, if_pos rfl]
  rcases Ascending.exists_split_insert (set.sorted kind) fresh with
    ⟨lower, higher, split, inserted, below, above⟩
  exact ⟨lower, higher, split, inserted,
    fun other among => Integral.lt_of_rank_lt (below other among),
    fun other among => Integral.lt_of_rank_lt (above other among)⟩

theorem Placed.perm {before after : List (Integral α)} (placed : Placed integral before after) :
    after.Perm (integral :: before) := by
  rcases placed with ⟨lower, higher, rfl, rfl, _, _⟩
  exact List.perm_middle

theorem Holds.put {record : IntegralRecord α} (holds : Holds taken set)
    (fresh : ¬ Declared taken record.kind record.subdomain) :
    Holds (taken ++ [record]) (set.put record.kind record.toIntegral) := by
  intro kind
  by_cases here : kind = record.kind
  · subst here
    have absent : set.find? record.kind record.subdomain = none :=
      holds.find?_eq_none_iff.mpr fresh
    have joined := (placed_put set record.kind record.toIntegral absent).perm
    simpa using joined.trans (((holds record.kind).cons _).trans
      (List.perm_append_singleton _ _).symm)
  · have elsewhere : record.kind ≠ kind := Ne.symm here
    rw [integrals_put, if_neg here]
    simpa [elsewhere] using holds kind

/-- What a call does: it is refused if there is a record of that kind and subdomain among those
taken, and else its integral is put among the others. -/
theorem Holds.insert_cases (holds : Holds taken set) (record : IntegralRecord α) :
    (Declared taken record.kind record.subdomain ∧ set.insert record =
      .error (.configuration (.repeatedIntegral record.kind record.subdomain))) ∨
    (¬ Declared taken record.kind record.subdomain ∧
      set.insert record = .ok (set.put record.kind record.toIntegral)) := by
  cases found : set.find? record.kind record.subdomain with
  | some earlier =>
      refine Or.inl ⟨?_, ?_⟩
      · rcases holds.find?_eq_some_iff.mp found with ⟨other, among, ofKind, ofSubdomain, _⟩
        exact ⟨other, among, ofKind, ofSubdomain⟩
      · rw [insert, found]
  | none =>
      refine Or.inr ⟨holds.find?_eq_none_iff.mp found, ?_⟩
      rw [insert, found]

/-- The records leave no choice for the registry, and their order does not matter. -/
theorem Holds.eq_of_perm {other : List (IntegralRecord α)} {same : IntegralSet α}
    (holds : Holds taken set) (alsoHolds : Holds other same) (perm : taken.Perm other) :
    set = same := by
  refine IntegralSet.ext ?_
  intro kind
  have rearranged := (perm.filter fun record => record.kind = kind).map IntegralRecord.toIntegral
  exact Ascending.eq_of_perm (set.sorted kind) (same.sorted kind)
    ((holds kind).trans (rearranged.trans (alsoHolds kind).symm))

/-! ## Calls -/

/-- The records that were taken, in the order of the calls, and the registry that there is. -/
structure Attempts (α : Type) where
  taken : List (IntegralRecord α) := []
  set : IntegralSet α := empty

/-- One more call. If it fails all stays as it is. -/
def Attempts.insert (attempts : Attempts α) (record : IntegralRecord α) : Attempts α :=
  match attempts.set.insert record with
  | .ok grown => ⟨attempts.taken ++ [record], grown⟩
  | .error _ => attempts

/-- Calls on an empty registry, one after another. -/
def Attempts.ofCalls (calls : List (IntegralRecord α)) : Attempts α :=
  calls.foldl Attempts.insert {}

theorem Attempts.holds_insert {attempts : Attempts α}
    (holds : Holds attempts.taken attempts.set) (record : IntegralRecord α) :
    Holds (attempts.insert record).taken (attempts.insert record).set := by
  unfold Attempts.insert
  rcases holds.insert_cases record with ⟨_, refused⟩ | ⟨fresh, accepted⟩
  · rwa [refused]
  · rw [accepted]
    exact holds.put fresh

theorem Attempts.holds_ofCalls (calls : List (IntegralRecord α)) :
    Holds (ofCalls calls).taken (ofCalls calls).set :=
  List.foldlRecOn calls Attempts.insert
    (motive := fun attempts => Holds attempts.taken attempts.set) holds_empty
    fun _ holds record _ => holds_insert holds record

theorem Attempts.ofCalls_concat (calls : List (IntegralRecord α)) (record : IntegralRecord α) :
    ofCalls (calls ++ [record]) = (ofCalls calls).insert record := by
  simp [ofCalls]

/-! ## Lists and lookups -/

theorem pairwise_subdomain (set : IntegralSet α) (kind : IntegralKind) :
    (set.integrals kind).Pairwise fun a b => a.subdomain < b.subdomain :=
  (set.sorted kind).imp Integral.lt_of_rank_lt

theorem head?_of_default (among : integral ∈ set.integrals kind)
    (unmarked : integral.subdomain = none) : (set.integrals kind).head? = some integral := by
  have found : set.find? kind none = some integral :=
    IntegralSet.find?_eq_some_iff.mpr ⟨among, unmarked⟩
  rw [← default?_eq_find?] at found
  exact (Option.filter_eq_some_iff.mp found).1

/-- What to evaluate on an entity that carries `marker`, said of records alone. -/
inductive Selected (taken : List (IntegralRecord α)) (kind : IntegralKind) :
    (marker : Option Nat) → Option (Integral α) → Prop
  /-- The integral for the marker. -/
  | marked {record : IntegralRecord α} {m : Nat} : record ∈ taken → record.kind = kind →
      record.subdomain = some m → Selected taken kind (some m) (some record.toIntegral)
  /-- The default integral, as there is none for the marker. -/
  | default {record : IntegralRecord α} {marker : Option Nat} :
      (∀ m, marker = some m → ¬ Declared taken kind (some m)) → record ∈ taken →
      record.kind = kind → record.subdomain = none →
      Selected taken kind marker (some record.toIntegral)
  /-- Nothing, as there is no default integral either. -/
  | nothing {marker : Option Nat} : (∀ m, marker = some m → ¬ Declared taken kind (some m)) →
      ¬ Declared taken kind none → Selected taken kind marker none

theorem Holds.selected_default (holds : Holds taken set) {marker : Option Nat}
    (noneMarked : ∀ m, marker = some m → ¬ Declared taken kind (some m)) :
    Selected taken kind marker (set.default? kind) := by
  rw [default?_eq_find?]
  cases found : set.find? kind none with
  | some integral =>
      rcases holds.find?_eq_some_iff.mp found with ⟨record, among, ofKind, unmarked, rfl⟩
      exact .default noneMarked among ofKind unmarked
  | none => exact .nothing noneMarked (holds.find?_eq_none_iff.mp found)

theorem Holds.selected (holds : Holds taken set) (kind : IntegralKind) (marker : Option Nat) :
    Selected taken kind marker (set.integralFor kind marker) := by
  unfold integralFor
  cases marker with
  | none => exact holds.selected_default fun m impossible => nomatch impossible
  | some m =>
      simp only [Option.bind_some]
      cases found : set.find? kind (some m) with
      | some integral =>
          rcases holds.find?_eq_some_iff.mp found with ⟨record, among, ofKind, forMarker, rfl⟩
          exact .marked among ofKind forMarker
      | none =>
          refine holds.selected_default fun other same => ?_
          cases same
          exact holds.find?_eq_none_iff.mp found

/-- After any calls, a further call is refused iff a record of its kind and subdomain was taken, and
changes nothing then; else it puts its integral between those for lower and those for higher
subdomains. Every kind's list has exactly the integrals taken, in strictly ascending order of
subdomains with the default integral in front, and a lookup selects by the records taken. -/
theorem insertion_history (calls : List (IntegralRecord α)) :
    let taken := (Attempts.ofCalls calls).taken
    let set := (Attempts.ofCalls calls).set
    (∀ record,
      (Declared taken record.kind record.subdomain ∧
        set.insert record =
          .error (.configuration (.repeatedIntegral record.kind record.subdomain)) ∧
        Attempts.ofCalls (calls ++ [record]) = ⟨taken, set⟩) ∨
      (¬ Declared taken record.kind record.subdomain ∧
        ∃ grown, set.insert record = .ok grown ∧
          Placed record.toIntegral (set.integrals record.kind) (grown.integrals record.kind) ∧
          (∀ other, other ≠ record.kind → grown.integrals other = set.integrals other) ∧
          Attempts.ofCalls (calls ++ [record]) = ⟨taken ++ [record], grown⟩)) ∧
    (∀ kind,
      (set.integrals kind).Perm
        ((taken.filter fun record => record.kind = kind).map IntegralRecord.toIntegral) ∧
      (set.integrals kind).Pairwise (fun a b => a.subdomain < b.subdomain) ∧
      ∀ integral ∈ set.integrals kind, integral.subdomain = none →
        (set.integrals kind).head? = some integral) ∧
    ∀ kind marker, Selected taken kind marker (set.integralFor kind marker) := by
  intro taken set
  have holds : Holds taken set := Attempts.holds_ofCalls calls
  refine ⟨?_, ?_, holds.selected⟩
  · intro record
    rw [Attempts.ofCalls_concat, Attempts.insert]
    rcases holds.insert_cases record with ⟨declared, refused⟩ | ⟨fresh, accepted⟩
    · refine Or.inl ⟨declared, refused, ?_⟩
      rw [refused]
    · have absent : set.find? record.kind record.subdomain = none :=
        holds.find?_eq_none_iff.mpr fresh
      refine Or.inr ⟨fresh, set.put record.kind record.toIntegral, accepted,
        placed_put set record.kind record.toIntegral absent, ?_, ?_⟩
      · intro other elsewhere
        rw [integrals_put, if_neg elsewhere]
      · rw [accepted]
  · intro kind
    exact ⟨holds kind, pairwise_subdomain set kind, fun _ => head?_of_default⟩

/-- The default integral of cells is inserted after one for a subdomain, and comes first. A second
integral for that subdomain is refused, and the first one stays. -/
theorem insertion_history_second_of_subdomain :
    let marked : IntegralRecord Nat := ⟨.cell, some 3, ⟨fun block _ _ _ => block⟩, none⟩
    let default : IntegralRecord Nat :=
      ⟨.cell, none, ⟨fun block _ _ _ => block.reverse⟩, some [true]⟩
    let again : IntegralRecord Nat := ⟨.cell, some 3, ⟨fun block _ _ _ => block.reverse⟩, none⟩
    let before := Attempts.ofCalls [marked, default]
    before.set.insert again = .error (.configuration (.repeatedIntegral .cell (some 3))) ∧
      Attempts.ofCalls [marked, default, again] = before ∧
      (before.set.integrals .cell).head? = some default.toIntegral ∧
      before.set.integralFor .cell (some 3) = some marked.toIntegral ∧
      before.set.integralFor .cell (some 2) = some default.toIntegral := by
  intro marked default again before
  rcases insertion_history [marked, default] with ⟨calls, lists, _⟩
  have first : (before.set.integrals .cell).head? = some default.toIntegral :=
    (lists .cell).2.2 default.toIntegral List.mem_cons_self rfl
  rcases calls again with ⟨_, refused, unchanged⟩ | ⟨fresh, _⟩
  · exact ⟨refused, unchanged, first, rfl, rfl⟩
  · exact absurd ⟨marked, List.mem_cons_self, rfl, rfl⟩ fresh

end IntegralSet
end FormAssembly
