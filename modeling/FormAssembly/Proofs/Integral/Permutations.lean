import FormAssembly.Proofs.Integral.Insertions

/-!
# Registries of lists of records

Building a registry stops at the first record that cannot be taken. Whether there is one does not
depend on the order of the records (`IntegralSet.registrable_of_perm`), and if there is none, the
registry holds all records, whatever their order (`IntegralSet.Holds.ofRecords`). So the order in
which a form lists its integrals leaves no trace (`IntegralSet.registry_ignores_order`).
-/

namespace FormAssembly

variable {α : Type}

namespace IntegralRecord

/-- The mask of a record, if it has one, speaks of no more coefficients than there are. -/
def MaskFits (numCoefficients : Nat) (record : IntegralRecord α) : Prop :=
  ∀ mask, record.mask = some mask → mask.length ≤ numCoefficients

/-- Two records that can be in one registry. -/
def Apart (a b : IntegralRecord α) : Prop :=
  ¬ (a.kind = b.kind ∧ a.subdomain = b.subdomain)

theorem Apart.symm {a b : IntegralRecord α} (apart : Apart a b) : Apart b a :=
  fun ⟨kind, subdomain⟩ => apart ⟨kind.symm, subdomain.symm⟩

end IntegralRecord

open IntegralRecord

namespace IntegralSet

variable {taken records : List (IntegralRecord α)} {set : IntegralSet α}
  {numCoefficients : Nat} {record : IntegralRecord α}

/-! ## One record -/

theorem insertChecked_of_fits (fits : record.MaskFits numCoefficients) :
    insertChecked numCoefficients set record = set.insert record := by
  unfold insertChecked
  cases given : record.mask with
  | none => rfl
  | some mask => exact if_neg (Nat.not_lt.mpr (fits mask given))

theorem insertChecked_of_not_fits (set : IntegralSet α)
    (misfit : ¬ record.MaskFits numCoefficients) :
    ∃ mask, record.mask = some mask ∧ insertChecked numCoefficients set record =
      .error (.configuration (.longMask record.kind mask.length numCoefficients)) := by
  cases given : record.mask with
  | none =>
      refine absurd ?_ misfit
      intro mask declared
      cases given.symm.trans declared
  | some mask =>
      have long : numCoefficients < mask.length := by
        refine Nat.not_le.mp fun short => misfit ?_
        intro other declared
        cases given.symm.trans declared
        exact short
      refine ⟨mask, rfl, ?_⟩
      rw [insertChecked, given]
      exact if_pos long

/-- What building does with one record: it goes on iff the mask of the record fits and nothing of
its kind and subdomain was taken. -/
theorem Holds.insertChecked_cases (holds : Holds taken set) (numCoefficients : Nat)
    (record : IntegralRecord α) :
    (¬ (record.MaskFits numCoefficients ∧ ¬ Declared taken record.kind record.subdomain) ∧
      ∃ cause, insertChecked numCoefficients set record = .error cause) ∨
    ((record.MaskFits numCoefficients ∧ ¬ Declared taken record.kind record.subdomain) ∧
      ∃ grown, insertChecked numCoefficients set record = .ok grown ∧
        Holds (taken ++ [record]) grown) := by
  by_cases fits : record.MaskFits numCoefficients
  · rw [insertChecked_of_fits fits]
    rcases holds.insert_cases record with ⟨declared, refused⟩ | ⟨fresh, accepted⟩
    · exact Or.inl ⟨fun both => both.2 declared, _, refused⟩
    · exact Or.inr ⟨⟨fits, fresh⟩, _, accepted, holds.put fresh⟩
  · rcases insertChecked_of_not_fits set fits with ⟨mask, _, refused⟩
    exact Or.inl ⟨fun both => fits both.1, _, refused⟩

/-! ## Many records -/

/-- Records that can be added to those taken. -/
structure Registrable (numCoefficients : Nat) (taken records : List (IntegralRecord α)) :
    Prop where
  fits : ∀ record ∈ records, record.MaskFits numCoefficients
  fresh : ∀ record ∈ records, ¬ Declared taken record.kind record.subdomain
  apart : records.Pairwise Apart

theorem registrable_nil (numCoefficients : Nat) (taken : List (IntegralRecord α)) :
    Registrable numCoefficients taken [] := by
  refine ⟨?_, ?_, List.Pairwise.nil⟩
  · simp
  · simp

theorem registrable_cons :
    Registrable numCoefficients taken (record :: records) ↔
      (record.MaskFits numCoefficients ∧ ¬ Declared taken record.kind record.subdomain) ∧
        Registrable numCoefficients (taken ++ [record]) records := by
  constructor
  · rintro ⟨fits, fresh, apart⟩
    rcases List.pairwise_cons.mp apart with ⟨fromFirst, later⟩
    refine ⟨⟨fits record List.mem_cons_self, fresh record List.mem_cons_self⟩, ?_, ?_, later⟩
    · exact fun other among => fits other (List.mem_cons_of_mem record among)
    · intro other among declared
      rcases declared_concat.mp declared with before | same
      · exact fresh other (List.mem_cons_of_mem record among) before
      · exact fromFirst other among same
  · rintro ⟨⟨fitsFirst, freshFirst⟩, fits, fresh, apart⟩
    refine ⟨List.forall_mem_cons.mpr ⟨fitsFirst, fits⟩, ?_, ?_⟩
    · refine List.forall_mem_cons.mpr ⟨freshFirst, ?_⟩
      exact fun other among before => fresh other among (declared_concat.mpr (Or.inl before))
    · refine List.pairwise_cons.mpr ⟨?_, apart⟩
      exact fun other among same => fresh other among (declared_concat.mpr (Or.inr same))

theorem registrable_of_perm {other : List (IntegralRecord α)} (perm : records.Perm other)
    (registrable : Registrable numCoefficients taken records) :
    Registrable numCoefficients taken other where
  fits := fun record among => registrable.fits record (perm.mem_iff.mpr among)
  fresh := fun record among => registrable.fresh record (perm.mem_iff.mpr among)
  apart := (perm.pairwise_iff Apart.symm).mp registrable.apart

/-- Records are added to a registry as long as they can be, and all of them are there at the end. -/
theorem Holds.foldlM_cases (holds : Holds taken set) (numCoefficients : Nat)
    (records : List (IntegralRecord α)) :
    (¬ Registrable numCoefficients taken records ∧
      ∃ cause, records.foldlM (insertChecked numCoefficients) set = .error cause) ∨
    (Registrable numCoefficients taken records ∧
      ∃ grown, records.foldlM (insertChecked numCoefficients) set = .ok grown ∧
        Holds (taken ++ records) grown) := by
  -- By induction on the records: the first is taken or not, and what follows builds on it.
  induction records generalizing taken set with
  | nil =>
      refine Or.inr ⟨registrable_nil numCoefficients taken, set, rfl, ?_⟩
      rwa [List.append_nil]
  | cons record later ih =>
      rw [registrable_cons, List.foldlM_cons]
      rcases holds.insertChecked_cases numCoefficients record with
        ⟨barred, cause, refused⟩ | ⟨admitted, grown, accepted, grows⟩
      · refine Or.inl ⟨fun both => barred both.1, cause, ?_⟩
        rw [refused]
        rfl
      · rw [accepted]
        rcases ih grows with ⟨barred, cause, refused⟩ | ⟨rest, whole, all, holdsAll⟩
        · exact Or.inl ⟨fun both => barred both.2, cause, refused⟩
        · refine Or.inr ⟨⟨admitted, rest⟩, whole, all, ?_⟩
          rwa [List.append_assoc, List.singleton_append] at holdsAll

theorem exists_ofRecords_iff :
    (∃ set, ofRecords records numCoefficients = .ok set) ↔
      Registrable numCoefficients [] records := by
  constructor
  · rintro ⟨set, built⟩
    rcases holds_empty.foldlM_cases numCoefficients records with
      ⟨_, cause, refused⟩ | ⟨registrable, _⟩
    · cases refused.symm.trans built
    · exact registrable
  · intro registrable
    rcases holds_empty.foldlM_cases numCoefficients records with
      ⟨barred, _⟩ | ⟨_, set, built, _⟩
    · exact absurd registrable barred
    · exact ⟨set, built⟩

theorem Holds.ofRecords (built : ofRecords records numCoefficients = .ok set) :
    Holds records set := by
  rcases holds_empty.foldlM_cases numCoefficients records with
    ⟨_, cause, refused⟩ | ⟨_, grown, done, holds⟩
  · cases refused.symm.trans built
  · cases done.symm.trans built
    exact holds

theorem ofRecords_of_perm {other : List (IntegralRecord α)} (perm : records.Perm other)
    (built : ofRecords records numCoefficients = .ok set) :
    ofRecords other numCoefficients = .ok set := by
  have registrable := registrable_of_perm perm (exists_ofRecords_iff.mp ⟨set, built⟩)
  rcases exists_ofRecords_iff.mpr registrable with ⟨same, alsoBuilt⟩
  rw [alsoBuilt, (Holds.ofRecords built).eq_of_perm (Holds.ofRecords alsoBuilt) perm]

/-- A list of records has a registry iff all masks fit and no two records are for one kind and
subdomain. The registry has exactly the integrals of the records, and any rearrangement of the list
has the same registry or, like the list, none. -/
theorem registry_ignores_order (records : List (IntegralRecord α)) (numCoefficients : Nat) :
    ((∃ set, ofRecords records numCoefficients = .ok set) ↔
      (∀ record ∈ records, ∀ mask, record.mask = some mask → mask.length ≤ numCoefficients) ∧
      records.Pairwise fun a b => ¬ (a.kind = b.kind ∧ a.subdomain = b.subdomain)) ∧
    (∀ set, ofRecords records numCoefficients = .ok set → ∀ kind, (set.integrals kind).Perm
      ((records.filter fun record => record.kind = kind).map toIntegral)) ∧
    ∀ other, other.Perm records → ∀ set,
      ofRecords other numCoefficients = .ok set ↔ ofRecords records numCoefficients = .ok set := by
  refine ⟨?_, ?_, ?_⟩
  · rw [exists_ofRecords_iff]
    constructor
    · intro registrable
      exact ⟨registrable.fits, registrable.apart⟩
    · rintro ⟨fits, apart⟩
      refine ⟨fits, ?_, apart⟩
      rintro record _ ⟨earlier, among, _⟩
      exact List.not_mem_nil among
  · intro set built
    exact Holds.ofRecords built
  · intro other perm set
    exact ⟨ofRecords_of_perm perm, ofRecords_of_perm perm.symm⟩

/-- Three records in another order give the registry of the first order. With a second record for
vertices, or with one coefficient less, no order gives any. -/
theorem registry_ignores_order_three_records :
    let marked : IntegralRecord Nat := ⟨.cell, some 3, ⟨fun block _ _ _ => block⟩, some [true]⟩
    let default : IntegralRecord Nat := ⟨.cell, none, ⟨fun block _ _ _ => block.reverse⟩, none⟩
    let corners : IntegralRecord Nat := ⟨.vertex, none, ⟨fun block _ _ _ => block⟩, none⟩
    (∃ set, ofRecords [marked, default, corners] 1 = .ok set ∧
      ofRecords [corners, marked, default] 1 = .ok set ∧
      set.integrals .cell = [default.toIntegral, marked.toIntegral]) ∧
    (¬ ∃ set, ofRecords [corners, marked, corners] 1 = .ok set) ∧
    ¬ ∃ set, ofRecords [default, marked] 0 = .ok set := by
  intro marked default corners
  rcases registry_ignores_order [marked, default, corners] 1 with ⟨_, _, sameAs⟩
  have built : ∃ set, ofRecords [marked, default, corners] 1 = .ok set ∧
      set.integrals .cell = [default.toIntegral, marked.toIntegral] :=
    ⟨_, rfl, rfl⟩
  rcases built with ⟨set, built, cells⟩
  have rearranged : ([corners] ++ [marked, default]).Perm ([marked, default] ++ [corners]) :=
    List.perm_append_comm
  refine ⟨⟨set, built, (sameAs _ rearranged set).mpr built, cells⟩, ?_, ?_⟩
  · rw [(registry_ignores_order [corners, marked, corners] 1).1]
    rintro ⟨_, apart⟩
    exact (List.pairwise_cons.mp apart).1 corners (by simp) ⟨rfl, rfl⟩
  · rw [(registry_ignores_order [default, marked] 0).1]
    rintro ⟨fits, _⟩
    exact absurd (fits marked (by simp) [true] rfl) (by decide)

end IntegralSet
end FormAssembly
