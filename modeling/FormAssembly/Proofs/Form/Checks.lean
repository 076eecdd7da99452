import FormAssembly.Form.Basic
import FormAssembly.Proofs.Coefficient.Labels
import FormAssembly.Proofs.Integral.Permutations

/-!
# Checks in building a form

A form is built from a descriptor in four stages, each of which may fail: its rank is compared with
the number of argument spaces, then the meshes of these are compared, coefficients are declared one
after another, and integrals are registered one after another. The last two stop at the first item
that is refused, after all before it have been accepted (`foldlM_eq_error_iff`). What is refused is
said for coefficients in `CoefficientSet.foldlM_declareNext_eq_error_iff`, for integrals in
`IntegralSet.ofRecords_eq_error_iff` and for all stages in `Form.build_eq_ok_iff` and
`Form.build_eq_error_iff`.
-/

namespace FormAssembly

variable {α : Type}

/-! ## Stages that fail -/

section Failures

variable {ι σ τ : Type} {e : Error}

theorem bind_eq_ok_iff {x : Except Error σ} {f : σ → Except Error τ} {b : τ} :
    (x >>= f) = .ok b ↔ ∃ a, x = .ok a ∧ f a = .ok b := by
  cases x <;> simp [bind, Except.bind]

theorem bind_eq_error_iff {x : Except Error σ} {f : σ → Except Error τ} :
    (x >>= f) = .error e ↔ x = .error e ∨ ∃ a, x = .ok a ∧ f a = .error e := by
  cases x <;> simp [bind, Except.bind]

/-- A pass over a list fails iff it fails at one of the items, after it has gone well before. -/
theorem foldlM_eq_error_iff {f : σ → ι → Except Error σ} {items : List ι} {s : σ} :
    items.foldlM f s = .error e ↔
      ∃ earlier item later reached, items = earlier ++ item :: later ∧
        earlier.foldlM f s = .ok reached ∧ f reached item = .error e := by
  induction items generalizing s with
  | nil => simp [pure, Except.pure]
  | cons first rest ih =>
      rw [List.foldlM_cons, bind_eq_error_iff]
      constructor
      · rintro (failed | ⟨next, begun, failed⟩)
        · exact ⟨[], first, rest, s, rfl, rfl, failed⟩
        · rcases ih.mp failed with ⟨earlier, item, later, reached, rfl, passed, failed⟩
          refine ⟨first :: earlier, item, later, reached, rfl, ?_, failed⟩
          rw [List.foldlM_cons]
          exact bind_eq_ok_iff.mpr ⟨next, begun, passed⟩
      · -- The item that fails is the first, or it comes after that in the rest.
        rintro ⟨_ | ⟨_, earlier⟩, item, later, reached, split, passed, failed⟩
        · cases split
          cases passed
          exact Or.inl failed
        · cases split
          rw [List.foldlM_cons] at passed
          rcases bind_eq_ok_iff.mp passed with ⟨next, begun, passed⟩
          exact Or.inr ⟨next, begun, ih.mpr ⟨earlier, item, later, reached, rfl, passed, failed⟩⟩

end Failures

/-! ## Coefficients -/

namespace CoefficientSet

variable {set last : CoefficientSet α} {entries : List (String × Nat)} {e : Error}

/-- The slot of a coefficient that has been declared and not yet bound. -/
def unbound (entry : String × Nat) : CoefficientSlot α :=
  ⟨entry.1, none, entry.2⟩

/-- The registry with one coefficient more. -/
def declareNext (set : CoefficientSet α) (entry : String × Nat) : Except Error (CoefficientSet α) :=
  (set.declare entry.1 entry.2).map (·.2)

theorem declareNext_cases (set : CoefficientSet α) (entry : String × Nat) :
    (entry.1 ∈ set.slots.map (·.name) ∧
      set.declareNext entry = .error (.configuration (.repeatedCoefficient entry.1))) ∨
    (entry.1 ∉ set.slots.map (·.name) ∧ ∃ next, set.declareNext entry = .ok next ∧
      next.slots = set.slots ++ [unbound entry]) := by
  rcases set.declare_cases entry.1 entry.2 with ⟨taken, failed⟩ | ⟨fresh, next, made, grown⟩
  · exact Or.inl ⟨taken, by rw [declareNext, failed]; rfl⟩
  · exact Or.inr ⟨fresh, next, by rw [declareNext, made]; rfl, grown⟩

theorem slots_of_foldlM (declared : entries.foldlM declareNext set = .ok last) :
    last.slots = set.slots ++ entries.map unbound := by
  induction entries generalizing set with
  | nil =>
      cases declared
      simp
  | cons entry later ih =>
      rw [List.foldlM_cons] at declared
      rcases set.declareNext_cases entry with ⟨_, failed⟩ | ⟨_, next, made, grown⟩
      · rw [failed] at declared
        cases declared
      · rw [made] at declared
        simp [ih declared, grown]

theorem names_of_foldlM (declared : entries.foldlM declareNext empty = .ok last) :
    last.slots.map (·.name) = entries.map (·.1) := by
  simp [slots_of_foldlM declared, empty, unbound, Function.comp_def]

/-- Coefficients are all accepted iff their names are distinct. -/
theorem exists_foldlM_declareNext_iff :
    (∃ last, entries.foldlM declareNext (empty : CoefficientSet α) = .ok last) ↔
      (entries.map (·.1)).Nodup := by
  constructor
  · rintro ⟨last, declared⟩
    simpa [names_of_foldlM declared] using last.names_nodup
  · intro distinct
    -- A failure would show a name that stands in the list a second time.
    cases declared : entries.foldlM declareNext (empty : CoefficientSet α) with
    | ok last => exact ⟨last, rfl⟩
    | error cause =>
        rcases foldlM_eq_error_iff.mp declared with
          ⟨earlier, entry, later, reached, rfl, passed, failed⟩
        rcases reached.declareNext_cases entry with ⟨taken, _⟩ | ⟨_, next, made, _⟩
        · rw [names_of_foldlM passed] at taken
          rw [List.map_append, List.map_cons] at distinct
          exact absurd rfl ((List.nodup_append.mp distinct).2.2 _ taken _ List.mem_cons_self)
        · cases made.symm.trans failed

/-- Otherwise the first name that was declared before is refused. -/
theorem foldlM_declareNext_eq_error_iff :
    entries.foldlM declareNext (empty : CoefficientSet α) = .error e ↔
      ∃ earlier entry later, entries = earlier ++ entry :: later ∧
        (earlier.map (·.1)).Nodup ∧ entry.1 ∈ earlier.map (·.1) ∧
        e = .configuration (.repeatedCoefficient entry.1) := by
  rw [foldlM_eq_error_iff]
  constructor
  · rintro ⟨earlier, entry, later, reached, split, passed, failed⟩
    have distinct := exists_foldlM_declareNext_iff.mp ⟨reached, passed⟩
    rcases reached.declareNext_cases entry with ⟨taken, refused⟩ | ⟨_, next, made, _⟩
    · rw [names_of_foldlM passed] at taken
      cases refused.symm.trans failed
      exact ⟨earlier, entry, later, split, distinct, taken, rfl⟩
    · cases made.symm.trans failed
  · rintro ⟨earlier, entry, later, split, distinct, taken, rfl⟩
    rcases (exists_foldlM_declareNext_iff (α := α)).mpr distinct with ⟨reached, passed⟩
    rw [← names_of_foldlM passed] at taken
    rcases reached.declareNext_cases entry with ⟨_, refused⟩ | ⟨fresh, _⟩
    · exact ⟨earlier, entry, later, reached, split, passed, refused⟩
    · exact absurd taken fresh

end CoefficientSet

/-! ## Integrals -/

namespace IntegralSet

variable {records earlier : List (IntegralRecord α)} {record : IntegralRecord α}
  {numCoefficients : Nat} {e : Error}

/-- Why a record is refused after others have been accepted. Its mask is looked at before its
subdomain. -/
inductive Refused (numCoefficients : Nat) (earlier : List (IntegralRecord α))
    (record : IntegralRecord α) : Misconfiguration → Prop where
  | longMask {mask : List Bool} (given : record.mask = some mask)
      (long : numCoefficients < mask.length) :
      Refused numCoefficients earlier record
        (.longMask record.kind mask.length numCoefficients)
  | repeated (fits : record.MaskFits numCoefficients)
      (declared : Declared earlier record.kind record.subdomain) :
      Refused numCoefficients earlier record
        (.repeatedIntegral record.kind record.subdomain)

theorem registrable_after_nil_iff :
    Registrable numCoefficients [] records ↔
      (∀ record ∈ records, record.MaskFits numCoefficients) ∧
        records.Pairwise IntegralRecord.Apart := by
  constructor
  · intro registrable
    exact ⟨registrable.fits, registrable.apart⟩
  · rintro ⟨fits, apart⟩
    refine ⟨fits, ?_, apart⟩
    rintro record _ ⟨earlier, among, _⟩
    exact List.not_mem_nil among

theorem Refused.insertChecked {set : IntegralSet α} {cause : Misconfiguration}
    (refused : Refused numCoefficients earlier record cause) (holds : Holds earlier set) :
    insertChecked numCoefficients set record = .error (.configuration cause) := by
  cases refused with
  | longMask given long =>
      rw [IntegralSet.insertChecked, given]
      exact if_pos long
  | repeated fits declared =>
      rw [insertChecked_of_fits fits]
      rcases holds.insert_cases record with ⟨_, failed⟩ | ⟨fresh, _⟩
      · exact failed
      · exact absurd declared fresh

theorem insertChecked_eq_error_iff {set : IntegralSet α} (holds : Holds earlier set) :
    insertChecked numCoefficients set record = .error e ↔
      ∃ cause, e = .configuration cause ∧ Refused numCoefficients earlier record cause := by
  constructor
  · intro failed
    -- The mask is checked first, so with a long mask it does not matter what was registered.
    by_cases fits : record.MaskFits numCoefficients
    · rw [insertChecked_of_fits fits] at failed
      rcases holds.insert_cases record with ⟨declared, refused⟩ | ⟨_, accepted⟩
      · cases refused.symm.trans failed
        exact ⟨_, rfl, .repeated fits declared⟩
      · cases accepted.symm.trans failed
    · rcases insertChecked_of_not_fits set fits with ⟨mask, given, refused⟩
      cases refused.symm.trans failed
      refine ⟨_, rfl, .longMask given (Nat.not_le.mp fun short => fits ?_)⟩
      intro other alsoGiven
      cases given.symm.trans alsoGiven
      exact short
  · rintro ⟨cause, rfl, refused⟩
    exact refused.insertChecked holds

/-- A list of records is refused at the first that cannot be registered after those before it. -/
theorem ofRecords_eq_error_iff :
    ofRecords records numCoefficients = .error e ↔
      ∃ earlier record later, records = earlier ++ record :: later ∧
        Registrable numCoefficients [] earlier ∧
        ∃ cause, e = .configuration cause ∧ Refused numCoefficients earlier record cause := by
  unfold ofRecords
  rw [foldlM_eq_error_iff]
  refine exists_congr fun earlier => exists_congr fun record => exists_congr fun later => ?_
  constructor
  · rintro ⟨reached, split, passed, failed⟩
    have holds : Holds earlier reached := Holds.ofRecords passed
    exact ⟨split, exists_ofRecords_iff.mp ⟨reached, passed⟩,
      (insertChecked_eq_error_iff holds).mp failed⟩
  · rintro ⟨split, registrable, refused⟩
    rcases exists_ofRecords_iff.mpr registrable with ⟨reached, passed⟩
    exact ⟨reached, split, passed,
      (insertChecked_eq_error_iff (Holds.ofRecords passed)).mpr refused⟩

end IntegralSet

/-! ## Stages of building -/

namespace Form

variable {descriptor : Descriptor α} {spaces : List (ArgumentSpace α)}

/-- All spaces are on one mesh. -/
def OneMesh (spaces : List (ArgumentSpace α)) : Prop :=
  ∀ a ∈ spaces, ∀ b ∈ spaces, a.mesh.same b.mesh

theorem onOneMesh_iff : onOneMesh spaces = true ↔ OneMesh spaces := by
  have same (a b : ArgumentSpace α) :
      a.mesh.same b.mesh = true ↔ a.mesh.label = b.mesh.label := decide_eq_true_iff
  cases spaces with
  | nil => simp [onOneMesh, OneMesh]
  | cons first rest =>
      simp only [onOneMesh, List.all_eq_true, OneMesh, same]
      constructor
      · intro asFirst
        have all : ∀ a ∈ first :: rest, first.mesh.label = a.mesh.label :=
          List.forall_mem_cons.mpr ⟨rfl, asFirst⟩
        exact fun a among b also => (all a among).symm.trans (all b also)
      · intro equal a among
        exact equal first List.mem_cons_self a (List.mem_cons_of_mem first among)

theorem build_of_rank_ne (ranks : descriptor.rank ≠ spaces.length) :
    (build descriptor spaces).value =
      .error (.configuration (.argumentCount descriptor.rank spaces.length)) := by
  simp [build, ranks, throw, throwThe, MonadExceptOf.throw, bind, Except.bind]

theorem build_of_not_oneMesh (ranks : descriptor.rank = spaces.length)
    (mixed : ¬ OneMesh spaces) :
    (build descriptor spaces).value = .error (.configuration .mixedMeshes) := by
  have mixed : onOneMesh spaces = false := by
    simpa using onOneMesh_iff.not.mpr mixed
  simp [build, ranks, mixed, throw, throwThe, MonadExceptOf.throw, bind, Except.bind]

/-- If the spaces are right, it remains to take the coefficients and then the integrals. -/
theorem build_of_oneMesh (ranks : descriptor.rank = spaces.length) (one : OneMesh spaces) :
    (build descriptor spaces).value = (do
      let coefficients ← declareCoefficients descriptor
      let integrals ← IntegralSet.ofRecords descriptor.integrals descriptor.numCoefficients
      return ⟨descriptor, spaces, none, .const none, coefficients, integrals, none⟩) := by
  have one : onOneMesh spaces = true := onOneMesh_iff.mpr one
  cases declared : declareCoefficients descriptor with
  | error cause => simp [build, ranks, one, declared, bind, Except.bind]
  | ok coefficients =>
      cases collected : IntegralSet.ofRecords descriptor.integrals descriptor.numCoefficients with
      | error cause => simp [build, ranks, one, declared, collected, bind, Except.bind]
      | ok integrals =>
          simp [build, ranks, one, declared, collected, bind, Except.bind, pure, Except.pure]

theorem build_eq_ok_iff {form : Form α} :
    (build descriptor spaces).value = .ok form ↔
      descriptor.rank = spaces.length ∧ OneMesh spaces ∧
      declareCoefficients descriptor = .ok form.coefficients ∧
      IntegralSet.ofRecords descriptor.integrals descriptor.numCoefficients =
        .ok form.integrals ∧
      form = ⟨descriptor, spaces, none, .const none, form.coefficients, form.integrals, none⟩ := by
  by_cases ranks : descriptor.rank = spaces.length
  · by_cases one : OneMesh spaces
    · simp only [build_of_oneMesh ranks one, bind_eq_ok_iff, ranks, one, true_and]
      constructor
      · rintro ⟨coefficients, declared, integrals, collected, made⟩
        cases made
        exact ⟨declared, collected, rfl⟩
      · rintro ⟨declared, collected, made⟩
        exact ⟨_, declared, _, collected, congrArg Except.ok made.symm⟩
    · simp [build_of_not_oneMesh ranks one, one]
  · simp [build_of_rank_ne ranks, ranks]

theorem build_eq_error_iff {e : Error} :
    (build descriptor spaces).value = .error e ↔
      (descriptor.rank ≠ spaces.length ∧
        e = .configuration (.argumentCount descriptor.rank spaces.length)) ∨
      (descriptor.rank = spaces.length ∧ ¬ OneMesh spaces ∧ e = .configuration .mixedMeshes) ∨
      (descriptor.rank = spaces.length ∧ OneMesh spaces ∧
        (declareCoefficients descriptor = .error e ∨
          (∃ coefficients, declareCoefficients descriptor = .ok coefficients) ∧
            IntegralSet.ofRecords descriptor.integrals descriptor.numCoefficients = .error e)) := by
  by_cases ranks : descriptor.rank = spaces.length
  · by_cases one : OneMesh spaces
    · simp [build_of_oneMesh ranks one, bind_eq_error_iff, ranks, one, pure, Except.pure]
    · simp [build_of_not_oneMesh ranks one, ranks, one, eq_comm]
  · simp [build_of_rank_ne ranks, ranks, eq_comm]

end Form
end FormAssembly
