import FormAssembly.Proofs.Form.CoefficientNames

/-!
# Building of forms

Whether a form can be built over some argument spaces can be told from the steps in which it was
declared, and so can what is reported if not: `Form.FirstDefect` lists what may be wrong with a
declaration in the order in which it is looked at. A form that can be built has what was declared
and nothing else (`Form.build_or_first_defect`).
-/

namespace FormAssembly

variable {α : Type}

/-! ## Declarations -/

/-- The integral that a step declares. -/
def DeclarationStep.record? : DeclarationStep α → Option (IntegralRecord α)
  | .integral record => some record
  | _ => none

/-- The integrals that some steps declare, in their order. -/
def DeclarationStep.records (steps : List (DeclarationStep α)) : List (IntegralRecord α) :=
  steps.filterMap record?

namespace FormDeclaration

theorem integrals_foldl_extend (d : FormDeclaration α) (steps : List (DeclarationStep α)) :
    (steps.foldl extend d).integrals = d.integrals ++ DeclarationStep.records steps := by
  induction steps generalizing d with
  | nil => simp [DeclarationStep.records]
  | cons step later ih =>
      rw [List.foldl_cons, ih]
      cases step <;>
        simp [extend, coefficient, coefficientAt, integral, DeclarationStep.records,
          DeclarationStep.record?, List.filterMap_cons]

theorem integrals_ofSteps (rank : Nat) (steps : List (DeclarationStep α)) :
    (ofSteps rank steps).integrals = DeclarationStep.records steps := by
  simpa [ofSteps] using integrals_foldl_extend { rank } steps

theorem rank_ofSteps (rank : Nat) (steps : List (DeclarationStep α)) :
    (ofSteps rank steps).rank = rank :=
  List.foldlRecOn steps extend (motive := fun d => d.rank = rank) rfl
    fun d kept step _ => by cases step <;> exact kept

end FormDeclaration

/-! ## Outcomes of building -/

namespace Form

variable {spaces : List (ArgumentSpace α)}

/-- What is reported of a declaration over some spaces: the first thing wrong with it, all that is
looked at before being right. -/
inductive FirstDefect (rank : Nat) (coefficients : List (String × Nat))
    (records : List (IntegralRecord α)) (spaces : List (ArgumentSpace α)) :
    Misconfiguration → Prop where
  | argumentCount (ranks : rank ≠ spaces.length) :
      FirstDefect rank coefficients records spaces (.argumentCount rank spaces.length)
  | mixedMeshes (ranks : rank = spaces.length) (mixed : ¬ OneMesh spaces) :
      FirstDefect rank coefficients records spaces .mixedMeshes
  /-- A name comes again for the first time. -/
  | coefficient (ranks : rank = spaces.length) (one : OneMesh spaces)
      {earlier later : List (String × Nat)} {entry : String × Nat}
      (split : coefficients = earlier ++ entry :: later)
      (distinct : (earlier.map (·.1)).Nodup) (taken : entry.1 ∈ earlier.map (·.1)) :
      FirstDefect rank coefficients records spaces (.repeatedCoefficient entry.1)
  /-- A record is refused after all before it have been accepted. -/
  | integral (ranks : rank = spaces.length) (one : OneMesh spaces)
      (distinct : (coefficients.map (·.1)).Nodup)
      {earlier later : List (IntegralRecord α)} {record : IntegralRecord α}
      {cause : Misconfiguration} (split : records = earlier ++ record :: later)
      (accepted : IntegralSet.Registrable coefficients.length [] earlier)
      (refused : IntegralSet.Refused coefficients.length earlier record cause) :
      FirstDefect rank coefficients records spaces cause

variable {d : FormDeclaration α}

theorem exists_declareCoefficients_iff :
    (∃ coefficients, declareCoefficients d.toDescriptor = .ok coefficients) ↔
      (d.coefficients.map (·.1)).Nodup := by
  rw [declareCoefficients_toDescriptor]
  exact CoefficientSet.exists_foldlM_declareNext_iff

theorem declareCoefficients_eq_error_iff {e : Error} :
    declareCoefficients d.toDescriptor = .error e ↔
      ∃ earlier entry later, d.coefficients = earlier ++ entry :: later ∧
        (earlier.map (·.1)).Nodup ∧ entry.1 ∈ earlier.map (·.1) ∧
        e = .configuration (.repeatedCoefficient entry.1) := by
  rw [declareCoefficients_toDescriptor]
  exact CoefficientSet.foldlM_declareNext_eq_error_iff

theorem exists_build_iff :
    (∃ form, (build d.toDescriptor spaces).value = .ok form) ↔
      d.rank = spaces.length ∧ OneMesh spaces ∧ (d.coefficients.map (·.1)).Nodup ∧
      IntegralSet.Registrable d.coefficients.length [] d.integrals := by
  rw [← exists_declareCoefficients_iff, ← IntegralSet.exists_ofRecords_iff]
  constructor
  · rintro ⟨form, built⟩
    rcases build_eq_ok_iff.mp built with ⟨ranks, one, declared, collected, _⟩
    exact ⟨ranks, one, ⟨_, declared⟩, ⟨_, collected⟩⟩
  · rintro ⟨ranks, one, ⟨coefficients, declared⟩, ⟨integrals, collected⟩⟩
    exact ⟨⟨d.toDescriptor, spaces, none, .const none, coefficients, integrals, none⟩,
      build_eq_ok_iff.mpr ⟨ranks, one, declared, collected, rfl⟩⟩

theorem build_eq_error_iff_firstDefect {e : Error} :
    (build d.toDescriptor spaces).value = .error e ↔
      ∃ cause, e = .configuration cause ∧
        FirstDefect d.rank d.coefficients d.integrals spaces cause := by
  rw [build_eq_error_iff, exists_declareCoefficients_iff, declareCoefficients_eq_error_iff,
    IntegralSet.ofRecords_eq_error_iff]
  constructor
  · rintro (⟨ranks, rfl⟩ | ⟨ranks, mixed, rfl⟩ | ⟨ranks, one, coefficients | integrals⟩)
    · exact ⟨_, rfl, .argumentCount ranks⟩
    · exact ⟨_, rfl, .mixedMeshes ranks mixed⟩
    · rcases coefficients with ⟨earlier, entry, later, split, distinct, taken, rfl⟩
      exact ⟨_, rfl, .coefficient ranks one split distinct taken⟩
    · rcases integrals with
        ⟨distinct, earlier, record, later, split, accepted, cause, rfl, refused⟩
      exact ⟨_, rfl, .integral ranks one distinct split accepted refused⟩
  · rintro ⟨cause, rfl, defect⟩
    cases defect with
    | argumentCount ranks => exact Or.inl ⟨ranks, rfl⟩
    | mixedMeshes ranks mixed => exact Or.inr (Or.inl ⟨ranks, mixed, rfl⟩)
    | coefficient ranks one split distinct taken =>
        exact Or.inr (Or.inr ⟨ranks, one, Or.inl ⟨_, _, _, split, distinct, taken, rfl⟩⟩)
    | integral ranks one distinct split accepted refused =>
        exact Or.inr (Or.inr ⟨ranks, one,
          Or.inr ⟨distinct, _, _, _, split, accepted, _, rfl, refused⟩⟩)

/-- Whatever was declared in whatever steps, a form can be built over some spaces iff there are as
many of them as its rank says, all on one mesh, no coefficient has the name of another, no mask is
longer than the list of coefficients and no two integrals are for one kind and subdomain. If not,
the first of these that fails is reported as a misconfiguration. If so, the form has the declared
coefficients in their order, unbound and with their positions, and the declared integrals. It has
neither a mesh of its own nor markers. -/
theorem build_or_first_defect (rank : Nat) (steps : List (DeclarationStep α))
    (spaces : List (ArgumentSpace α)) :
    let coefficients := DeclarationStep.declared 0 steps
    let records := DeclarationStep.records steps
    let result := (build (FormDeclaration.ofSteps rank steps).toDescriptor spaces).value
    ((∃ form, result = .ok form) ↔
      rank = spaces.length ∧ (∀ a ∈ spaces, ∀ b ∈ spaces, a.mesh.same b.mesh) ∧
      (coefficients.map (·.1)).Nodup ∧
      (∀ record ∈ records, ∀ mask, record.mask = some mask → mask.length ≤ coefficients.length) ∧
      records.Pairwise fun a b => ¬ (a.kind = b.kind ∧ a.subdomain = b.subdomain)) ∧
    (∀ e, result = .error e ↔
      ∃ cause, e = .configuration cause ∧ FirstDefect rank coefficients records spaces cause) ∧
    ∀ form, result = .ok form →
      form.spaces = spaces ∧
      form.coefficients.slots =
        coefficients.map (fun (name, position) => ⟨name, none, position⟩) ∧
      (∀ kind, (form.integrals.integrals kind).Perm
        ((records.filter fun record => record.kind = kind).map IntegralRecord.toIntegral)) ∧
      form.ownMesh = none ∧ (∀ kind, form.markers kind = none) ∧ form.resolver = none := by
  intro coefficients records result
  have recorded : (FormDeclaration.ofSteps rank steps).coefficients = coefficients :=
    FormDeclaration.coefficients_ofSteps rank steps
  have listed : (FormDeclaration.ofSteps rank steps).integrals = records :=
    FormDeclaration.integrals_ofSteps rank steps
  have ranked := FormDeclaration.rank_ofSteps rank steps
  refine ⟨?_, ?_, ?_⟩
  · rw [exists_build_iff, recorded, listed, ranked, IntegralSet.registrable_after_nil_iff]
    rfl
  · intro e
    rw [build_eq_error_iff_firstDefect, recorded, listed, ranked]
  · intro form built
    rcases build_eq_ok_iff.mp built with ⟨_, _, declared, collected, made⟩
    rw [declareCoefficients_toDescriptor, recorded] at declared
    have slots : form.coefficients.slots = coefficients.map CoefficientSet.unbound :=
      CoefficientSet.slots_of_foldlM declared
    have holds : IntegralSet.Holds records form.integrals := by
      rw [← listed]
      exact IntegralSet.Holds.ofRecords collected
    refine ⟨?_, slots, holds, ?_, ?_, ?_⟩
    · rw [made]
    · rw [made]
    · intro kind
      rw [made]
      exact PerKind.get_const none kind
    · rw [made]

/-- A repeated name goes before a long mask, and a long mask before a repeated subdomain. -/
theorem build_or_first_defect_several_at_once :
    let plain : IntegralRecord Nat := ⟨.cell, none, ⟨fun block _ _ _ => block⟩, none⟩
    let masked : IntegralRecord Nat := { plain with mask := some [true, true, true] }
    let outcome (steps : List (DeclarationStep Nat)) :=
      (build (FormDeclaration.ofSteps 0 steps).toDescriptor []).value
    outcome [.coefficient "f", .integral masked, .coefficientAt "f" 7] =
      .error (.configuration (.repeatedCoefficient "f")) ∧
    outcome [.coefficient "f", .integral plain, .integral masked] =
      .error (.configuration (.longMask .cell 3 1)) ∧
    ∃ form, outcome [.coefficient "f", .integral plain, .coefficientAt "g" 7] = .ok form ∧
      form.coefficients.slots = [⟨"f", none, 0⟩, ⟨"g", none, 7⟩] := by
  intro plain masked outcome
  have one : OneMesh ([] : List (ArgumentSpace Nat)) := by simp [OneMesh]
  refine ⟨?_, ?_, ?_⟩
  · have split : [("f", 0), ("f", 7)] = [("f", 0)] ++ ("f", 7) :: [] := rfl
    have again : FirstDefect 0 [("f", 0), ("f", 7)] [masked] [] (.repeatedCoefficient "f") :=
      .coefficient rfl one split (by decide) (by decide)
    exact ((build_or_first_defect 0 _ []).2.1 _).mpr ⟨_, rfl, again⟩
  · have split : [plain, masked] = [plain] ++ masked :: [] := rfl
    have accepted : IntegralSet.Registrable 1 [] [plain] := by
      rw [IntegralSet.registrable_after_nil_iff]
      exact ⟨by simp [IntegralRecord.MaskFits, plain], List.pairwise_singleton _ _⟩
    have given : masked.mask = some [true, true, true] := rfl
    have refused : IntegralSet.Refused 1 [plain] masked (.longMask .cell 3 1) :=
      .longMask given (by decide)
    have long : FirstDefect 0 [("f", 0)] [plain, masked] [] (.longMask .cell 3 1) :=
      .integral rfl one (by decide) split accepted refused
    exact ((build_or_first_defect 0 _ []).2.1 _).mpr ⟨_, rfl, long⟩
  · rcases build_or_first_defect 0
        [.coefficient "f", .integral plain, .coefficientAt "g" 7] [] with ⟨buildable, _, contents⟩
    have built := buildable.mpr ⟨rfl, by simp, by decide, by simp [DeclarationStep.records,
      DeclarationStep.record?, List.filterMap_cons, plain], List.pairwise_singleton _ _⟩
    rcases built with ⟨form, built⟩
    exact ⟨form, built, (contents form built).2.1⟩

end Form
end FormAssembly
