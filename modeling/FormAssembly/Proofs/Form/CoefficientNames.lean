import FormAssembly.Proofs.Form.Checks

/-!
# Names of coefficients

A form knows its coefficients twice: its descriptor has the names as they were declared, where a
repeated name stands for its last place, and its registry has slots for them, where names are
distinct. Every form that can be built has the labels of its declaration in its registry
(`Form.declaredBy_of_build`), changes to the form leave them there, and so the two ways to look up a
coefficient agree.
-/

namespace FormAssembly

variable {α : Type}

/-! ## Histories of a declaration -/

/-- A step in declaring a form. -/
inductive DeclarationStep (α : Type) where
  | coefficient (name : String)
  | coefficientAt (name : String) (originalPosition : Nat)
  | integral (record : IntegralRecord α)

/-- Names and original positions of the coefficients that some steps declare. The first of them has
number `place`, which is its original position if no other is given. -/
def DeclarationStep.declared : (place : Nat) → List (DeclarationStep α) → List (String × Nat)
  | _, [] => []
  | place, .coefficient name :: later => (name, place) :: declared (place + 1) later
  | place, .coefficientAt name position :: later => (name, position) :: declared (place + 1) later
  | place, .integral _ :: later => declared place later

namespace FormDeclaration

variable {d : FormDeclaration α}

def extend (d : FormDeclaration α) : DeclarationStep α → FormDeclaration α
  | .coefficient name => d.coefficient name
  | .coefficientAt name position => d.coefficientAt name position
  | .integral record => d.integral record

/-- What is declared in some steps. -/
def ofSteps (rank : Nat) (steps : List (DeclarationStep α)) : FormDeclaration α :=
  steps.foldl extend { rank }

theorem coefficients_foldl_extend (d : FormDeclaration α) (steps : List (DeclarationStep α)) :
    (steps.foldl extend d).coefficients =
      d.coefficients ++ DeclarationStep.declared d.coefficients.length steps := by
  -- The place of a coefficient is the number of those declared before, so `d` has to vary.
  induction steps generalizing d with
  | nil => simp [DeclarationStep.declared]
  | cons step later ih =>
      cases step with
      | coefficient name =>
          simp [ih, extend, coefficient, coefficientAt, DeclarationStep.declared]
      | coefficientAt name position =>
          simp [ih, extend, coefficientAt, DeclarationStep.declared]
      | integral record =>
          simp [ih, extend, integral, DeclarationStep.declared]

theorem coefficients_ofSteps (rank : Nat) (steps : List (DeclarationStep α)) :
    (ofSteps rank steps).coefficients = DeclarationStep.declared 0 steps := by
  simpa [ofSteps] using coefficients_foldl_extend { rank } steps

theorem name_of_indexOf? {name : String} {i : Nat} :
    d.indexOf? name = some i → d.coefficients[i]?.map (·.1) = some name := by
  intro found
  rcases Option.map_eq_some_iff.mp found with ⟨⟨entry, place⟩, last, rfl⟩
  have named : entry.1 = name := by
    simpa using List.find?_some last
  have there : d.coefficients[place]? = some entry := by
    simpa [List.mem_zipIdx_iff_getElem?] using List.mem_of_find?_eq_some last
  simp [there, named]

/-- If no name is declared twice, a name stands for the only place that has it. -/
theorem indexOf?_eq_some_iff {name : String} {i : Nat} :
    (d.coefficients.map (·.1)).Nodup →
      (d.indexOf? name = some i ↔ d.coefficients[i]?.map (·.1) = some name) := by
  intro nodup
  constructor
  · exact name_of_indexOf?
  · intro there
    rcases Option.map_eq_some_iff.mp there with ⟨entry, here, named⟩
    have listed : (entry, i) ∈ d.coefficients.zipIdx.reverse := by
      simpa [List.mem_zipIdx_iff_getElem?] using here
    cases found : d.indexOf? name with
    | none =>
        have other := List.find?_eq_none.mp (Option.map_eq_none_iff.mp found) _ listed
        exact absurd named (by simpa using other)
    | some place =>
        -- The place that was found has the name too.
        have same : (d.coefficients.map (·.1))[i]? = (d.coefficients.map (·.1))[place]? := by
          simpa [there] using (name_of_indexOf? found).symm
        have inside : i < (d.coefficients.map (·.1)).length := by
          simpa using (List.getElem?_eq_some_iff.mp here).1
        obtain rfl : i = place := (List.getElem?_inj inside nodup).mp same
        rfl

end FormDeclaration

namespace Form

/-! ## Building -/

/-- To go through the places of a list is to go through the list. -/
theorem foldlM_range_length {ι σ : Type} {entries : List ι} {f : σ → Nat → Except Error σ}
    {g : σ → ι → Except Error σ} {s : σ} :
    (∀ i entry, entries[i]? = some entry → ∀ s, f s i = g s entry) →
      (List.range entries.length).foldlM f s = entries.foldlM g s := by
  -- What `f` does at the later places is what it does one place further on in the shorter list.
  induction entries generalizing f s with
  | nil =>
      intro _
      rfl
  | cons entry entries ih =>
      intro same
      have first : f s 0 = g s entry := same 0 entry rfl s
      have later (next : σ) :
          (List.range entries.length).foldlM (fun s i => f s (i + 1)) next =
            entries.foldlM g next :=
        ih fun i other there s => same (i + 1) other there s
      simp [List.range_succ_eq_map, List.foldlM_cons, List.foldlM_map, first, later]

/-- The coefficients of a declaration are declared in the registry one after another. -/
theorem declareCoefficients_toDescriptor (d : FormDeclaration α) :
    declareCoefficients d.toDescriptor =
      d.coefficients.foldlM CoefficientSet.declareNext CoefficientSet.empty := by
  refine foldlM_range_length ?_
  intro i entry there set
  -- A declaration has a name and a position at each place, so no default is used.
  have name : d.toDescriptor.coefficientName i = some entry.1 := by
    simp [FormDeclaration.toDescriptor, there]
  have position : d.toDescriptor.originalPosition i = some entry.2 := by
    simp [FormDeclaration.toDescriptor, there]
  simp only [name, position, Option.getD_some, CoefficientSet.declareNext]
  cases set.declare entry.1 entry.2 <;> rfl

/-- The coefficients of a form are those of a declaration, in its descriptor and in its registry. -/
structure DeclaredBy (form : Form α) (d : FormDeclaration α) : Prop where
  descriptor : form.descriptor = d.toDescriptor
  labels : form.coefficients.labels = d.coefficients

theorem declaredBy_of_build {d : FormDeclaration α} {spaces : List (ArgumentSpace α)}
    {form : Form α} :
    (build d.toDescriptor spaces).value = .ok form → form.DeclaredBy d ∧ form.resolver = none := by
  intro built
  rcases build_eq_ok_iff.mp built with ⟨_, _, declared, _, made⟩
  rw [declareCoefficients_toDescriptor] at declared
  have labels : form.coefficients.labels = d.coefficients := by
    simp [CoefficientSet.labels, CoefficientSet.slots_of_foldlM declared, CoefficientSet.empty,
      CoefficientSet.unbound, Function.comp_def]
  refine ⟨⟨?_, labels⟩, ?_⟩
  · rw [made]
  · rw [made]

end Form

/-! ## Changes to a form -/

/-- What can be done to a form that has been built, short of declaring further coefficients. -/
inductive FormChange (α : Type) where
  | bind (i : Nat) (f : CoefficientFunction α)
  | bindByName (name : String) (f : CoefficientFunction α)
  /-- Installs a resolver or removes it. -/
  | setResolver (resolver : Option Resolver)
  | setMesh (mesh : Mesh α)
  | setMarkers (kind : IntegralKind) (markers : Option Markers)

/-- The resolver that a change installs, or that it removes one. -/
def FormChange.resolver? : FormChange α → Option (Option Resolver)
  | .setResolver resolver => some resolver
  | _ => none

/-- The resolver that is installed after some changes to a form without resolver. -/
def FormChange.lastResolver (changes : List (FormChange α)) : Option Resolver :=
  (changes.filterMap resolver?).getLast?.getD none

namespace Form

/-- The form after a change. A binding that fails leaves it as it was. -/
def change (form : Form α) : FormChange α → Form α
  | .bind i f => (form.coefficients.set i f).toOption.elim form form.withCoefficients
  | .bindByName name f =>
      (form.coefficients.setByName name f).toOption.elim form form.withCoefficients
  | .setResolver resolver => form.setResolver resolver
  | .setMesh mesh => (form.setMesh mesh).value
  | .setMarkers kind markers => (form.setMarkers kind markers).value

/-- Changes bind functions, but they do not touch what is declared. -/
theorem DeclaredBy.change {form : Form α} {d : FormDeclaration α} (change : FormChange α) :
    form.DeclaredBy d → (form.change change).DeclaredBy d := by
  intro declared
  cases change with
  | bind i f =>
      cases bound : form.coefficients.set i f with
      | error cause => simpa [Form.change, bound, Except.toOption] using declared
      | ok next =>
          have labels := (CoefficientSet.labels_of_set bound).trans declared.labels
          simpa [Form.change, bound, Except.toOption] using
            (⟨declared.descriptor, labels⟩ : (form.withCoefficients next).DeclaredBy d)
  | bindByName name f =>
      cases bound : form.coefficients.setByName name f with
      | error cause => simpa [Form.change, bound, Except.toOption] using declared
      | ok next =>
          have labels := (CoefficientSet.labels_of_setByName bound).trans declared.labels
          simpa [Form.change, bound, Except.toOption] using
            (⟨declared.descriptor, labels⟩ : (form.withCoefficients next).DeclaredBy d)
  | setResolver resolver => exact ⟨declared.descriptor, declared.labels⟩
  | setMesh mesh => exact ⟨declared.descriptor, declared.labels⟩
  | setMarkers kind markers => exact ⟨declared.descriptor, declared.labels⟩

theorem DeclaredBy.foldl_change {form : Form α} {d : FormDeclaration α}
    (changes : List (FormChange α)) :
    form.DeclaredBy d → (changes.foldl Form.change form).DeclaredBy d := by
  induction changes generalizing form with
  | nil => exact id
  | cons first later ih =>
      intro declared
      exact ih (declared.change first)

theorem resolver_change (form : Form α) (change : FormChange α) :
    (form.change change).resolver = change.resolver?.getD form.resolver := by
  cases change with
  | bind i f =>
      cases bound : form.coefficients.set i f <;>
        simp [Form.change, bound, Except.toOption, FormChange.resolver?, withCoefficients]
  | bindByName name f =>
      cases bound : form.coefficients.setByName name f <;>
        simp [Form.change, bound, Except.toOption, FormChange.resolver?, withCoefficients]
  | setResolver resolver => rfl
  | setMesh mesh => rfl
  | setMarkers kind markers => rfl

theorem resolver_foldl_change (form : Form α) (changes : List (FormChange α)) :
    (changes.foldl change form).resolver =
      (changes.filterMap FormChange.resolver?).getLast?.getD form.resolver := by
  induction changes generalizing form with
  | nil => rfl
  | cons first later ih =>
      have now := form.resolver_change first
      cases installs : first.resolver? with
      | none => simp [ih, now, installs]
      | some resolver => simp [ih, now, installs, List.getLast?_cons]

/-! ## Lookups -/

theorem coefficientIndex_eq (form : Form α) (name : String) :
    form.coefficientIndex name =
      ((form.resolver.elim form.descriptor.coefficientIndex Resolver.indexOf?) name).elim
        (.error (.coefficientNotFound name)) .ok := by
  cases installed : form.resolver with
  | none =>
      cases found : form.descriptor.coefficientIndex name <;>
        simp [coefficientIndex, installed, found]
  | some resolver =>
      cases found : resolver.indexOf? name <;> simp [coefficientIndex, installed, found]

theorem coefficientName_eq (form : Form α) (i : Nat) :
    form.coefficientName i =
      ((form.resolver.elim form.descriptor.coefficientName Resolver.nameOf?) i).elim
        (.error (.coefficientIndexNotFound i)) .ok := by
  cases installed : form.resolver with
  | none =>
      cases found : form.descriptor.coefficientName i <;>
        simp [coefficientName, installed, found]
  | some resolver =>
      cases found : resolver.nameOf? i <;> simp [coefficientName, installed, found]

namespace DeclaredBy

variable {form : Form α} {d : FormDeclaration α}

theorem nodup (declared : form.DeclaredBy d) : (d.coefficients.map (·.1)).Nodup := by
  simpa [declared.labels] using form.coefficients.nodup_labels

theorem size (declared : form.DeclaredBy d) : form.coefficients.size = d.coefficients.length := by
  simpa [declared.labels] using form.coefficients.length_labels.symm

theorem nameOf? (declared : form.DeclaredBy d) (i : Nat) :
    form.coefficients.nameOf? i = d.coefficients[i]?.map (·.1) := by
  simp [CoefficientSet.nameOf?_eq, declared.labels]

theorem originalPosition (declared : form.DeclaredBy d) (i : Nat) :
    form.originalCoefficientPosition i =
      d.coefficients[i]?.elim (.error (.indexOutOfRange .coefficient i d.coefficients.length))
        fun entry => .ok entry.2 := by
  simp [originalCoefficientPosition, CoefficientSet.originalPosition_eq, declared.labels,
    declared.size]

theorem coefficientName_eq_ok_iff (declared : form.DeclaredBy d)
    (unresolved : form.resolver = none) (i : Nat) (name : String) :
    form.coefficientName i = .ok name ↔ form.coefficients.nameOf? i = some name := by
  simp only [coefficientName_eq, declared.descriptor, unresolved, Option.elim_none,
    FormDeclaration.toDescriptor, declared.nameOf?]
  cases d.coefficients[i]?.map (·.1) <;> simp

/-- The descriptor answers with the last place of a name and the registry with the first; but a
form is not built if a name has two. -/
theorem coefficientIndex_eq_ok_iff (declared : form.DeclaredBy d)
    (unresolved : form.resolver = none) (i : Nat) (name : String) :
    form.coefficientIndex name = .ok i ↔ form.coefficients.indexOf? name = some i := by
  have byDescriptor : form.coefficientIndex name = .ok i ↔ d.indexOf? name = some i := by
    simp only [coefficientIndex_eq, declared.descriptor, unresolved, Option.elim_none,
      FormDeclaration.toDescriptor]
    cases d.indexOf? name <;> simp
  calc form.coefficientIndex name = .ok i
      ↔ d.indexOf? name = some i := byDescriptor
    _ ↔ d.coefficients[i]?.map (·.1) = some name :=
        FormDeclaration.indexOf?_eq_some_iff declared.nodup
    _ ↔ form.coefficients.nameOf? i = some name := by
        simp only [declared.nameOf?]
    _ ↔ form.coefficients.indexOf? name = some i := CoefficientSet.indexOf?_eq_some_iff.symm

theorem inverse (declared : form.DeclaredBy d) (unresolved : form.resolver = none) (i : Nat)
    (name : String) : form.coefficientName i = .ok name ↔ form.coefficientIndex name = .ok i := by
  calc form.coefficientName i = .ok name
      ↔ form.coefficients.nameOf? i = some name :=
        declared.coefficientName_eq_ok_iff unresolved i name
    _ ↔ form.coefficients.indexOf? name = some i := CoefficientSet.indexOf?_eq_some_iff.symm
    _ ↔ form.coefficientIndex name = .ok i :=
        (declared.coefficientIndex_eq_ok_iff unresolved i name).symm

theorem exists_coefficientName_iff (declared : form.DeclaredBy d)
    (unresolved : form.resolver = none) (i : Nat) :
    (∃ name, form.coefficientName i = .ok name) ↔ i < form.coefficients.size := by
  calc (∃ name, form.coefficientName i = .ok name)
      ↔ ∃ name, form.coefficients.nameOf? i = some name :=
        exists_congr fun name => declared.coefficientName_eq_ok_iff unresolved i name
    _ ↔ (form.coefficients.nameOf? i).isSome := Option.isSome_iff_exists.symm
    _ ↔ i < form.coefficients.size := by
        simp [declared.nameOf?, declared.size]

theorem exists_coefficientIndex_iff (declared : form.DeclaredBy d)
    (unresolved : form.resolver = none) (name : String) :
    (∃ i, form.coefficientIndex name = .ok i) ↔ name ∈ d.coefficients.map (·.1) := by
  calc (∃ i, form.coefficientIndex name = .ok i)
      ↔ ∃ i, form.coefficientName i = .ok name :=
        exists_congr fun i => (declared.inverse unresolved i name).symm
    _ ↔ ∃ i, form.coefficients.nameOf? i = some name :=
        exists_congr fun i => declared.coefficientName_eq_ok_iff unresolved i name
    _ ↔ name ∈ d.coefficients.map (·.1) := by
        simp only [declared.nameOf?, List.mem_iff_getElem?, List.getElem?_map]

end DeclaredBy

/-- However a form was declared, if it can be built, and whatever is done to it afterwards: its
registry has the coefficients as they were declared, with the positions recorded for them. Without
a resolver, the lookups by name and by number are inverse to each other, know exactly the declared
coefficients, and agree with the registry. With a resolver they give its answers and no others. -/
theorem coefficient_lookups_agree {rank : Nat} {steps : List (DeclarationStep α)}
    {spaces : List (ArgumentSpace α)} {form : Form α}
    (built : (build (FormDeclaration.ofSteps rank steps).toDescriptor spaces).value = .ok form)
    (changes : List (FormChange α)) :
    let declared := DeclarationStep.declared 0 steps
    let after := changes.foldl change form
    after.coefficients.size = declared.length ∧
    (∀ i, after.coefficients.nameOf? i = declared[i]?.map (·.1)) ∧
    (∀ i, after.originalCoefficientPosition i =
      declared[i]?.elim (.error (.indexOutOfRange .coefficient i declared.length))
        fun entry => .ok entry.2) ∧
    (FormChange.lastResolver changes = none →
      (∀ i, (∃ name, after.coefficientName i = .ok name) ↔ i < after.coefficients.size) ∧
      (∀ name, (∃ i, after.coefficientIndex name = .ok i) ↔ name ∈ declared.map (·.1)) ∧
      ∀ i name,
        (after.coefficientName i = .ok name ↔ after.coefficientIndex name = .ok i) ∧
        (after.coefficientName i = .ok name ↔ after.coefficients.nameOf? i = some name) ∧
        (after.coefficientIndex name = .ok i ↔ after.coefficients.indexOf? name = some i)) ∧
    ∀ resolver, FormChange.lastResolver changes = some resolver →
      (∀ name, after.coefficientIndex name =
        (resolver.indexOf? name).elim (.error (.coefficientNotFound name)) .ok) ∧
      ∀ i, after.coefficientName i =
        (resolver.nameOf? i).elim (.error (.coefficientIndexNotFound i)) .ok := by
  intro names after
  rcases declaredBy_of_build built with ⟨atFirst, unresolved⟩
  -- From here on it is enough that the form is still that of its declaration.
  have declared : after.DeclaredBy (.ofSteps rank steps) := atFirst.foldl_change changes
  have last : after.resolver = FormChange.lastResolver changes := by
    simpa [unresolved, FormChange.lastResolver] using form.resolver_foldl_change changes
  have recorded : (FormDeclaration.ofSteps rank steps).coefficients = names :=
    FormDeclaration.coefficients_ofSteps rank steps
  refine ⟨recorded ▸ declared.size, recorded ▸ declared.nameOf?,
    recorded ▸ declared.originalPosition, ?_, ?_⟩
  · intro removed
    have unresolvedAfter : after.resolver = none := last.trans removed
    refine ⟨declared.exists_coefficientName_iff unresolvedAfter,
      recorded ▸ declared.exists_coefficientIndex_iff unresolvedAfter, ?_⟩
    intro i name
    exact ⟨declared.inverse unresolvedAfter i name,
      declared.coefficientName_eq_ok_iff unresolvedAfter i name,
      declared.coefficientIndex_eq_ok_iff unresolvedAfter i name⟩
  · intro resolver installed
    have resolved : after.resolver = some resolver := last.trans installed
    refine ⟨?_, ?_⟩
    · intro name
      simp [coefficientIndex_eq, resolved]
    · intro i
      simp [coefficientName_eq, resolved]

theorem coefficient_lookups_agree_renamed_for_a_while :
    let steps : List (DeclarationStep Nat) := [.coefficient "kappa", .coefficientAt "f" 5]
    let renamed : List (FormChange Nat) :=
      [.setResolver (some (.ofNames ["g"])), .bindByName "f" (.constant #[7])]
    ∃ form, (build (FormDeclaration.ofSteps 0 steps).toDescriptor []).value = .ok form ∧
      (renamed.foldl change form).coefficientName 0 = .ok "g" ∧
      let after := (renamed ++ [FormChange.setResolver none]).foldl change form
      after.coefficientName 0 = .ok "kappa" ∧ after.coefficientIndex "f" = .ok 1 ∧
        after.originalCoefficientPosition 1 = .ok 5 := by
  intro steps renamed
  cases built : (build (FormDeclaration.ofSteps 0 steps).toDescriptor []).value with
  | error cause => cases built
  | ok form =>
      refine ⟨form, rfl, ?_, ?_⟩
      · rcases coefficient_lookups_agree built renamed with ⟨_, _, _, _, resolved⟩
        exact (resolved _ rfl).2 0
      · rcases coefficient_lookups_agree built (renamed ++ [.setResolver none]) with
          ⟨_, names, positions, lookups, _⟩
        rcases lookups rfl with ⟨_, _, agree⟩
        refine ⟨?_, ?_, ?_⟩
        · exact (agree 0 "kappa").2.1.mpr (names 0)
        · exact (agree 1 "f").1.mp ((agree 1 "f").2.1.mpr (names 1))
        · exact positions 1

end Form
end FormAssembly
