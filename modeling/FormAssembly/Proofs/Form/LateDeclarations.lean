import FormAssembly.Proofs.Assembly.SharedBuffers
import FormAssembly.Proofs.Coefficient.Histories
import FormAssembly.Proofs.Form.CoefficientNames

/-!
# Coefficients declared after building

The registry of a form can still be reached when the form has been built, and it takes further
coefficients then. They come behind those of the descriptor, which stay what they are
(`Form.labels_foldl_call`), but the two parts of the form that go by the descriptor do not hear of
them. Without a resolver, the form has neither a name nor a number for them. The masks of integrals
end before them; an integral without a mask reads every slot there is, so its kernel gets their
values behind those that it was declared for (`Form.late_declarations`).
-/

namespace FormAssembly

variable {α : Type}

/-! ## Calls -/

/-- What can be called on a form that has been built. -/
inductive FormCall (α : Type) where
  | change (c : FormChange α)
  /-- Declares one more coefficient in the registry of the form. -/
  | declare (name : String) (originalPosition : Nat)

namespace FormCall

def change? : FormCall α → Option (FormChange α)
  | .change c => some c
  | .declare _ _ => none

/-- Name and original position of the coefficient that a call declares. -/
def declared? : FormCall α → Option (String × Nat)
  | .change _ => none
  | .declare name position => some (name, position)

end FormCall

/-- Of some labels those that a registry with the names `known` accepts one after another. -/
def newLabels (known : List String) : List (String × Nat) → List (String × Nat)
  | [] => []
  | label :: later =>
      if label.1 ∈ known then newLabels known later
      else label :: newLabels (known ++ [label.1]) later

theorem newLabels_eq_nil_iff {known : List String} {labels : List (String × Nat)} :
    newLabels known labels = [] ↔ ∀ label ∈ labels, label.1 ∈ known := by
  -- One label with a new name is enough for the list not to be empty, so `known` need not vary.
  induction labels with
  | nil => simp [newLabels]
  | cons label later ih =>
      by_cases old : label.1 ∈ known
      · simp [newLabels, old, ih]
      · simp [newLabels, old]

namespace CoefficientSet

theorem names_eq (set : CoefficientSet α) : set.slots.map (·.name) = set.labels.map (·.1) := by
  simp [labels, Function.comp_def]

theorem labels_after_declare (set : CoefficientSet α) (name : String) (position : Nat) :
    (set.after (.declare name position)).labels =
      set.labels ++ newLabels (set.labels.map (·.1)) [(name, position)] := by
  rcases set.after_declare_cases name position with ⟨taken, _, same⟩ | ⟨fresh, _, grown⟩
  · rw [names_eq] at taken
    rw [same, newLabels, if_pos taken, newLabels, List.append_nil]
  · rw [names_eq] at fresh
    rw [newLabels, if_neg fresh, newLabels, labels, grown, List.map_append]
    rfl

end CoefficientSet

namespace Form

/-- The form after a call. A declaration that fails leaves it as it was. -/
def call (form : Form α) : FormCall α → Form α
  | .change c => form.change c
  | .declare name position =>
      form.withCoefficients (form.coefficients.after (.declare name position))

/-! ## One call -/

/-- A form with the same declaration, spaces and integrals. -/
structure Alike (form next : Form α) : Prop where
  descriptor : next.descriptor = form.descriptor
  spaces : next.spaces = form.spaces
  integrals : next.integrals = form.integrals

theorem Alike.trans {form next last : Form α} (first : form.Alike next) (later : next.Alike last) :
    form.Alike last where
  descriptor := later.descriptor.trans first.descriptor
  spaces := later.spaces.trans first.spaces
  integrals := later.integrals.trans first.integrals

theorem alike_withCoefficients (form : Form α) (coefficients : CoefficientSet α) :
    form.Alike (form.withCoefficients coefficients) :=
  ⟨rfl, rfl, rfl⟩

/-- A binding replaces the registry by one with the same labels, or nothing. -/
theorem change_keeps (form : Form α) (c : FormChange α) :
    form.Alike (form.change c) ∧ (form.change c).coefficients.labels = form.coefficients.labels := by
  cases c with
  | bind i f =>
      cases bound : form.coefficients.set i f with
      | error cause => simp [change, bound, Except.toOption, Alike.mk]
      | ok next =>
          rw [change, bound]
          exact ⟨form.alike_withCoefficients next, CoefficientSet.labels_of_set bound⟩
  | bindByName name f =>
      cases bound : form.coefficients.setByName name f with
      | error cause => simp [change, bound, Except.toOption, Alike.mk]
      | ok next =>
          rw [change, bound]
          exact ⟨form.alike_withCoefficients next, CoefficientSet.labels_of_setByName bound⟩
  | setResolver resolver => exact ⟨⟨rfl, rfl, rfl⟩, rfl⟩
  | setMesh mesh => exact ⟨⟨rfl, rfl, rfl⟩, rfl⟩
  | setMarkers kind markers => exact ⟨⟨rfl, rfl, rfl⟩, rfl⟩

theorem alike_call (form : Form α) (c : FormCall α) : form.Alike (form.call c) := by
  cases c with
  | change c => exact (form.change_keeps c).1
  | declare name position => exact form.alike_withCoefficients _

/-! ## All calls -/

theorem alike_foldl_call (form : Form α) (calls : List (FormCall α)) :
    form.Alike (calls.foldl call form) := by
  induction calls generalizing form with
  | nil => exact ⟨rfl, rfl, rfl⟩
  | cons first later ih => exact (form.alike_call first).trans (ih (form.call first))

/-- The labels are those from before, with the new ones in the order of their declaration. -/
theorem labels_foldl_call (form : Form α) (calls : List (FormCall α)) :
    (calls.foldl call form).coefficients.labels = form.coefficients.labels ++
      newLabels (form.coefficients.labels.map (·.1)) (calls.filterMap FormCall.declared?) := by
  -- A label that the first call adds is known to all later calls, so the form has to vary.
  induction calls generalizing form with
  | nil => simp [newLabels]
  | cons first later ih =>
      rw [List.foldl_cons, ih]
      cases first with
      | change c =>
          rw [show form.call (.change c) = form.change c from rfl, (form.change_keeps c).2]
          rfl
      | declare name position =>
          have now : (form.call (.declare name position)).coefficients.labels =
              form.coefficients.labels ++
                newLabels (form.coefficients.labels.map (·.1)) [(name, position)] :=
            form.coefficients.labels_after_declare name position
          rw [now]
          by_cases old : name ∈ form.coefficients.labels.map (·.1)
          · simp [newLabels, old, FormCall.declared?]
          · simp [newLabels, old, FormCall.declared?]

theorem resolver_foldl_call (form : Form α) (calls : List (FormCall α)) :
    (calls.foldl call form).resolver =
      ((calls.filterMap FormCall.change?).filterMap FormChange.resolver?).getLast?.getD
        form.resolver := by
  induction calls generalizing form with
  | nil => rfl
  | cons first later ih =>
      rw [List.foldl_cons, ih]
      cases first with
      | declare name position => rfl
      | change c =>
          have now : (form.call (.change c)).resolver = c.resolver?.getD form.resolver :=
            form.resolver_change c
          cases installs : c.resolver? with
          | none => simp [now, installs, FormCall.change?]
          | some resolver => simp [now, installs, FormCall.change?, List.getLast?_cons]

/-! ## Lookups -/

section Lookups

variable {after : Form α} {d : FormDeclaration α} {late : List (String × Nat)}

/-- The descriptor answers with the declared coefficients, whatever else the registry has. -/
theorem coefficientName_eq_ok_iff_declared (descriptor : after.descriptor = d.toDescriptor)
    (unresolved : after.resolver = none) (i : Nat) (name : String) :
    after.coefficientName i = .ok name ↔ d.coefficients[i]?.map (·.1) = some name := by
  simp only [coefficientName_eq, descriptor, unresolved, Option.elim_none,
    FormDeclaration.toDescriptor]
  cases d.coefficients[i]?.map (·.1) <;> simp

theorem coefficientIndex_eq_ok_iff_declared (descriptor : after.descriptor = d.toDescriptor)
    (unresolved : after.resolver = none) (name : String) (i : Nat) :
    after.coefficientIndex name = .ok i ↔ d.indexOf? name = some i := by
  simp only [coefficientIndex_eq, descriptor, unresolved, Option.elim_none,
    FormDeclaration.toDescriptor]
  cases d.indexOf? name <;> simp

/-- The declared coefficients are the front of the registry. -/
theorem coefficientName_eq_ok_iff_front (descriptor : after.descriptor = d.toDescriptor)
    (labels : after.coefficients.labels = d.coefficients ++ late)
    (unresolved : after.resolver = none) (i : Nat) (name : String) :
    after.coefficientName i = .ok name ↔
      i < d.coefficients.length ∧ after.coefficients.nameOf? i = some name := by
  rw [coefficientName_eq_ok_iff_declared descriptor unresolved, CoefficientSet.nameOf?_eq, labels]
  by_cases inside : i < d.coefficients.length
  · rw [List.getElem?_append_left inside, and_iff_right inside]
  · simp [inside]

theorem coefficientIndex_eq_ok_iff_front (descriptor : after.descriptor = d.toDescriptor)
    (labels : after.coefficients.labels = d.coefficients ++ late)
    (unresolved : after.resolver = none) (name : String) (i : Nat) :
    after.coefficientIndex name = .ok i ↔
      i < d.coefficients.length ∧ after.coefficients.indexOf? name = some i := by
  -- Names are distinct in the registry and so at its front, where a name has then one place.
  have nodup : (d.coefficients.map (·.1)).Nodup := by
    have all := after.coefficients.nodup_labels
    rw [labels, List.map_append] at all
    exact all.of_append_left
  calc after.coefficientIndex name = .ok i
      ↔ d.indexOf? name = some i :=
        coefficientIndex_eq_ok_iff_declared descriptor unresolved name i
    _ ↔ d.coefficients[i]?.map (·.1) = some name := FormDeclaration.indexOf?_eq_some_iff nodup
    _ ↔ after.coefficientName i = .ok name :=
        (coefficientName_eq_ok_iff_declared descriptor unresolved i name).symm
    _ ↔ i < d.coefficients.length ∧ after.coefficients.nameOf? i = some name :=
        coefficientName_eq_ok_iff_front descriptor labels unresolved i name
    _ ↔ i < d.coefficients.length ∧ after.coefficients.indexOf? name = some i :=
        and_congr_right fun _ => CoefficientSet.indexOf?_eq_some_iff.symm

end Lookups

end Form

/-! ## Integrals -/

/-- A coefficient behind the end of a mask is not read. -/
theorem Integral.usesCoefficient_of_length_le {integral : Integral α} {mask : List Bool} {i : Nat}
    (masked : integral.mask = some mask) (behind : mask.length ≤ i) :
    integral.usesCoefficient i = false := by
  simp [usesCoefficient, masked, List.getElem?_eq_none behind]

/-- No mask of a form that can be built goes beyond the coefficients of the declaration. -/
theorem Form.mask_length_le_of_build {d : FormDeclaration α} {spaces : List (ArgumentSpace α)}
    {form : Form α} (built : (build d.toDescriptor spaces).value = .ok form)
    {kind : IntegralKind} {integral : Integral α} {mask : List Bool}
    (among : integral ∈ form.integrals.integrals kind) (masked : integral.mask = some mask) :
    mask.length ≤ d.coefficients.length := by
  rcases build_eq_ok_iff.mp built with ⟨_, _, _, collected, _⟩
  have fits := (IntegralSet.exists_ofRecords_iff.mp ⟨_, collected⟩).fits
  rcases (IntegralSet.Holds.ofRecords collected).mem_integrals_iff.mp among with
    ⟨record, listed, _, rfl⟩
  exact fits record listed mask masked

namespace Pass

variable {integral : Integral α} {cell : PointId} {coordinates : Array α}

/-- Gathering goes on behind some entries if none of them ended it. -/
theorem gatherFrom_append (front late : List (CoefficientSlot α × Nat)) (buffer : Array α) :
    gatherFrom integral cell coordinates (front ++ late) buffer =
      match gatherFrom integral cell coordinates front buffer with
      | (.ok (), longer) => gatherFrom integral cell coordinates late longer
      | (.error cause, same) => (.error cause, same) := by
  -- Each entry leaves a longer buffer for the later ones, so `buffer` has to vary.
  induction front generalizing buffer with
  | nil => rfl
  | cons entry front ih =>
      rw [List.cons_append, gatherFrom_cons, gatherFrom_cons]
      split
      · cases Assembly.slotValues cell coordinates entry with
        | error cause => rfl
        | ok values => exact ih (buffer ++ values)
      · exact ih buffer

theorem gatherFrom_of_unread {entries : List (CoefficientSlot α × Nat)}
    (unread : ∀ entry ∈ entries, integral.usesCoefficient entry.2 = false) (buffer : Array α) :
    gatherFrom integral cell coordinates entries buffer = (.ok (), buffer) := by
  induction entries with
  | nil => rfl
  | cons entry later ih =>
      rcases List.forall_mem_cons.mp unread with ⟨first, others⟩
      rw [gatherFrom_cons, first]
      exact ih others

theorem gatherFrom_take_append_drop (entries : List (CoefficientSlot α × Nat)) (n : Nat)
    (buffer : Array α) :
    gatherFrom integral cell coordinates entries buffer =
      match gatherFrom integral cell coordinates (entries.take n) buffer with
      | (.ok (), longer) => gatherFrom integral cell coordinates (entries.drop n) longer
      | (.error cause, same) => (.error cause, same) := by
  rw [← gatherFrom_append, List.take_append_drop]

end Pass

theorem le_of_mem_drop_zipIdx {σ : Type} {slots : List σ} {n : Nat} {entry : σ × Nat}
    (among : entry ∈ slots.zipIdx.drop n) : n ≤ entry.2 := by
  rcases List.mem_drop_iff_getElem.mp among with ⟨i, _, rfl⟩
  simp

/-- A mask that ends with the front slots lets nothing pass of those behind. -/
theorem Pass.gatherFrom_of_mask {integral : Integral α} {mask : List Bool} {n : Nat}
    (masked : integral.mask = some mask) (short : mask.length ≤ n)
    (slots : List (CoefficientSlot α)) (cell : PointId) (coordinates buffer : Array α) :
    gatherFrom integral cell coordinates slots.zipIdx buffer =
      gatherFrom integral cell coordinates (slots.zipIdx.take n) buffer := by
  have unread : ∀ entry ∈ slots.zipIdx.drop n, integral.usesCoefficient entry.2 = false :=
    fun entry among => Integral.usesCoefficient_of_length_le masked
      (short.trans (le_of_mem_drop_zipIdx among))
  rw [gatherFrom_take_append_drop slots.zipIdx n buffer]
  cases gatherFrom integral cell coordinates (slots.zipIdx.take n) buffer with
  | mk outcome longer =>
      cases outcome with
      | error cause => rfl
      | ok done => exact gatherFrom_of_unread unread longer

/-! ## Together -/

namespace Form

/-- Whatever is called on a form that has been built, its coefficients are those that were declared
for it, and behind them those with new names that the calls have declared; there are none of these
iff no call declares a new name. The descriptor, the spaces and the integrals stay as they are.

Without a resolver, the form's own lookups answer as the registry does, but for the declared
coefficients alone. On a cell, an integral with a mask reads the slots that it was declared to read,
and no other. An integral without one goes on, when it has read the slots of the declared
coefficients, to read all others too. -/
theorem late_declarations {d : FormDeclaration α} {spaces : List (ArgumentSpace α)}
    {form : Form α} (built : (build d.toDescriptor spaces).value = .ok form)
    (calls : List (FormCall α)) :
    let after := calls.foldl call form
    let n := d.coefficients.length
    let late := newLabels (d.coefficients.map (·.1)) (calls.filterMap FormCall.declared?)
    after.coefficients.labels = d.coefficients ++ late ∧
    (late = [] ↔ ∀ name position, FormCall.declare name position ∈ calls →
      name ∈ d.coefficients.map (·.1)) ∧
    after.descriptor = d.toDescriptor ∧ after.spaces = spaces ∧
    after.integrals = form.integrals ∧
    (FormChange.lastResolver (calls.filterMap FormCall.change?) = none →
      ∀ i name,
        (after.coefficientName i = .ok name ↔
          i < n ∧ after.coefficients.nameOf? i = some name) ∧
        (after.coefficientIndex name = .ok i ↔
          i < n ∧ after.coefficients.indexOf? name = some i)) ∧
    ∀ kind, ∀ integral ∈ after.integrals.integrals kind,
      ∀ (cell : PointId) (coordinates buffer : Array α),
        let slots := after.coefficients.slots.zipIdx
        let gathered := Pass.gatherFrom integral cell coordinates
        (∀ mask, integral.mask = some mask →
          mask.length ≤ n ∧ gathered slots buffer = gathered (slots.take n) buffer) ∧
        (integral.mask = none →
          (∀ entry ∈ slots, integral.usesCoefficient entry.2 = true) ∧
          gathered slots buffer =
            match gathered (slots.take n) buffer with
            | (.ok (), longer) => gathered (slots.drop n) longer
            | (.error cause, same) => (.error cause, same)) := by
  intro after n late
  rcases declaredBy_of_build built with ⟨atFirst, unresolved⟩
  rcases build_eq_ok_iff.mp built with ⟨_, _, _, _, made⟩
  -- The form goes by its descriptor and its integrals, and both are those it was built with.
  have alike : form.Alike after := form.alike_foldl_call calls
  have descriptor : after.descriptor = d.toDescriptor :=
    alike.descriptor.trans atFirst.descriptor
  have labels : after.coefficients.labels = d.coefficients ++ late := by
    rw [form.labels_foldl_call calls, atFirst.labels]
  have last : after.resolver =
      FormChange.lastResolver (calls.filterMap FormCall.change?) := by
    rw [form.resolver_foldl_call calls, unresolved, FormChange.lastResolver]
  refine ⟨labels, ?_, descriptor, ?_, alike.integrals, ?_, ?_⟩
  · rw [newLabels_eq_nil_iff]
    simp only [List.mem_filterMap, forall_exists_index, and_imp]
    constructor
    · intro known name position called
      exact known (name, position) _ called rfl
    · rintro known label (c | ⟨name, position⟩) called declares
      · cases declares
      · cases declares
        exact known name position called
  · rw [alike.spaces, made]
  · intro removed i name
    have unresolvedAfter : after.resolver = none := last.trans removed
    exact ⟨coefficientName_eq_ok_iff_front descriptor labels unresolvedAfter i name,
      coefficientIndex_eq_ok_iff_front descriptor labels unresolvedAfter name i⟩
  · intro kind integral among cell coordinates buffer slots gathered
    rw [alike.integrals] at among
    constructor
    · intro mask masked
      have short : mask.length ≤ n := mask_length_le_of_build built among masked
      exact ⟨short, Pass.gatherFrom_of_mask masked short _ cell coordinates buffer⟩
    · intro unmasked
      refine ⟨fun entry _ => by simp [Integral.usesCoefficient, unmasked], ?_⟩
      exact Pass.gatherFrom_take_append_drop slots n buffer

/-- A functional of one coefficient. Its integral over cells reads all coefficients and its integral
over facets the first. -/
def functionalOfOne : FormDeclaration Nat :=
  ⟨0, [("f", 2)], [⟨.cell, none, ⟨fun block _ _ _ => block⟩, none⟩,
    ⟨.exteriorFacet, none, ⟨fun block _ _ _ => block⟩, some [true]⟩]⟩

/-- The functional as it is built. -/
def builtOfOne : Form Nat :=
  ⟨functionalOfOne.toDescriptor, [], none, .const none, ⟨[⟨"f", none, 2⟩], by decide⟩,
    .put (.put .empty .cell ⟨none, ⟨fun block _ _ _ => block⟩, none⟩) .exteriorFacet
      ⟨none, ⟨fun block _ _ _ => block⟩, some [true]⟩, none⟩

theorem build_functionalOfOne : (build functionalOfOne.toDescriptor []).value = .ok builtOfOne :=
  rfl

/-- A second coefficient is declared with a name of its own, after an attempt with that of the
first, and both are bound. -/
def declareSecond : List (FormCall Nat) :=
  [.declare "f" 9, .change (.bindByName "f" (.constant #[5])), .declare "g" 7,
    .change (.bindByName "g" (.constant #[6]))]

theorem late_declarations_second :
    let after := declareSecond.foldl call builtOfOne
    (build functionalOfOne.toDescriptor []).value = .ok builtOfOne ∧
      after.coefficients.labels = [("f", 2), ("g", 7)] ∧
      after.coefficientIndex "f" = .ok 0 ∧ after.coefficientName 1 ≠ .ok "g" ∧
      ∃ onFacets ∈ after.integrals.integrals .exteriorFacet,
        Pass.gatherFrom onFacets (.ofIndex 0) #[] after.coefficients.slots.zipIdx #[] =
          Pass.gatherFrom onFacets (.ofIndex 0) #[]
            (after.coefficients.slots.zipIdx.take 1) #[] := by
  intro after
  rcases late_declarations build_functionalOfOne declareSecond with
    ⟨labels, _, _, _, _, lookups, integrals⟩
  have unresolved : FormChange.lastResolver (declareSecond.filterMap FormCall.change?) = none := rfl
  refine ⟨build_functionalOfOne, labels.trans (by decide +kernel),
    (lookups unresolved 0 "f").2.mpr ⟨by decide, by decide +kernel⟩, ?_,
    ⟨none, ⟨fun block _ _ _ => block⟩, some [true]⟩, List.mem_singleton.mpr rfl, ?_⟩
  · intro found
    exact absurd ((lookups unresolved 1 "g").1.mp found).1 (by decide)
  · exact ((integrals .exteriorFacet _ (List.mem_singleton.mpr rfl) (.ofIndex 0) #[] #[]).1
      _ rfl).2

/-- `p` holds of whatever was declared, and of the form built from it after any calls that leave it
without a resolver. -/
def AfterAnyCalls (p : FormDeclaration Nat → Form Nat → Prop) : Prop :=
  ∀ (d : FormDeclaration Nat) (spaces : List (ArgumentSpace Nat)) (form : Form Nat),
    (build d.toDescriptor spaces).value = .ok form → ∀ calls : List (FormCall Nat),
      FormChange.lastResolver (calls.filterMap FormCall.change?) = none →
        p d (calls.foldl call form)

theorem AfterAnyCalls.declareSecond {p : FormDeclaration Nat → Form Nat → Prop}
    (every : AfterAnyCalls p) : p functionalOfOne (declareSecond.foldl call builtOfOne) :=
  every functionalOfOne [] builtOfOne build_functionalOfOne Form.declareSecond rfl

/-- The second coefficient makes the registry longer than the descriptor. The form finds neither
its name nor its number, but the integral over cells reads it. -/
theorem not_every_form_keeps_its_coefficients :
    (¬ AfterAnyCalls fun d after => after.coefficients.labels = d.coefficients) ∧
    (¬ AfterAnyCalls fun _ after => ∀ i name,
      after.coefficientName i = .ok name ↔ after.coefficients.nameOf? i = some name) ∧
    (¬ AfterAnyCalls fun _ after => ∀ i name,
      after.coefficientIndex name = .ok i ↔ after.coefficients.indexOf? name = some i) ∧
    ¬ AfterAnyCalls fun d after => ∀ kind, ∀ integral ∈ after.integrals.integrals kind,
      ∀ (cell : PointId) (coordinates : Array Nat),
        let slots := after.coefficients.slots.zipIdx
        let gathered := Pass.gatherFrom integral cell coordinates
        gathered slots #[] = gathered (slots.take d.coefficients.length) #[] := by
  refine ⟨fun every => ?_, fun every => ?_, fun every => ?_, fun every => ?_⟩
  · exact absurd every.declareSecond (by decide +kernel)
  · cases (every.declareSecond 1 "g").mpr (by decide +kernel)
  · cases (every.declareSecond 1 "g").mpr (by decide +kernel)
  · have same := every.declareSecond .cell _ (List.mem_singleton.mpr rfl) (.ofIndex 0) #[]
    exact absurd (congrArg Prod.snd same) (by decide +kernel)

end Form
end FormAssembly
