import Mathlib.Data.List.Nodup
import FormAssembly.Coefficient.Registry

/-!
# Labels of coefficients

A registry of coefficients consists of labels, which are names and original positions in the order
of the slots, and of functions. All lookups but that of a function depend on the labels alone. When
calls that change a registry fail, and what they do otherwise, is said in `declare_cases`,
`set_cases` and `setByName_cases`; binding a function leaves the labels as they are.
-/

namespace FormAssembly
namespace CoefficientSet

variable {α : Type} {set next : CoefficientSet α} {name : String} {f : CoefficientFunction α}
  {i : Nat}

/-- Name and original position of each slot. -/
def labels (set : CoefficientSet α) : List (String × Nat) :=
  set.slots.map fun slot => (slot.name, slot.originalPosition)

/-! ## Lookups -/

@[simp] theorem length_labels (set : CoefficientSet α) : set.labels.length = set.size := by
  simp [labels, size]

theorem nodup_labels (set : CoefficientSet α) : (set.labels.map (·.1)).Nodup := by
  simpa [labels, Function.comp_def] using set.names_nodup

theorem nameOf?_eq (set : CoefficientSet α) (i : Nat) :
    set.nameOf? i = set.labels[i]?.map (·.1) := by
  simp [nameOf?, labels, Function.comp_def]

theorem originalPosition_eq (set : CoefficientSet α) (i : Nat) :
    set.originalPosition i =
      set.labels[i]?.elim (.error (.indexOutOfRange .coefficient i set.size))
        fun label => .ok label.2 := by
  cases there : set.slots[i]? with
  | none => simp [originalPosition, slot, labels, there, Except.map]
  | some found => simp [originalPosition, slot, labels, there, Except.map]

/-- The two lookups are inverse to each other, since names are distinct. -/
theorem indexOf?_eq_some_iff : set.indexOf? name = some i ↔ set.nameOf? i = some name := by
  have distinct : ∀ j k (early : j < set.slots.length) (late : k < set.slots.length),
      set.slots[j].name = set.slots[k].name → j = k := by
    intro j k early late same
    have earlyName : j < (set.slots.map (·.name)).length := by simpa using early
    have lateName : k < (set.slots.map (·.name)).length := by simpa using late
    have equal : (set.slots.map (·.name))[j] = (set.slots.map (·.name))[k] := by simpa using same
    exact set.names_nodup.getElem_inj_iff.mp equal
  simp only [indexOf?, nameOf?, List.findIdx?_eq_some_iff_getElem, Option.map_eq_some_iff,
    List.getElem?_eq_some_iff, decide_eq_true_eq]
  constructor
  · rintro ⟨inside, named, _⟩
    exact ⟨_, ⟨inside, rfl⟩, named⟩
  · rintro ⟨_, ⟨inside, rfl⟩, named⟩
    refine ⟨inside, named, ?_⟩
    intro j earlier same
    have equal : j = i := distinct j i (by omega) inside (same.trans named.symm)
    omega

/-! ## Changes -/

theorem labels_bind (set : CoefficientSet α) (i : Nat) (f : CoefficientFunction α) :
    (set.bind i f).labels = set.labels := by
  refine List.ext_getElem? ?_
  intro j
  simp only [labels, bind, List.getElem?_map, List.getElem?_modify]
  split <;> cases set.slots[j]? <;> rfl

theorem declare_cases (set : CoefficientSet α) (name : String) (position : Nat) :
    (name ∈ set.slots.map (·.name) ∧
      set.declare name position = .error (.configuration (.repeatedCoefficient name))) ∨
    (name ∉ set.slots.map (·.name) ∧ ∃ next, set.declare name position = .ok (set.size, next) ∧
      next.slots = set.slots ++ [⟨name, none, position⟩]) := by
  by_cases taken : name ∈ set.slots.map (·.name)
  · exact Or.inl ⟨taken, dif_pos taken⟩
  · exact Or.inr ⟨taken, _, dif_neg taken, rfl⟩

theorem set_cases (set : CoefficientSet α) (i : Nat) (f : CoefficientFunction α) :
    (set.size ≤ i ∧ set.set i f = .error (.indexOutOfRange .coefficient i set.size)) ∨
    (i < set.size ∧ set.set i f = .ok (set.bind i f)) := by
  by_cases inside : i < set.size
  · refine Or.inr ⟨inside, ?_⟩
    simp [CoefficientSet.set, Error.checkIndex, inside, Bind.bind, Except.bind, pure, Except.pure]
  · refine Or.inl ⟨Nat.le_of_not_lt inside, ?_⟩
    simp [CoefficientSet.set, Error.checkIndex, inside, Bind.bind, Except.bind]

theorem lt_size_of_indexOf? (found : set.indexOf? name = some i) : i < set.size := by
  rcases Option.map_eq_some_iff.mp (indexOf?_eq_some_iff.mp found) with ⟨slot, there, _⟩
  exact (List.getElem?_eq_some_iff.mp there).1

/-- A name that is found is in range, so binding by name fails only if there is no such name. -/
theorem setByName_cases (set : CoefficientSet α) (name : String) (f : CoefficientFunction α) :
    (set.indexOf? name = none ∧ set.setByName name f = .error (.coefficientNotFound name)) ∨
    (∃ i, set.indexOf? name = some i ∧ i < set.size ∧
      set.setByName name f = .ok (set.bind i f)) := by
  cases found : set.indexOf? name with
  | none => exact Or.inl ⟨rfl, by simp [setByName, found]⟩
  | some i =>
      have inside := lt_size_of_indexOf? found
      rcases set.set_cases i f with ⟨outside, _⟩ | ⟨_, bound⟩
      · exact absurd inside (Nat.not_lt.mpr outside)
      · exact Or.inr ⟨i, rfl, inside, by simp [setByName, found, bound]⟩

theorem labels_of_set : set.set i f = .ok next → next.labels = set.labels := by
  intro bound
  rcases set.set_cases i f with ⟨_, failed⟩ | ⟨_, made⟩
  · cases failed.symm.trans bound
  · cases made.symm.trans bound
    exact set.labels_bind i f

theorem labels_of_setByName : set.setByName name f = .ok next → next.labels = set.labels := by
  intro bound
  rcases set.setByName_cases name f with ⟨_, failed⟩ | ⟨i, _, _, made⟩
  · cases failed.symm.trans bound
  · cases made.symm.trans bound
    exact set.labels_bind i f

end CoefficientSet
end FormAssembly
