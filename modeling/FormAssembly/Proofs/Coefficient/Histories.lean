import Mathlib.Data.Finset.Card
import FormAssembly.Proofs.Coefficient.Labels

/-!
# Histories of a registry of coefficients

A registry is changed by calls that declare names and bind functions, and some of them fail. What
one call does to the slots is said in `CoefficientSet.getElem?_slots_after`. By induction, the calls
alone tell what each slot is (`CoefficientSet.getElem?_slots_ofCalls`): its number is the number of
names declared before its own, and its function is the one bound last since then. Lookups, failures
of further calls and the check that all slots are bound follow from this
(`CoefficientSet.ofCalls_follows_history`).
-/

namespace FormAssembly

variable {α : Type}

/-! ## Places in lists -/

section Places

variable {β : Type} {items : List β} {item : β} {i : Nat}

theorem getElem?_concat_eq_some_iff {last : β} :
    (items ++ [last])[i]? = some item ↔
      items[i]? = some item ∨ (i = items.length ∧ item = last) := by
  rcases Nat.lt_trichotomy i items.length with inside | rfl | outside
  · simp [List.getElem?_append_left inside, Nat.ne_of_lt inside]
  · simp [eq_comm]
  · have beyond : (items ++ [last]).length ≤ i := by simpa using Nat.succ_le_of_lt outside
    simp [List.getElem?_eq_none beyond, List.getElem?_eq_none (Nat.le_of_lt outside),
      Nat.ne_of_gt outside]

theorem find?_zipIdx_eq_some_iff {p : β → Bool} :
    items.zipIdx.find? (fun entry => p entry.1) = some (item, i) ↔
      items[i]? = some item ∧ p item = true ∧
      ∀ (j : Nat) (earlier : β), j < i → items[j]? = some earlier → p earlier = false := by
  rw [List.find?_eq_some_iff_getElem]
  constructor
  · rintro ⟨passes, k, inside, there, before⟩
    rw [List.getElem_zipIdx, Prod.mk.injEq, Nat.zero_add] at there
    rcases there with ⟨rfl, rfl⟩
    have within : k < items.length := by simpa using inside
    refine ⟨List.getElem?_eq_getElem within, passes, ?_⟩
    intro j earlier sooner here
    rcases List.getElem?_eq_some_iff.mp here with ⟨_, rfl⟩
    simpa using before j sooner
  · rintro ⟨there, passes, before⟩
    rcases List.getElem?_eq_some_iff.mp there with ⟨within, rfl⟩
    refine ⟨passes, i, by simpa using within, by simp, ?_⟩
    intro j sooner
    have short : j < items.length := sooner.trans within
    simpa using before j items[j] sooner (List.getElem?_eq_getElem short)

end Places

/-! ## Calls -/

/-- A call that changes a registry of coefficients. -/
inductive CoefficientCall (α : Type) where
  | declare (name : String) (originalPosition : Nat)
  | set (i : Nat) (f : CoefficientFunction α)
  | setByName (name : String) (f : CoefficientFunction α)

namespace CoefficientCall

variable {calls since : List (CoefficientCall α)} {call : CoefficientCall α} {i position : Nat}
  {name : String}

/-- The name that a call declares. -/
def declared? : CoefficientCall α → Option String
  | declare name _ => some name
  | _ => none

/-- The names that some calls declare, as often as they do. -/
def declared (calls : List (CoefficientCall α)) : List String :=
  calls.filterMap declared?

/-- The function that a call is to bind to the slot with this number and name. -/
def bound? (i : Nat) (name : String) : CoefficientCall α → Option (CoefficientFunction α)
  | declare _ _ => none
  | set j f => if j = i then some f else none
  | setByName other f => if other = name then some f else none

/-- The function that the last of some calls binds to the slot with this number and name. -/
def lastBound? (i : Nat) (name : String) (calls : List (CoefficientCall α)) :
    Option (CoefficientFunction α) :=
  (calls.filterMap (bound? i name)).getLast?

/-- Among `calls` is the first that declares `name`, with some position, when `i` other names have
been declared. The calls after it are `since`. -/
def Opens (calls : List (CoefficientCall α)) (i : Nat) (name : String) (position : Nat)
    (since : List (CoefficientCall α)) : Prop :=
  ∃ before, calls = before ++ .declare name position :: since ∧ name ∉ declared before ∧
    (declared before).toFinset.card = i

/-- Some calls open slot `i` and bind a function to it afterwards. -/
def Binds (calls : List (CoefficientCall α)) (i : Nat) : Prop :=
  ∃ name position since, Opens calls i name position since ∧
    ∃ call ∈ since, ∃ f, call.bound? i name = some f

theorem mem_declared_concat :
    name ∈ declared (calls ++ [call]) ↔ name ∈ declared calls ∨ call.declared? = some name := by
  simp [declared]

theorem lastBound?_concat (i : Nat) (name : String) (calls : List (CoefficientCall α))
    (call : CoefficientCall α) :
    lastBound? i name (calls ++ [call]) = (call.bound? i name).or (lastBound? i name calls) := by
  cases binds : call.bound? i name <;> simp [lastBound?, binds]

theorem lastBound?_eq_none_iff :
    lastBound? i name calls = none ↔ ∀ call ∈ calls, call.bound? i name = none := by
  simp [lastBound?]

/-- One more call comes after a slot that was opened before, or opens one. -/
theorem opens_concat :
    Opens (calls ++ [call]) i name position since ↔
      (∃ earlier, since = earlier ++ [call] ∧ Opens calls i name position earlier) ∨
      (since = [] ∧ call = .declare name position ∧ name ∉ declared calls ∧
        (declared calls).toFinset.card = i) := by
  constructor
  · rintro ⟨before, all, fresh, number⟩
    rcases List.eq_nil_or_concat since with rfl | ⟨earlier, last, rfl⟩
    · rcases List.append_inj' all rfl with ⟨rfl, same⟩
      exact Or.inr ⟨rfl, List.head_eq_of_cons_eq same, fresh, number⟩
    · have split : calls ++ [call] = (before ++ .declare name position :: earlier) ++ [last] := by
        simpa using all
      rcases List.append_inj' split rfl with ⟨rfl, same⟩
      cases same
      exact Or.inl ⟨earlier, List.concat_eq_append, before, rfl, fresh, number⟩
  · rintro (⟨earlier, rfl, before, rfl, fresh, number⟩ | ⟨rfl, rfl, fresh, number⟩)
    · exact ⟨before, by simp, fresh, number⟩
    · exact ⟨calls, rfl, fresh, number⟩

/-- Later calls do not change which slot was opened. -/
theorem Opens.append (opens : Opens calls i name position since)
    (later : List (CoefficientCall α)) :
    Opens (calls ++ later) i name position (since ++ later) := by
  rcases opens with ⟨before, rfl, fresh, number⟩
  exact ⟨before, by simp, fresh, number⟩

end CoefficientCall

open CoefficientCall

namespace CoefficientSlot

variable {slot : CoefficientSlot α} {call : CoefficientCall α} {i : Nat}

/-- The slot with number `i` after a call, if that does not fail. -/
def after (slot : CoefficientSlot α) (i : Nat) (call : CoefficientCall α) : CoefficientSlot α :=
  { slot with function := (call.bound? i slot.name).or slot.function }

theorem after_of_unbound (unbound : call.bound? i slot.name = none) : slot.after i call = slot := by
  simp [after, unbound]

end CoefficientSlot

namespace CoefficientSet

variable {set next : CoefficientSet α} {calls : List (CoefficientCall α)}
  {call : CoefficientCall α} {slot : CoefficientSlot α} {name : String}
  {f : CoefficientFunction α} {i : Nat}

/-! ## One call -/

/-- The registry after a call. A call that fails leaves it as it was. -/
def after (set : CoefficientSet α) : CoefficientCall α → CoefficientSet α
  | .declare name position => (set.declare name position).toOption.elim set (·.2)
  | .set i f => (set.set i f).toOption.getD set
  | .setByName name f => (set.setByName name f).toOption.getD set

theorem mem_names_iff :
    name ∈ set.slots.map (·.name) ↔
      ∃ (i : Nat) (slot : CoefficientSlot α), set.slots[i]? = some slot ∧ slot.name = name := by
  simp [List.mem_iff_getElem?]

theorem indexOf?_eq_none_iff : set.indexOf? name = none ↔ name ∉ set.slots.map (·.name) := by
  simp [indexOf?]

theorem after_declare_cases (set : CoefficientSet α) (name : String) (position : Nat) :
    (name ∈ set.slots.map (·.name) ∧
      set.declare name position = .error (.configuration (.repeatedCoefficient name)) ∧
      set.after (.declare name position) = set) ∨
    (name ∉ set.slots.map (·.name) ∧
      set.declare name position = .ok (set.size, set.after (.declare name position)) ∧
      (set.after (.declare name position)).slots = set.slots ++ [⟨name, none, position⟩]) := by
  rcases set.declare_cases name position with ⟨taken, failed⟩ | ⟨fresh, next, made, slots⟩
  · exact Or.inl ⟨taken, failed, by simp [after, failed, Except.toOption]⟩
  · have same : set.after (.declare name position) = next := by
      simp [after, made, Except.toOption]
    exact Or.inr ⟨fresh, same ▸ made, same ▸ slots⟩

theorem after_set_cases (set : CoefficientSet α) (i : Nat) (f : CoefficientFunction α) :
    (set.size ≤ i ∧ set.set i f = .error (.indexOutOfRange .coefficient i set.size) ∧
      set.after (.set i f) = set) ∨
    (i < set.size ∧ set.set i f = .ok (set.bind i f) ∧ set.after (.set i f) = set.bind i f) := by
  rcases set.set_cases i f with ⟨outside, failed⟩ | ⟨inside, bound⟩
  · exact Or.inl ⟨outside, failed, by simp [after, failed, Except.toOption]⟩
  · exact Or.inr ⟨inside, bound, by simp [after, bound, Except.toOption]⟩

theorem after_setByName_cases (set : CoefficientSet α) (name : String)
    (f : CoefficientFunction α) :
    (set.indexOf? name = none ∧ set.setByName name f = .error (.coefficientNotFound name) ∧
      set.after (.setByName name f) = set) ∨
    (∃ i, set.indexOf? name = some i ∧ i < set.size ∧
      set.setByName name f = .ok (set.bind i f) ∧
      set.after (.setByName name f) = set.bind i f) := by
  rcases set.setByName_cases name f with ⟨missing, failed⟩ | ⟨i, found, inside, bound⟩
  · exact Or.inl ⟨missing, failed, by simp [after, failed, Except.toOption]⟩
  · exact Or.inr ⟨i, found, inside, bound, by simp [after, bound, Except.toOption]⟩

theorem getElem?_slots_bind (set : CoefficientSet α) (j : Nat) (f : CoefficientFunction α)
    (i : Nat) : (set.bind j f).slots[i]? =
      set.slots[i]?.map fun slot => if j = i then { slot with function := some f } else slot := by
  simp only [bind, List.getElem?_modify]
  split <;> cases set.slots[i]? <;> rfl

/-- Names are distinct, so a name belongs to the slot where it is found and to no other. -/
theorem name_eq_iff {j : Nat} (there : set.slots[i]? = some slot)
    (found : set.indexOf? name = some j) : slot.name = name ↔ j = i := by
  have named : set.nameOf? i = some slot.name := by
    simp [nameOf?, there]
  constructor
  · rintro rfl
    have same := found.symm.trans (indexOf?_eq_some_iff.mpr named)
    exact Option.some.inj same
  · rintro rfl
    exact Option.some.inj (named.symm.trans (indexOf?_eq_some_iff.mp found))

/-- A call that binds a function to slot `j` alone changes the slots as `bind` does. -/
theorem getElem?_slots_bind_iff {j : Nat}
    (binds : ∀ (i : Nat) (before : CoefficientSlot α), set.slots[i]? = some before →
      call.bound? i before.name = if j = i then some f else none) :
    (set.bind j f).slots[i]? = some slot ↔
      ∃ before, set.slots[i]? = some before ∧ slot = before.after i call := by
  have rebound : ∀ before : CoefficientSlot α, set.slots[i]? = some before →
      (if j = i then { before with function := some f } else before) = before.after i call := by
    intro before there
    unfold CoefficientSlot.after
    rw [binds i before there]
    split <;> rfl
  rw [getElem?_slots_bind, Option.map_eq_some_iff]
  constructor
  · rintro ⟨before, there, rfl⟩
    exact ⟨before, there, rebound before there⟩
  · rintro ⟨before, there, rfl⟩
    exact ⟨before, there, rebound before there⟩

/-- A call that binds nothing leaves all slots as they are. -/
theorem getElem?_slots_iff_of_unbound
    (unbound : ∀ (i : Nat) (before : CoefficientSlot α), set.slots[i]? = some before →
      call.bound? i before.name = none) :
    set.slots[i]? = some slot ↔
      ∃ before, set.slots[i]? = some before ∧ slot = before.after i call := by
  constructor
  · intro there
    exact ⟨slot, there, (CoefficientSlot.after_of_unbound (unbound i slot there)).symm⟩
  · rintro ⟨before, there, rfl⟩
    rwa [CoefficientSlot.after_of_unbound (unbound i before there)]

theorem getElem?_slots_after_declare {position : Nat} :
    (set.after (.declare name position)).slots[i]? = some slot ↔
      set.slots[i]? = some slot ∨
      (i = set.size ∧ name ∉ set.slots.map (·.name) ∧ slot = ⟨name, none, position⟩) := by
  rcases set.after_declare_cases name position with ⟨taken, _, same⟩ | ⟨fresh, _, grown⟩
  · simp [same, taken]
  · rw [grown, getElem?_concat_eq_some_iff]
    exact or_congr_right (and_congr_right fun _ => (and_iff_right fresh).symm)

theorem getElem?_slots_after_set {j : Nat} :
    (set.after (.set j f)).slots[i]? = some slot ↔
      ∃ before, set.slots[i]? = some before ∧ slot = before.after i (.set j f) := by
  rcases set.after_set_cases j f with ⟨outside, _, same⟩ | ⟨_, _, rebound⟩
  · rw [same]
    refine getElem?_slots_iff_of_unbound ?_
    intro k before there
    have inside : k < set.size := (List.getElem?_eq_some_iff.mp there).1
    simp [bound?, show j ≠ k by omega]
  · rw [rebound]
    exact getElem?_slots_bind_iff fun _ _ _ => rfl

theorem getElem?_slots_after_setByName :
    (set.after (.setByName name f)).slots[i]? = some slot ↔
      ∃ before, set.slots[i]? = some before ∧ slot = before.after i (.setByName name f) := by
  rcases set.after_setByName_cases name f with ⟨missing, _, same⟩ | ⟨j, found, _, _, rebound⟩
  · rw [same]
    refine getElem?_slots_iff_of_unbound ?_
    intro k before there
    have other : name ≠ before.name := by
      rintro rfl
      exact indexOf?_eq_none_iff.mp missing (mem_names_iff.mpr ⟨k, before, there, rfl⟩)
    simp [bound?, other]
  · rw [rebound]
    refine getElem?_slots_bind_iff ?_
    intro k before there
    simp [bound?, eq_comm (a := name), name_eq_iff there found]

/-- What a call does: each slot is rebound by the calls that say so, and a slot is added by the
declaration of a new name. -/
theorem getElem?_slots_after :
    (set.after call).slots[i]? = some slot ↔
      (∃ before, set.slots[i]? = some before ∧ slot = before.after i call) ∨
      (i = set.size ∧ ∃ name position, call = .declare name position ∧
        name ∉ set.slots.map (·.name) ∧ slot = ⟨name, none, position⟩) := by
  cases call with
  | declare name position =>
      have kept : set.slots[i]? = some slot ↔ ∃ before, set.slots[i]? = some before ∧
          slot = before.after i (.declare name position) :=
        getElem?_slots_iff_of_unbound fun _ _ _ => rfl
      rw [getElem?_slots_after_declare, kept]
      refine or_congr_right (and_congr_right fun _ => ?_)
      constructor
      · rintro ⟨fresh, new⟩
        exact ⟨name, position, rfl, fresh, new⟩
      · rintro ⟨_, _, said, fresh, new⟩
        cases said
        exact ⟨fresh, new⟩
  | set j f => simp [getElem?_slots_after_set]
  | setByName name f => simp [getElem?_slots_after_setByName]

theorem mem_names_after :
    name ∈ (set.after call).slots.map (·.name) ↔
      name ∈ set.slots.map (·.name) ∨ call.declared? = some name := by
  constructor
  · intro there
    rcases mem_names_iff.mp there with ⟨i, slot, here, rfl⟩
    rcases getElem?_slots_after.mp here with ⟨before, old, rfl⟩ | ⟨_, other, _, rfl, _, rfl⟩
    · exact Or.inl (mem_names_iff.mpr ⟨i, before, old, rfl⟩)
    · exact Or.inr rfl
  · intro named
    -- To declare a name that there is already fails, and leaves the name where it was.
    by_cases old : name ∈ set.slots.map (·.name)
    · rcases mem_names_iff.mp old with ⟨i, before, here, rfl⟩
      exact mem_names_iff.mpr
        ⟨i, before.after i call, getElem?_slots_after.mpr (Or.inl ⟨before, here, rfl⟩), rfl⟩
    · cases call with
      | declare other position =>
          cases named.resolve_left old
          exact mem_names_iff.mpr ⟨set.size, ⟨name, none, position⟩,
            getElem?_slots_after.mpr (Or.inr ⟨rfl, name, position, rfl, old, rfl⟩), rfl⟩
      | set j f => cases named.resolve_left old
      | setByName other f => cases named.resolve_left old

/-! ## All calls -/

/-- The registry after some calls, of which some may have failed. -/
def ofCalls (calls : List (CoefficientCall α)) : CoefficientSet α :=
  calls.foldl after empty

theorem ofCalls_concat (calls : List (CoefficientCall α)) (call : CoefficientCall α) :
    ofCalls (calls ++ [call]) = (ofCalls calls).after call := by
  simp [ofCalls]

/-- The names are those that calls have declared, once or more often. -/
theorem mem_names_ofCalls :
    name ∈ (ofCalls calls).slots.map (·.name) ↔ name ∈ declared calls := by
  induction calls using List.reverseRecOn with
  | nil => simp [ofCalls, empty, declared]
  | append_singleton calls call ih =>
      rw [ofCalls_concat, mem_names_after, mem_declared_concat, ih]

theorem size_ofCalls (calls : List (CoefficientCall α)) :
    (ofCalls calls).size = (declared calls).toFinset.card := by
  -- The names of the slots are distinct, so it is enough to have the same names.
  have same : ((ofCalls calls).slots.map (·.name)).toFinset = (declared calls).toFinset := by
    ext name
    simpa only [List.mem_toFinset] using mem_names_ofCalls
  calc (ofCalls calls).size
      = ((ofCalls calls).slots.map (·.name)).length := (List.length_map _).symm
    _ = ((ofCalls calls).slots.map (·.name)).toFinset.card :=
        (List.toFinset_card_of_nodup (ofCalls calls).names_nodup).symm
    _ = (declared calls).toFinset.card := by rw [same]

/-- The calls alone tell what each slot is: the first declaration of its name gives the number and
the original position, the last binding since then the function. -/
theorem getElem?_slots_ofCalls :
    (ofCalls calls).slots[i]? = some slot ↔
      ∃ since, Opens calls i slot.name slot.originalPosition since ∧
        slot.function = lastBound? i slot.name since := by
  -- By induction from the end: the last call comes after the opening of a slot, or is the opening.
  -- Before that call the slot may have had another function, so `slot` has to vary.
  induction calls using List.reverseRecOn generalizing slot with
  | nil =>
      have closed : ∀ since : List (CoefficientCall α),
          ¬ Opens [] i slot.name slot.originalPosition since := by
        rintro since ⟨before, all, _⟩
        simp at all
      simp [ofCalls, empty, closed]
  | append_singleton calls call ih =>
      rw [ofCalls_concat, getElem?_slots_after]
      constructor
      · rintro (⟨before, there, rfl⟩ | ⟨rfl, name, position, rfl, fresh, rfl⟩)
        · rcases ih.mp there with ⟨since, opens, bound⟩
          refine ⟨since ++ [call], opens_concat.mpr (Or.inl ⟨since, rfl, opens⟩), ?_⟩
          rw [lastBound?_concat]
          exact congrArg (call.bound? i before.name).or bound
        · refine ⟨[], opens_concat.mpr (Or.inr ⟨rfl, rfl, ?_, ?_⟩), rfl⟩
          · exact fun old => fresh (mem_names_ofCalls.mpr old)
          · exact (size_ofCalls calls).symm
      · rintro ⟨since, opens, bound⟩
        rcases opens_concat.mp opens with ⟨earlier, rfl, opened⟩ | ⟨rfl, rfl, fresh, number⟩
        · refine Or.inl ⟨{ slot with function := lastBound? i slot.name earlier },
            ih.mpr ⟨earlier, opened, rfl⟩, ?_⟩
          rw [lastBound?_concat] at bound
          unfold CoefficientSlot.after
          rw [← bound]
        · refine Or.inr ⟨number.symm.trans (size_ofCalls calls).symm, slot.name,
            slot.originalPosition, rfl, ?_, ?_⟩
          · exact fun old => fresh (mem_names_ofCalls.mp old)
          · cases slot
            simp_all [lastBound?]

/-! ## Lookups by history -/

theorem getElem?_slots_of_opens {position : Nat} {since : List (CoefficientCall α)}
    (opens : Opens calls i name position since) :
    (ofCalls calls).slots[i]? = some ⟨name, lastBound? i name since, position⟩ :=
  getElem?_slots_ofCalls.mpr ⟨since, opens, rfl⟩

theorem nameOf?_ofCalls :
    (ofCalls calls).nameOf? i = some name ↔
      ∃ position since, Opens calls i name position since := by
  constructor
  · intro named
    rcases Option.map_eq_some_iff.mp named with ⟨slot, there, rfl⟩
    rcases getElem?_slots_ofCalls.mp there with ⟨since, opens, _⟩
    exact ⟨slot.originalPosition, since, opens⟩
  · rintro ⟨position, since, opens⟩
    simp [nameOf?, getElem?_slots_of_opens opens]

/-! ## Unbound slots -/

theorem firstUnbound?_eq_none_iff :
    set.firstUnbound? = none ↔
      ∀ (i : Nat) (slot : CoefficientSlot α), set.slots[i]? = some slot → slot.function ≠ none := by
  simp only [firstUnbound?, Option.map_eq_none_iff, List.find?_eq_none]
  constructor
  · intro passes i slot there unbound
    exact passes (slot, i) (List.mem_zipIdx_iff_getElem?.mpr there) (by simp [unbound])
  · rintro bound ⟨slot, i⟩ among unbound
    exact bound i slot (List.mem_zipIdx_iff_getElem?.mp among) (by simpa using unbound)

theorem firstUnbound?_eq_some_iff :
    set.firstUnbound? = some (i, name) ↔
      (∃ slot, set.slots[i]? = some slot ∧ slot.name = name ∧ slot.function = none) ∧
      ∀ (j : Nat) (slot : CoefficientSlot α), j < i → set.slots[j]? = some slot →
        slot.function ≠ none := by
  have found (slot : CoefficientSlot α) (j : Nat) :
      set.slots.zipIdx.find? (fun entry => entry.1.function.isNone) = some (slot, j) ↔
        set.slots[j]? = some slot ∧ slot.function = none ∧
        ∀ (k : Nat) (earlier : CoefficientSlot α), k < j → set.slots[k]? = some earlier →
          earlier.function ≠ none := by
    rw [find?_zipIdx_eq_some_iff (p := fun slot : CoefficientSlot α => slot.function.isNone)]
    simp only [Option.isNone_iff_eq_none, Option.isNone_eq_false_iff, Option.isSome_iff_ne_none]
  unfold firstUnbound?
  rw [Option.map_eq_some_iff]
  constructor
  · rintro ⟨⟨slot, j⟩, first, same⟩
    cases same
    rcases (found slot i).mp first with ⟨there, unbound, before⟩
    exact ⟨⟨slot, there, rfl, unbound⟩, before⟩
  · rintro ⟨⟨slot, there, rfl, unbound⟩, before⟩
    exact ⟨(slot, i), (found slot i).mpr ⟨there, unbound, before⟩, rfl⟩

theorem binds_iff :
    Binds calls i ↔ ∃ slot, (ofCalls calls).slots[i]? = some slot ∧ slot.function ≠ none := by
  constructor
  · rintro ⟨name, position, since, opens, call, among, f, binds⟩
    refine ⟨_, getElem?_slots_of_opens opens, ?_⟩
    intro unbound
    have idle := lastBound?_eq_none_iff.mp unbound call among
    rw [binds] at idle
    cases idle
  · rintro ⟨slot, there, bound⟩
    rcases getElem?_slots_ofCalls.mp there with ⟨since, opens, last⟩
    -- A slot with a function was bound by one of the calls since its opening.
    rw [last, Ne, lastBound?_eq_none_iff, not_forall] at bound
    rcases bound with ⟨call, heard⟩
    rcases Classical.not_imp.mp heard with ⟨among, binds⟩
    exact ⟨slot.name, slot.originalPosition, since, opens, call, among,
      Option.ne_none_iff_exists'.mp binds⟩

theorem checkAllSet_ofCalls_eq_ok_iff :
    (ofCalls calls).checkAllSet = .ok () ↔ ∀ i < (ofCalls calls).size, Binds calls i := by
  have passes : (ofCalls calls).checkAllSet = .ok () ↔ (ofCalls calls).firstUnbound? = none := by
    unfold checkAllSet
    cases (ofCalls calls).firstUnbound? <;> simp
  rw [passes, firstUnbound?_eq_none_iff]
  constructor
  · intro bound i inside
    have there := List.getElem?_eq_getElem inside
    exact binds_iff.mpr ⟨_, there, bound i _ there⟩
  · intro binds i slot there
    rcases binds_iff.mp (binds i (List.getElem?_eq_some_iff.mp there).1) with ⟨found, here, bound⟩
    cases there.symm.trans here
    exact bound

theorem firstUnbound?_ofCalls :
    (ofCalls calls).firstUnbound? = some (i, name) ↔
      (ofCalls calls).nameOf? i = some name ∧ ¬ Binds calls i ∧ ∀ j < i, Binds calls j := by
  rw [firstUnbound?_eq_some_iff, nameOf?, Option.map_eq_some_iff]
  constructor
  · rintro ⟨⟨slot, there, named, unbound⟩, before⟩
    refine ⟨⟨slot, there, named⟩, ?_, ?_⟩
    · intro binds
      rcases binds_iff.mp binds with ⟨found, here, bound⟩
      cases there.symm.trans here
      exact bound unbound
    · intro j sooner
      have inside := sooner.trans (List.getElem?_eq_some_iff.mp there).1
      have here := List.getElem?_eq_getElem inside
      exact binds_iff.mpr ⟨_, here, before j _ sooner here⟩
  · rintro ⟨⟨slot, there, named⟩, free, before⟩
    refine ⟨⟨slot, there, named, ?_⟩, ?_⟩
    · by_contra bound
      exact free (binds_iff.mpr ⟨slot, there, bound⟩)
    · intro j found sooner here
      rcases binds_iff.mp (before j sooner) with ⟨same, there, bound⟩
      cases here.symm.trans there
      exact bound

theorem checkAllSet_ofCalls_eq_error_iff {e : Error} :
    (ofCalls calls).checkAllSet = .error e ↔
      ∃ i name, (ofCalls calls).nameOf? i = some name ∧ ¬ Binds calls i ∧
        (∀ j < i, Binds calls j) ∧ e = .configuration (.unboundCoefficient i name) := by
  have fails : (ofCalls calls).checkAllSet = .error e ↔
      ∃ i name, (ofCalls calls).firstUnbound? = some (i, name) ∧
        e = .configuration (.unboundCoefficient i name) := by
    unfold checkAllSet
    cases (ofCalls calls).firstUnbound? <;> simp [Prod.ext_iff, eq_comm]
  simp only [fails, firstUnbound?_ofCalls, and_assoc]

/-! ## Calls on a registry with a history -/

/-- `next` has a function in slot `i`, and for the rest is as `set`. -/
structure Rebound (set : CoefficientSet α) (i : Nat) (f : CoefficientFunction α)
    (next : CoefficientSet α) : Prop where
  own : ∃ slot, set.slots[i]? = some slot ∧
    next.slots[i]? = some { slot with function := some f }
  other : ∀ j, j ≠ i → next.slots[j]? = set.slots[j]?

theorem rebound_bind (inside : i < set.size) (f : CoefficientFunction α) :
    Rebound set i f (set.bind i f) where
  own := by
    have there := List.getElem?_eq_getElem inside
    exact ⟨_, there, by simp [getElem?_slots_bind, there]⟩
  other := by
    intro j other
    simp [getElem?_slots_bind, Ne.symm other]

theorem indexOf?_ofCalls :
    (ofCalls calls).indexOf? name = some i ↔
      ∃ position since, Opens calls i name position since :=
  indexOf?_eq_some_iff.trans nameOf?_ofCalls

theorem isSome_indexOf?_ofCalls :
    ((ofCalls calls).indexOf? name).isSome ↔ name ∈ declared calls := by
  rw [Option.isSome_iff_ne_none, Ne, indexOf?_eq_none_iff, not_not, mem_names_ofCalls]

/-- The lookups of a slot, from its opening on. -/
theorem lookups_of_opens {position : Nat} {since : List (CoefficientCall α)}
    (opens : Opens calls i name position since) :
    (ofCalls calls).indexOf? name = some i ∧ (ofCalls calls).nameOf? i = some name ∧
      (ofCalls calls).originalPosition i = .ok position ∧
      (ofCalls calls).get i = .ok (lastBound? i name since) := by
  have there := getElem?_slots_of_opens opens
  refine ⟨indexOf?_ofCalls.mpr ⟨position, since, opens⟩,
    nameOf?_ofCalls.mpr ⟨position, since, opens⟩, ?_, ?_⟩
  · simp [originalPosition, CoefficientSet.slot, there, Except.map]
  · simp [get, CoefficientSet.slot, there, Except.map]

/-- The calls on a new registry determine all that its lookups and later calls answer. The names
that were declared and the numbers below the size are in correspondence, numbers are given out in
turn, and what a slot was opened with stays as it is. A call fails for one reason, and then changes
nothing; otherwise it adds a slot or changes the function of one. All slots are found to be set iff
a call has bound each of them, and the first that is not is named else. -/
theorem ofCalls_follows_history (calls : List (CoefficientCall α)) :
    let set := ofCalls calls
    -- The lookups are inverse to each other.
    (∀ name i, set.indexOf? name = some i ↔ set.nameOf? i = some name) ∧
    (∀ name, (set.indexOf? name).isSome ↔ name ∈ declared calls) ∧
    (∀ i, (set.nameOf? i).isSome ↔ i < set.size) ∧
    set.size = (declared calls).toFinset.card ∧
    -- Slots are numbered in turn, and stay what they are after all later calls.
    (∀ i name, set.nameOf? i = some name ↔
      ∃ position since, Opens calls i name position since) ∧
    (∀ i name position since, Opens calls i name position since →
      ∀ later, let next := ofCalls (calls ++ later)
        next.indexOf? name = some i ∧ next.nameOf? i = some name ∧
        next.originalPosition i = .ok position ∧
        next.get i = .ok (lastBound? i name (since ++ later))) ∧
    -- Each call either fails or succeeds.
    (∀ name position, let next := ofCalls (calls ++ [.declare name position])
      (name ∈ declared calls ∧ next = set ∧
        set.declare name position = .error (.configuration (.repeatedCoefficient name))) ∨
      (name ∉ declared calls ∧ set.declare name position = .ok (set.size, next) ∧
        next.slots = set.slots ++ [⟨name, none, position⟩])) ∧
    (∀ i f, let next := ofCalls (calls ++ [.set i f])
      (set.size ≤ i ∧ next = set ∧
        set.set i f = .error (.indexOutOfRange .coefficient i set.size)) ∨
      (i < set.size ∧ set.set i f = .ok next ∧ Rebound set i f next)) ∧
    (∀ name f, let next := ofCalls (calls ++ [.setByName name f])
      (name ∉ declared calls ∧ next = set ∧
        set.setByName name f = .error (.coefficientNotFound name)) ∨
      (name ∈ declared calls ∧ set.setByName name f = .ok next ∧
        ∃ i, set.indexOf? name = some i ∧ Rebound set i f next)) ∧
    -- The check of all slots goes by the bindings.
    (set.checkAllSet = .ok () ↔ ∀ i < set.size, Binds calls i) ∧
    (∀ e, set.checkAllSet = .error e ↔
      ∃ i name, set.nameOf? i = some name ∧ ¬ Binds calls i ∧ (∀ j < i, Binds calls j) ∧
        e = .configuration (.unboundCoefficient i name)) := by
  intro set
  refine ⟨fun _ _ => indexOf?_eq_some_iff, fun _ => isSome_indexOf?_ofCalls, ?_,
    size_ofCalls calls, fun _ _ => nameOf?_ofCalls, ?_, ?_, ?_, ?_, checkAllSet_ofCalls_eq_ok_iff,
    fun _ => checkAllSet_ofCalls_eq_error_iff⟩
  · intro i
    simp [nameOf?, CoefficientSet.size]
  · intro i name position since opens later
    exact lookups_of_opens (opens.append later)
  · intro name position
    simp only [ofCalls_concat, ← mem_names_ofCalls]
    rcases set.after_declare_cases name position with ⟨taken, failed, same⟩ | grown
    · exact Or.inl ⟨taken, same, failed⟩
    · exact Or.inr grown
  · intro i f
    simp only [ofCalls_concat]
    rcases set.after_set_cases i f with ⟨outside, failed, same⟩ | ⟨inside, bound, same⟩
    · exact Or.inl ⟨outside, same, failed⟩
    · exact Or.inr ⟨inside, same ▸ bound, same ▸ rebound_bind inside f⟩
  · intro name f
    simp only [ofCalls_concat, ← isSome_indexOf?_ofCalls]
    rcases set.after_setByName_cases name f with
      ⟨missing, failed, same⟩ | ⟨i, found, inside, bound, same⟩
    · exact Or.inl ⟨by simp [set, missing], same, failed⟩
    · exact Or.inr ⟨by simp [set, found], same ▸ bound, i, found, same ▸ rebound_bind inside f⟩

theorem ofCalls_follows_history_declared_twice :
    let f := CoefficientFunction.constant #[1]
    let since : List (CoefficientCall Nat) := [.declare "f" 9, .set 5 f, .setByName "f" f]
    let calls := [.declare "kappa" 0, .declare "f" 2] ++ since
    Opens calls 1 "f" 2 since ∧ (ofCalls calls).indexOf? "f" = some 1 ∧
      (ofCalls calls).originalPosition 1 = .ok 2 ∧ (ofCalls calls).get 1 = .ok (some f) ∧
      (ofCalls calls).checkAllSet = .error (.configuration (.unboundCoefficient 0 "kappa")) := by
  intro f since calls
  have opens : Opens calls 1 "f" 2 since := ⟨[.declare "kappa" 0], rfl, by decide, by decide⟩
  have free : ¬ Binds calls 0 := by
    intro binds
    rcases binds_iff.mp binds with ⟨slot, there, bound⟩
    cases there
    exact bound rfl
  rcases ofCalls_follows_history calls with ⟨_, _, _, _, _, lookups, _, _, _, _, unbound⟩
  have answers := lookups 1 "f" 2 since opens []
  exact ⟨opens, answers.1, answers.2.2.1, answers.2.2.2,
    (unbound _).mpr ⟨0, "kappa", rfl, free, by simp, rfl⟩⟩

end CoefficientSet
end FormAssembly
