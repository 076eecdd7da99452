import FormAssembly.Coefficient.Basic

/-!
# Registry of coefficients

The coefficients of a form are slots in the order of their declaration, each with a name of its
own and, once bound, a function. Kernels find coefficients by place, users also by name.
-/

namespace FormAssembly

/-- A declared coefficient. -/
structure CoefficientSlot (α : Type) where
  name : String
  function : Option (CoefficientFunction α)
  /-- Its place before unused coefficients were dropped. -/
  originalPosition : Nat

instance {α : Type} : Inspect (CoefficientSlot α) :=
  ⟨fun slot => Inspect.record "Entry"
    [("name", inspect slot.name), ("function", inspect slot.function),
     ("original_position", inspect slot.originalPosition)]⟩

/-- Slots with distinct names. -/
structure CoefficientSet (α : Type) where
  slots : List (CoefficientSlot α)
  names_nodup : (slots.map (·.name)).Nodup

namespace CoefficientSet

variable {α : Type}

/-- No coefficients. -/
def empty : CoefficientSet α :=
  ⟨[], List.nodup_nil⟩

/-- Number of slots. -/
def size (set : CoefficientSet α) : Nat :=
  set.slots.length

def isEmpty (set : CoefficientSet α) : Bool :=
  set.slots.isEmpty

/-! ## Lookup -/

/-- Place of the slot with a name. -/
def indexOf? (set : CoefficientSet α) (name : String) : Option Nat :=
  set.slots.findIdx? fun slot => slot.name = name

/-- Name of a slot. -/
def nameOf? (set : CoefficientSet α) (i : Nat) : Option String :=
  set.slots[i]?.map (·.name)

/-- The slot at a place. -/
def slot (set : CoefficientSet α) (i : Nat) : Except Error (CoefficientSlot α) :=
  match set.slots[i]? with
  | some slot => .ok slot
  | none => .error (.indexOutOfRange .coefficient i set.size)

/-- The function of a slot, if it is bound. -/
def get (set : CoefficientSet α) (i : Nat) : Except Error (Option (CoefficientFunction α)) :=
  (set.slot i).map (·.function)

def originalPosition (set : CoefficientSet α) (i : Nat) : Except Error Nat :=
  (set.slot i).map (·.originalPosition)

/-! ## Declaring and binding -/

/-- Adds an unbound slot; the result is its place and the new registry. -/
def declare (set : CoefficientSet α) (name : String) (originalPosition : Nat) :
    Except Error (Nat × CoefficientSet α) :=
  if taken : name ∈ set.slots.map (·.name) then
    .error (.configuration (.repeatedCoefficient name))
  else
    .ok (set.size,
      { slots := set.slots ++ [⟨name, none, originalPosition⟩]
        names_nodup := by
          rw [List.map_append]
          refine List.nodup_append.mpr ⟨set.names_nodup, by simp, ?_⟩
          intro a ha b hb
          have : b = name := by simpa using hb
          rintro rfl
          exact taken (this ▸ ha) })

/-- Gives a slot a function, in place of the one it may have. -/
def bind (set : CoefficientSet α) (i : Nat) (f : CoefficientFunction α) : CoefficientSet α where
  slots := set.slots.modify i fun slot => { slot with function := some f }
  names_nodup := by
    have : (set.slots.modify i fun slot => { slot with function := some f }).map (·.name) =
        set.slots.map (·.name) := by
      apply List.ext_getElem? fun j => ?_
      simp only [List.getElem?_map, List.getElem?_modify]
      split <;> cases set.slots[j]? <;> rfl
    rw [this]
    exact set.names_nodup

/-- Binds the slot at a place. -/
def set (set : CoefficientSet α) (i : Nat) (f : CoefficientFunction α) :
    Except Error (CoefficientSet α) := do
  Error.checkIndex .coefficient i set.size
  return set.bind i f

/-- Binds the slot with a name. -/
def setByName (set : CoefficientSet α) (name : String) (f : CoefficientFunction α) :
    Except Error (CoefficientSet α) :=
  match set.indexOf? name with
  | some i => set.set i f
  | none => .error (.coefficientNotFound name)

/-! ## Completeness -/

/-- The first slot without function, with its place. -/
def firstUnbound? (set : CoefficientSet α) : Option (Nat × String) :=
  (set.slots.zipIdx.find? fun (slot, _) => slot.function.isNone).map fun (slot, i) =>
    (i, slot.name)

/-- Passes iff every slot is bound; otherwise names the first that is not. -/
def checkAllSet (set : CoefficientSet α) : Except Error Unit :=
  match set.firstUnbound? with
  | none => .ok ()
  | some (i, name) => .error (.configuration (.unboundCoefficient i name))

instance : Inspect (CoefficientSet α) :=
  ⟨fun set => Inspect.record "CoefficientSet"
    [("entries", inspect set.slots),
     ("by_name", Inspect.braces (set.slots.zipIdx.map fun (slot, i) =>
       (inspect slot.name, inspect i)))]⟩

end CoefficientSet
end FormAssembly
