import FormAssembly.Ascending
import FormAssembly.Integral.Kernel
import FormAssembly.Tensor.Block

/-!
# Registry of integrals

The integrals of a form by kind, at most one for each subdomain. Each kind's list is in ascending
order of subdomains with the default integral, the one without subdomain, in front; so a registry
does not remember in which order its integrals arrived.
-/

namespace FormAssembly

/-- A registered integral of some kind. -/
structure Integral (α : Type) where
  subdomain : Option Nat
  kernel : Kernel α
  mask : Option (List Bool)

namespace Integral

variable {α : Type}

/-- Rank of a subdomain in a registry: that of the default integral is least. -/
def rank : Option Nat → Nat
  | none => 0
  | some subdomain => subdomain + 1

/-- Rank of an integral's subdomain. -/
abbrev key (integral : Integral α) : Nat :=
  rank integral.subdomain

/-- Whether the kernel reads coefficient `i`. -/
def usesCoefficient (integral : Integral α) (i : Nat) : Bool :=
  match integral.mask with
  | none => true
  | some mask => mask.getD i false

instance : Inspect (Integral α) :=
  ⟨fun i => Inspect.partialRecord "Integral"
    [("subdomain", inspect i.subdomain), ("enabled_coefficients", inspect i.mask)]⟩

theorem rank_injective {a b : Option Nat} (h : rank a = rank b) : a = b := by
  cases a <;> cases b <;> simp_all [rank]

end Integral

/-- A declared integral without its kind. -/
def IntegralRecord.toIntegral {α : Type} (record : IntegralRecord α) : Integral α :=
  ⟨record.subdomain, record.kernel, record.mask⟩

/-- Integrals by kind, sorted by subdomain. -/
structure IntegralSet (α : Type) where
  lists : PerKind (List (Integral α))
  sorted : ∀ kind, Ascending.Sorted Integral.key (lists.get kind)

namespace IntegralSet

variable {α : Type}

/-- A registry without integrals. -/
def empty : IntegralSet α :=
  ⟨.const [], fun kind => by simp [Ascending.Sorted]⟩

/-- The integrals of a kind. -/
def integrals (set : IntegralSet α) (kind : IntegralKind) : List (Integral α) :=
  set.lists.get kind

/-- The integral of a kind for exactly this subdomain. -/
def find? (set : IntegralSet α) (kind : IntegralKind) (subdomain : Option Nat) :
    Option (Integral α) :=
  Ascending.find? Integral.key (Integral.rank subdomain) (set.integrals kind)

/-- The registry with one more integral. -/
def put (set : IntegralSet α) (kind : IntegralKind) (integral : Integral α) : IntegralSet α where
  lists := set.lists.set kind (Ascending.insert Integral.key integral (set.integrals kind))
  sorted := by
    intro k
    rw [PerKind.get_set]
    split
    · exact Ascending.sorted_insert _ (set.sorted kind)
    · exact set.sorted k

/-- Registers an integral, unless its kind and subdomain are taken. -/
def insert (set : IntegralSet α) (record : IntegralRecord α) : Except Error (IntegralSet α) :=
  match set.find? record.kind record.subdomain with
  | some _ => .error (.configuration (.repeatedIntegral record.kind record.subdomain))
  | none => .ok (set.put record.kind record.toIntegral)

/-- Registers a declared integral after checking that its mask speaks only of the
`numCoefficients` coefficients there are. -/
def insertChecked (numCoefficients : Nat) (set : IntegralSet α) (record : IntegralRecord α) :
    Except Error (IntegralSet α) :=
  match record.mask with
  | none => set.insert record
  | some mask =>
      if numCoefficients < mask.length then
        .error (.configuration (.longMask record.kind mask.length numCoefficients))
      else
        set.insert record

/-- The registry of a list of declared integrals of a form with `numCoefficients` coefficients. -/
def ofRecords (records : List (IntegralRecord α)) (numCoefficients : Nat) :
    Except Error (IntegralSet α) :=
  records.foldlM (insertChecked numCoefficients) empty

/-- Number of integrals of a kind. -/
def count (set : IntegralSet α) (kind : IntegralKind) : Nat :=
  (set.integrals kind).length

/-- Whether there is an integral of a kind. -/
def has (set : IntegralSet α) (kind : IntegralKind) : Bool :=
  !(set.integrals kind).isEmpty

/-- The kinds that have integrals. -/
def kinds (set : IntegralSet α) : List IntegralKind :=
  IntegralKind.all.filter set.has

/-- The integral of a kind without subdomain, which can only be the first. -/
def default? (set : IntegralSet α) (kind : IntegralKind) : Option (Integral α) :=
  (set.integrals kind).head?.filter fun integral => integral.subdomain.isNone

/-- The integral to evaluate on an entity: the one for its marker if there is one, else the
default. -/
def integralFor (set : IntegralSet α) (kind : IntegralKind) (marker : Option Nat) :
    Option (Integral α) :=
  (marker.bind fun m => set.find? kind (some m)).or (set.default? kind)

/-- Largest block of an integral of a kind, if argument `i` has at most `maxDofs[i]` degrees of
freedom on a cell. -/
def maxBlockSize (set : IntegralSet α) (kind : IntegralKind) (maxDofs : List Nat) : Nat :=
  if set.has kind then Block.volume (maxDofs.map (· * kind.cellsPerEntity)) else 0

instance : Inspect (IntegralSet α) :=
  ⟨fun set => Inspect.record "IntegralSet"
    [("by_kind", inspect (IntegralKind.all.map set.integrals))]⟩

@[ext] theorem ext {left right : IntegralSet α}
    (same : ∀ kind, left.integrals kind = right.integrals kind) : left = right := by
  cases left
  cases right
  simp only [mk.injEq]
  exact PerKind.ext_get same

theorem integrals_put (set : IntegralSet α) (kind other : IntegralKind) (integral : Integral α) :
    (set.put kind integral).integrals other =
      if other = kind then Ascending.insert Integral.key integral (set.integrals kind)
      else set.integrals other := by
  simp [integrals, put]

/-- The default integral is the one registered without subdomain. -/
theorem default?_eq_find? (set : IntegralSet α) (kind : IntegralKind) :
    set.default? kind = set.find? kind none := by
  have sorted : Ascending.Sorted Integral.key (set.integrals kind) := set.sorted kind
  unfold default? find?
  cases h : set.integrals kind with
  | nil => rfl
  | cons first rest =>
      rw [h] at sorted
      have above := (List.pairwise_cons.mp sorted).1
      have later : ∀ i ∈ rest, ¬ Integral.key i = Integral.rank none := by
        intro i hi same
        have := above i hi
        simp only [Integral.rank] at same
        omega
      cases hs : first.subdomain with
      | none =>
          simp [Ascending.find?, Integral.key, hs]
      | some m =>
          have absent : Ascending.find? Integral.key (Integral.rank none) (first :: rest) = none := by
            refine List.find?_eq_none.mpr fun i hi => ?_
            rcases List.mem_cons.mp hi with rfl | hi
            · simp [Integral.key, Integral.rank, hs]
            · simpa using later i hi
          rw [absent]
          simp [Option.filter, hs]

end IntegralSet
end FormAssembly
