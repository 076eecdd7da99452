import FormAssembly.Error

/-!
# Kernels

A kernel evaluates one integral on one mesh entity. It is handed a block of values, all zero, and
returns the block with the entity's contribution; the type fixes that it cannot change the length.
-/

namespace FormAssembly

/-- Where a kernel is evaluated. -/
structure Geometry (α : Type) where
  /-- Coordinates of the cell, vertex after vertex. -/
  coordinates : Array α
  /-- Number of the facet within the cell, when integrating over a facet. -/
  localFacet : Option Nat

/-- A computation that fills a block from coefficient values, a geometry and the number of the
entity's subdomain. -/
structure Kernel (α : Type) where
  tabulate : {n : Nat} → Vector α n → (coefficients : Array α) → Geometry α →
    (marker : Option Nat) → Vector α n

/-- An integral as a form declares it. -/
structure IntegralRecord (α : Type) where
  kind : IntegralKind
  /-- The subdomain it is for; the integral without one is for all other entities. -/
  subdomain : Option Nat
  kernel : Kernel α
  /-- Which coefficients the kernel reads; without a mask, all. -/
  mask : Option (List Bool)

instance : Inspect IntegralKind := ⟨IntegralKind.constructorName⟩

instance {α : Type} : Inspect (IntegralRecord α) :=
  ⟨fun r => Inspect.partialRecord "IntegralRecord"
    [("kind", inspect r.kind), ("subdomain", inspect r.subdomain),
     ("enabled_coefficients", inspect r.mask)]⟩

end FormAssembly
