import FormAssembly.Error
import FormAssembly.Event
import FormAssembly.Message.Exchange
import FormAssembly.Tensor.Block

/-!
# Tensors

What assembly asks of the object that it assembles into. `add` and `set` change only what one
process holds. `apply` is collective: every process of the group calls it once after its
contributions, and after that all hold the same values.
-/

namespace FormAssembly

/-- What becomes of values that several processes contribute to one entry. -/
inductive ApplyMode
  /-- They are summed. -/
  | add
  deriving DecidableEq, Repr

namespace ApplyMode

def name : ApplyMode → String
  | add => "add"

/-- The mode with a given name. -/
def ofName (text : String) : Except Error ApplyMode :=
  if text = "add" then .ok .add else .error (.unknownApplyMode text)

theorem ofName_name (mode : ApplyMode) : ofName mode.name = .ok mode := by
  cases mode
  rfl

end ApplyMode

/-- The number that sums over processes start from. -/
class SumStart (α : Type) where
  start : α

/-- The sum of the values of all processes, added up in the order of ranks. -/
def sumByRank {α : Type} [Add α] [SumStart α] (values : List α) : α :=
  values.foldl (· + ·) SumStart.start

/-- What an entry becomes when a value is added to it. The value is the left operand, which matters
only for numbers that are not quite commutative: of two NaNs it is the added one that stays. -/
def accumulate {α : Type} [Add α] (entry value : α) : α :=
  value + entry

/-- Objects that forms can be assembled into. `τ` is the type of the tensor, `α` that of its
values and `β` that of the units of messages. A failing operation leaves the tensor as it was. -/
class Tensor (τ : Type) (α β : outParam Type) where
  /-- Number of dimensions. -/
  rank : τ → Nat
  /-- The tensor of a rank and dimensions with all values zero. -/
  resize : τ → (rank : Nat) → (dims : List Nat) → Except Error τ
  /-- Size of a dimension. -/
  size : τ → (dim : Nat) → Except Error Nat
  /-- First index, and index after the last, of the part of a dimension that this process owns. -/
  localRange : τ → (dim : Nat) → Except Error (Nat × Nat)
  /-- Reads the block at `rows` into a buffer. -/
  get : τ → (buffer : List α) → (rows : List (List Nat)) → Except Error (List α)
  /-- Overwrites the block at `rows`. -/
  set : τ → (block : List α) → (rows : List (List Nat)) → Except Error τ
  /-- Adds to the block at `rows`, entry by entry as `accumulate` does. -/
  add : τ → (block : List α) → (rows : List (List Nat)) → Except Error τ
  /-- Makes all values zero. -/
  zero : τ → τ
  /-- Finalizes the tensor together with the other processes. -/
  apply : τ → ApplyMode → Exchange β (Reported (Except Error τ))
  /-- Text for display. -/
  display : τ → String

namespace Tensor

variable {τ α β : Type} [Tensor τ α β]

/-- `add` for index arrays that lie one after another in `flat`, `counts` telling their lengths. If
the lengths only add up to that of `flat` because their sum has wrapped around, the program stops at
the array that is no longer there in full. -/
def addFlat (t : τ) (block : List α) (counts flat : List Nat) : Except Error τ :=
  let total := (Block.wordTotal counts).toNat
  if total = flat.length then
    match Block.split? counts flat with
    | some rows => add t block rows
    | none => .error .stopped
  else .error (.blockShape total flat.length)

/-- `add` for index arrays that the caller gives away. -/
def addOwned (t : τ) (block : List α) (rows : List (List Nat)) : Except Error τ :=
  add t block rows

end Tensor

/-- A way to make zero tensors. -/
structure TensorFactory (τ : Type) where
  create : (rank : Nat) → (dims : List Nat) → Except Error τ

end FormAssembly
