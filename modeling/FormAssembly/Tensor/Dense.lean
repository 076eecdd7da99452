import FormAssembly.Message.Member
import FormAssembly.Tensor.Basic

/-!
# Dense tensors

A tensor of any rank whose values every process stores in full, in row-major order. Before `apply`
a process holds its own contributions, afterwards the sums over all processes. The leading
dimension is divided evenly between the processes as a matter of information only.
-/

namespace FormAssembly

/-- Values of a tensor of any rank, as one process of a group holds them. -/
structure DenseTensor (α : Type) where
  dims : List Nat
  /-- Values in row-major order. -/
  values : Array α
  member : Member
  size_values : values.size = Block.volume dims

namespace DenseTensor

variable {α β : Type}

/-- The zero tensor of given dimensions, whose volume is meant to fit a word. -/
def zero [Zero α] (member : Member) (dims : List Nat) : DenseTensor α :=
  ⟨dims, Array.replicate (Block.volume dims) 0, member, by simp⟩

/-- Number of dimensions. -/
def rank (t : DenseTensor α) : Nat :=
  t.dims.length

/-! ## Addressing -/

/-- Passes iff there is one index array for each dimension and all indices are in range. -/
def checkRows (t : DenseTensor α) (rows : List (List Nat)) : Except Error Unit :=
  if rows.length ≠ t.rank then .error (.unsupportedRank t.rank rows.length)
  else
    match Block.firstStray? t.dims rows with
    | some (index, length) => .error (.indexOutOfRange .tensor index length)
    | none => .ok ()

/-- Passes iff a block has one value for each entry it addresses. The number of entries is computed
in words. Where it has wrapped around to the length of the block, the program stops at the entries
for which the block has no values. -/
def checkBlock (block : List α) (rows : List (List Nat)) : Except Error Unit :=
  let expected := (Block.wordSize rows).toNat
  -- A block in memory has a length that fits a word, so for one that passes nothing wraps around.
  if block.length = Block.size rows then .ok ()
  else if block.length = expected then .error .stopped
  else .error (.blockShape expected block.length)

/-- The value at a multi-index. -/
def entry [Zero α] (t : DenseTensor α) (index : List Nat) : Except Error α := do
  t.checkRows (index.map fun i => [i])
  return t.values.getD (Block.flatIndex t.dims index) 0

/-! ## Changing values -/

/-- Changes the values at given places one after another, each with a number of its own. -/
def modifyEach (f : α → α → α) (places : List Nat) (numbers : List α) (values : Array α) :
    Array α :=
  (places.zip numbers).foldl (fun vs (place, number) => vs.modify place fun v => f v number) values

@[simp] theorem size_modifyEach (f : α → α → α) (places : List Nat) (numbers : List α)
    (values : Array α) : (modifyEach f places numbers values).size = values.size := by
  unfold modifyEach
  induction places.zip numbers generalizing values with
  | nil => rfl
  | cons first rest ih => simp [ih]

/-- Changes the entries of the block at `rows`, each by its value in the block. -/
def modifyBlock (f : α → α → α) (t : DenseTensor α) (block : List α) (rows : List (List Nat)) :
    DenseTensor α :=
  { t with
    values := modifyEach f (Block.targets t.dims rows) block t.values
    size_values := by simp [t.size_values] }

/-- The tensor of the same shape with each value computed from its place. -/
def tabulate (t : DenseTensor α) (f : Nat → α) : DenseTensor α :=
  { t with
    values := Array.ofFn fun place : Fin t.values.size => f place
    size_values := by simp [t.size_values] }

/-! ## The operations of a tensor -/

/-- The zero tensor of other dimensions. -/
def resize [Zero α] (t : DenseTensor α) (rank : Nat) (dims : List Nat) :
    Except Error (DenseTensor α) :=
  if dims.length = rank then .ok (zero t.member dims)
  else .error (.configuration (.resizeDimensions rank dims.length))

/-- Size of a dimension. -/
def size (t : DenseTensor α) (dim : Nat) : Except Error Nat :=
  if t.dims.isEmpty then .error (.unsupportedOperation .rankZeroSize)
  else
    match t.dims[dim]? with
    | some n => .ok n
    | none => .error (.indexOutOfRange .dimension dim t.rank)

/-- Part of `0, …, n - 1` that falls to one of `count` processes: consecutive parts as equal as
can be, the longer ones first. -/
def share (n count rank : Nat) : Nat × Nat :=
  let base := n / count
  let extra := n % count
  let start := rank * base + min rank extra
  (start, start + base + if rank < extra then 1 else 0)

/-- A process owns its share of the leading dimension and all of every other. -/
def localRange (t : DenseTensor α) (dim : Nat) : Except Error (Nat × Nat) := do
  let n ← t.size dim
  if dim = 0 then return share n (max t.member.size 1) t.member.rank
  else return (0, n)

/-- The values of the block at `rows`. -/
def get [Zero α] (t : DenseTensor α) (buffer : List α) (rows : List (List Nat)) :
    Except Error (List α) := do
  t.checkRows rows
  checkBlock buffer rows
  return (Block.targets t.dims rows).map fun place => t.values.getD place 0

def set (t : DenseTensor α) (block : List α) (rows : List (List Nat)) :
    Except Error (DenseTensor α) := do
  t.checkRows rows
  checkBlock block rows
  return t.modifyBlock (fun _ number => number) block rows

def add [Add α] (t : DenseTensor α) (block : List α) (rows : List (List Nat)) :
    Except Error (DenseTensor α) := do
  t.checkRows rows
  checkBlock block rows
  return t.modifyBlock accumulate block rows

/-- Replaces every value by the sum over all processes of the values at its place, which each of
them computes in the order of ranks. In a group of one there is nothing to do. -/
def apply [Zero α] [Add α] [SumStart α] [Code α β] (t : DenseTensor α) (mode : ApplyMode) :
    Exchange β (Reported (Except Error (DenseTensor α))) := do
  let count := t.values.size
  let events := [Event.denseApply mode.name count t.member.size]
  if t.member.alone || t.member.size = 1 then
    return ⟨.ok t, events⟩
  else
    let gathered ← t.member.gatherValues t.values.toList
    let summed := gathered.map fun values =>
      let all := values.toArray
      t.tabulate fun place =>
        sumByRank ((List.range t.member.size).map fun rank => all.getD (rank * count + place) 0)
    return ⟨summed, events⟩

instance [Inspect α] : Inspect (DenseTensor α) :=
  ⟨fun t => Inspect.partialRecord "DenseTensor"
    [("dims", inspect t.dims), ("values", inspect t.values)]⟩

instance [Zero α] [Add α] [SumStart α] [Code α β] : Tensor (DenseTensor α) α β where
  rank := rank
  resize := resize
  size := size
  localRange := localRange
  get := get
  set := set
  add := add
  zero t := zero t.member t.dims
  apply := apply
  display t := s!"<DenseTensor of rank {t.rank} with dims {inspect t.dims}>"

/-- Makes dense tensors of one process. -/
def factory [Zero α] (member : Member) : TensorFactory (DenseTensor α) where
  create rank dims := (zero member []).resize rank dims

end DenseTensor
end FormAssembly
