import FormAssembly.Message.Member
import FormAssembly.Tensor.Basic

/-!
# Scalars

A tensor of rank 0: one value on each process. It takes blocks of at least one value, looks only
at the first, and has no use for index arrays.
-/

namespace FormAssembly

/-- One value of one process of a group. -/
structure ScalarTensor (α : Type) where
  value : α
  member : Member
  deriving DecidableEq

namespace ScalarTensor

variable {α β : Type}

/-- The zero of a process. -/
def zero [Zero α] (member : Member) : ScalarTensor α :=
  ⟨0, member⟩

/-- The scalar with another value. -/
def assign (t : ScalarTensor α) (value : α) : ScalarTensor α :=
  { t with value }

/-- The value that counts in a block. -/
def first (block : List α) : Except Error α :=
  match block with
  | [] => .error (.blockShape 1 0)
  | value :: _ => .ok value

/-- Zero again; only rank 0 will do, and dimensions do not matter. -/
def resize [Zero α] (t : ScalarTensor α) (rank : Nat) (_dims : List Nat) :
    Except Error (ScalarTensor α) :=
  if rank = 0 then .ok (t.assign 0) else .error (.unsupportedRank 0 rank)

/-- Writes the value over the first place of a buffer. -/
def get (t : ScalarTensor α) (buffer : List α) (_rows : List (List Nat)) :
    Except Error (List α) :=
  (first buffer).map fun _ => t.value :: buffer.tail

def set (t : ScalarTensor α) (block : List α) (_rows : List (List Nat)) :
    Except Error (ScalarTensor α) :=
  (first block).map t.assign

def add [Add α] (t : ScalarTensor α) (block : List α) (_rows : List (List Nat)) :
    Except Error (ScalarTensor α) :=
  (first block).map fun value => t.assign (accumulate t.value value)

/-- Replaces the value by the sum over all processes, which each of them computes in the order of
ranks. In a group of one there is nothing to do. -/
def apply [Zero α] [Add α] [SumStart α] [Code α β] (t : ScalarTensor α) (mode : ApplyMode) :
    Exchange β (Reported (Except Error (ScalarTensor α))) := do
  let events := [Event.scalarApply mode.name t.member.size]
  if t.member.alone || t.member.size = 1 then
    return ⟨.ok t, events⟩
  else
    let gathered ← t.member.gatherValues [t.value]
    return ⟨gathered.map fun values => t.assign (sumByRank values), events⟩

instance [Inspect α] : Inspect (ScalarTensor α) :=
  ⟨fun t => Inspect.record "ScalarTensor"
    [("value", inspect t.value), ("rank", inspect t.member.rank),
     ("size", inspect t.member.size)]⟩

/-- Number types with a plain text, for display. -/
class Display (α : Type) where
  text : α → String

instance : Display Binary64 := ⟨DecimalStyle.plain.text⟩

instance [Zero α] [Add α] [SumStart α] [Code α β] [Display α] :
    Tensor (ScalarTensor α) α β where
  rank _ := 0
  resize := resize
  size _ _ := .error (.unsupportedOperation .scalarSize)
  localRange _ _ := .error (.unsupportedOperation .scalarRange)
  get := get
  set := set
  add := add
  zero t := t.assign 0
  apply := apply
  display t := s!"<Scalar value {Display.text t.value}>"

/-- Makes scalars of one process; there are none of another rank than 0. -/
def factory [Zero α] (member : Member) : TensorFactory (ScalarTensor α) where
  create rank _ := if rank = 0 then .ok (zero member) else .error (.unsupportedRank 0 rank)

end ScalarTensor

/-- Sums of binary64 numbers start from -0, the neutral element of rounded addition. -/
instance : SumStart Binary64 := ⟨Binary64.negativeZero⟩

end FormAssembly
