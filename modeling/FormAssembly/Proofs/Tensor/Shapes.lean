import FormAssembly.Proofs.Message.Leftover
import FormAssembly.Proofs.Tensor.Collective

/-!
# Tensors of different shapes

The ranks of a group call `apply` on tensors whose dimensions have nothing to do with each other.
All that a rank learns about the tensor of a peer is the length of its message, so what counts is
the number of values. If two ranks differ in it, `apply` fails everywhere and leaves all tensors as
they were. If not, the values are summed up in row-major order, also if the dimensions differ
(`DenseTensor.apply_compares_volumes`).
-/

namespace FormAssembly
namespace DenseTensor

variable {α β : Type} {rank size : Nat} {t : (rank : Nat) → DenseTensor α}

/-- What a rank has after a call of `apply`: its tensor, which stays as it was if the call failed,
and how the call ended. -/
def settled (t : DenseTensor α) (report : Reported (Except Error (DenseTensor α))) :
    DenseTensor α × Except Error Unit :=
  match report.value with
  | .ok u => (u, .ok ())
  | .error cause => (t, .error cause)

theorem length_values (t : DenseTensor α) : t.values.toList.length = Block.volume t.dims := by
  rw [Array.length_toList, t.size_values]

variable [Zero α] [Add α] [SumStart α] [Code α β]

/-- The call of a rank that finalizes its tensor. -/
def applyOnce (_round _rank : Nat) (held : DenseTensor α × Except Error Unit) :
    Exchange β (DenseTensor α × Except Error Unit) := do
  let report ← held.1.apply .add
  return settled held.1 report

/-- What a rank has after its call, given the tensors of all ranks. -/
def appliedTo (size : Nat) (t : (rank : Nat) → DenseTensor α) (rank : Nat) :
    DenseTensor α × Except Error Unit :=
  settled (t rank) ((t rank).concluded ((⟨rank, size, false⟩ : Member).gatherOutcome
    (t rank).values.toList fun peer => (t peer).values.toList))

/-- If two ranks have different numbers of values, every rank has a peer that differs from it. -/
theorem appliedTo_of_unequal (place : (t rank).member = ⟨rank, size, false⟩) (several : size ≠ 1)
    (unequal : ∃ p < size, ∃ q < size, Block.volume (t p).dims ≠ Block.volume (t q).dims) :
    ∃ fault, appliedTo size t rank = (t rank, .error (.communication fault)) := by
  simp only [← length_values] at unequal
  have differs : ∃ peer ∈ (⟨rank, size, false⟩ : Member).peers,
      (t peer).values.toList.length ≠ (t rank).values.toList.length :=
    @Member.exists_peer_of_unequal _ _ rank (fun source => (t source).values.toList) unequal
  rcases Member.exists_gatherOutcome_of_unequal differs with ⟨peer, _, _, _, _, failed⟩
  refine ⟨.unequal peer ((t peer).values.toList.length * Code.width α)
    ((t rank).values.toList.length * Code.width α), ?_⟩
  rw [appliedTo, failed]
  simp [settled, concluded, place, several, Except.map]

theorem appliedTo_of_equal (place : (t rank).member = ⟨rank, size, false⟩) (inside : rank < size)
    (equal : ∀ source < size, Block.volume (t source).dims = Block.volume (t rank).dims) :
    appliedTo size t rank = (finalized size t rank, .ok ()) := by
  have fits : ∀ peer ∈ (⟨rank, size, false⟩ : Member).peers,
      (t peer).values.toList.length = (t rank).values.toList.length := by
    intro peer among
    rw [length_values, length_values]
    exact equal peer (Member.mem_peers.mp among).1
  have gathered : (⟨rank, size, false⟩ : Member).gatherOutcome (t rank).values.toList
      (fun peer => (t peer).values.toList) =
        .ok (inRankOrder size fun source => (t source).values.toList) :=
    (Member.gatherOutcome_of_equal fits).trans (by rw [Function.update_eq_self])
  have same : ∀ source < size, (t source).values.size = Block.volume (t rank).dims := by
    intro source below
    rw [(t source).size_values, equal source below]
  rw [appliedTo, gathered, concluded_inRankOrder place inside same]
  rfl

/-- One round in which every rank finalizes its tensor, whatever the shapes. -/
def applications (size : Nat) (t : (rank : Nat) → DenseTensor α) (wide : 0 < Code.width α)
    (place : ∀ rank < size, (t rank).member = ⟨rank, size, false⟩) :
    Agenda β (DenseTensor α × Except Error Unit) :=
  let values (_round rank : Nat) : List α := (t rank).values.toList
  let gatherings := Member.gatherings size 1 values wide
  { size := size
    count := 1
    call := applyOnce
    state := fun round rank => if round = 0 then (t rank, .ok ()) else appliedTo size t rank
    outgoing := gatherings.outgoing
    incoming := gatherings.incoming
    follows_call := by
      intro round only rank inside
      obtain rfl : round = 0 := Nat.lt_one_iff.mp only
      -- In the first round peers answer with their contributions to that round.
      show ((t rank).apply .add >>= fun report => .done (settled (t rank) report)).Follows _ _ _
      rw [apply_of_member (place rank inside) inside, Exchange.bind_assoc]
      exact (Member.follows_gatherValues (m := ⟨rank, size, false⟩) rfl inside wide
        (t rank).values.toList (values 0)).bind_done
          fun gathered => settled (t rank) ((t rank).concluded gathered)
    source_lt := gatherings.source_lt
    taken_sent := gatherings.taken_sent }

section

variable {wide : 0 < Code.width α} {place : ∀ rank < size, (t rank).member = ⟨rank, size, false⟩}
  {s : Callers β (DenseTensor α × Except Error Unit)} {unsent untaken : Nat → List (Nat × List β)}

/-- A rank whose call is over has what its call made. -/
theorem holds_appliedTo (inv : (applications size t wide place).Invariant s unsent untaken)
    (finished : s.Finished 1 rank) : s.Holds rank (appliedTo size t rank) := by
  rcases finished with ⟨once, held, holds⟩
  have made : held = (applications size t wide place).state (s.begun rank) rank :=
    inv.eq_state holds
  rw [once] at made
  have same : held = appliedTo size t rank := made
  exact same ▸ holds

end

/-- Every rank of a group calls `apply` once, each on a tensor of its own shape. All calls come to
an end, whatever order the ranks take their steps in. If the numbers of values are not all equal,
every call fails and every rank keeps its tensor. If they are, every call succeeds, and every rank
has the sums in the order of ranks, in its own dimensions: these are never compared. -/
theorem apply_compares_volumes {size : Nat} (several : 2 ≤ size)
    {t : (rank : Nat) → DenseTensor Binary64}
    (place : ∀ rank < size, (t rank).member = ⟨rank, size, false⟩)
    {s : Callers UInt8 (DenseTensor Binary64 × Except Error Unit)}
    (run : Callers.Run applyOnce 1 (.idle ((List.range size).map fun rank => (t rank, .ok ()))) s) :
    Callers.Inevitable applyOnce 1 (fun s => ∀ rank < size, s.Finished 1 rank) s ∧
    ((∃ p < size, ∃ q < size, Block.volume (t p).dims ≠ Block.volume (t q).dims) →
      ∀ rank < size, s.Finished 1 rank →
        ∃ fault, s.Holds rank (t rank, .error (.communication fault))) ∧
    ((∀ p < size, ∀ q < size, Block.volume (t p).dims = Block.volume (t q).dims) →
      ∀ rank < size, s.Finished 1 rank → s.Holds rank
        ((t rank).tabulate fun place => sumByRank ((List.range size).map fun source =>
          (t source).values.getD place 0), .ok ())) := by
  have several' : size ≠ 1 := fun one => absurd several (by rw [one]; decide)
  have wide : 0 < Code.width Binary64 := by decide
  rcases (applications size t wide place).invariant_of_run run with ⟨unsent, untaken, inv⟩
  refine ⟨inv.inevitable, ?_, ?_⟩
  · intro unequal rank inside finished
    rcases appliedTo_of_unequal (place rank inside) several' unequal with ⟨fault, failed⟩
    exact ⟨fault, failed ▸ holds_appliedTo inv finished⟩
  · intro equal rank inside finished
    have holds := holds_appliedTo inv finished
    rw [appliedTo_of_equal (place rank inside) inside fun source below =>
      equal source below rank inside, finalized, if_neg several'] at holds
    exact holds

/-- A row on rank 0 and a column on rank 1, with two values each. -/
def rowAndColumn (rank : Nat) : DenseTensor Binary64 :=
  if rank = 0 then ⟨[1, 2], #[Binary64.ofNat 1, Binary64.ofNat 2], ⟨rank, 2, false⟩, rfl⟩
  else ⟨[2, 1], #[Binary64.ofNat 10, Binary64.ofNat 20], ⟨rank, 2, false⟩, rfl⟩

theorem member_rowAndColumn (rank : Nat) : (rowAndColumn rank).member = ⟨rank, 2, false⟩ := by
  by_cases first : rank = 0 <;> simp [rowAndColumn, first]

theorem volume_rowAndColumn (rank : Nat) : Block.volume (rowAndColumn rank).dims = 2 := by
  by_cases first : rank = 0 <;> simp [rowAndColumn, first]

theorem exists_finished_rowAndColumn :
    ∃ s : Callers UInt8 (DenseTensor Binary64 × Except Error Unit),
      Callers.Run applyOnce 1
        (.idle ((List.range 2).map fun rank => (rowAndColumn rank, .ok ()))) s ∧
      ∀ rank < 2, s.Finished 1 rank := by
  let moves : List (Callers.Move UInt8) :=
    [.call 0, .deal 0, .call 1, .deal 1, .deal 1, .deal 0]
  have ends : (Callers.play applyOnce 1 moves
      (.idle ((List.range 2).map fun rank => (rowAndColumn rank, .ok ())))).any
        (Callers.allFinished (β := UInt8) 1 2) = true := by
    decide +kernel
  exact Callers.Run.exists_finished ends

/-- A row and a column are summed up, to a row on one rank and to a column on the other. -/
theorem apply_compares_volumes_row_and_column :
    ∃ s : Callers UInt8 (DenseTensor Binary64 × Except Error Unit),
      Callers.Run applyOnce 1
        (.idle ((List.range 2).map fun rank => (rowAndColumn rank, .ok ()))) s ∧
      ∃ row column : DenseTensor Binary64,
        s.Holds 0 (row, .ok ()) ∧ row.dims = [1, 2] ∧
        s.Holds 1 (column, .ok ()) ∧ column.dims = [2, 1] ∧
        row.values = #[Binary64.ofNat 11, Binary64.ofNat 22] ∧ column.values = row.values := by
  rcases exists_finished_rowAndColumn with ⟨s, run, finished⟩
  rcases apply_compares_volumes (by decide) (fun rank _ => member_rowAndColumn rank) run with
    ⟨_, _, summed⟩
  have equal : ∀ p < 2, ∀ q < 2,
      Block.volume (rowAndColumn p).dims = Block.volume (rowAndColumn q).dims := by
    intro p _ q _
    rw [volume_rowAndColumn, volume_rowAndColumn]
  refine ⟨s, run, _, _, summed equal 0 (by decide) (finished 0 (by decide)), rfl,
    summed equal 1 (by decide) (finished 1 (by decide)), rfl, ?_, ?_⟩
  · decide +kernel
  · decide +kernel

/-- Tensors of different shapes can be summed into each other without anyone noticing. -/
theorem not_every_mismatch_is_detected :
    ¬ ∀ (size : Nat) (t : (rank : Nat) → DenseTensor Binary64)
      (s : Callers UInt8 (DenseTensor Binary64 × Except Error Unit)), 2 ≤ size →
      (∀ rank < size, (t rank).member = ⟨rank, size, false⟩) →
      (∃ p < size, ∃ q < size, (t p).dims ≠ (t q).dims) →
      Callers.Run applyOnce 1 (.idle ((List.range size).map fun rank => (t rank, .ok ()))) s →
      ∀ rank < size, s.Finished 1 rank →
        ∃ u fault, s.Holds rank (u, .error (.communication fault)) ∧
          u.values = (t rank).values := by
  intro detected
  rcases exists_finished_rowAndColumn with ⟨s, run, finished⟩
  have wide : 0 < Code.width Binary64 := by decide
  have place : ∀ rank < 2, (rowAndColumn rank).member = ⟨rank, 2, false⟩ :=
    fun rank _ => member_rowAndColumn rank
  rcases (applications 2 rowAndColumn wide place).invariant_of_run run with ⟨_, _, inv⟩
  have holds := holds_appliedTo inv (finished 0 (by decide))
  rw [appliedTo_of_equal (place 0 (by decide)) (by decide) fun source _ => by
    rw [volume_rowAndColumn, volume_rowAndColumn]] at holds
  rcases detected 2 rowAndColumn s (by decide) place ⟨0, by decide, 1, by decide, by decide⟩ run 0
    (by decide) (finished 0 (by decide)) with ⟨u, fault, failed, _⟩
  -- A rank cannot hold both outcomes.
  have clash := holds.symm.trans failed
  cases clash

end DenseTensor
end FormAssembly
