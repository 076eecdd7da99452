import FormAssembly.Proofs.Message.Lockstep
import FormAssembly.Proofs.Tensor.Finalize

/-!
# Rounds of finalization

The ranks of a group make calls one after another, each of which finalizes a dense tensor. What a
rank has after such a call is `DenseTensor.finalized`: its own values in a group of one, else the
sums over all ranks. `DenseTensor.collectives` puts such calls in a form for which the results do
not depend on the order of steps.
-/

namespace FormAssembly
namespace DenseTensor

variable {α β γ : Type} [Zero α] [Add α] [SumStart α] {rank size : Nat}

/-- What a rank holds after `apply`, given what all ranks of its group held before. -/
def finalized (size : Nat) (before : (rank : Nat) → DenseTensor α) (rank : Nat) : DenseTensor α :=
  if size = 1 then before rank
  else (before rank).tabulate fun place =>
    sumByRank ((List.range size).map fun source => (before source).values.getD place 0)

theorem shape_finalized (before : (rank : Nat) → DenseTensor α) :
    (finalized size before rank).dims = (before rank).dims ∧
      (finalized size before rank).member = (before rank).member := by
  by_cases single : size = 1
  · simp [finalized, single]
  · simp [finalized, single, tabulate]

/-- What `apply` makes of the values of all ranks. In a group of one it has no use for them. -/
def concluded (t : DenseTensor α) (gathered : Except Error (List α)) :
    Reported (Except Error (DenseTensor α)) :=
  ⟨if t.member.size = 1 then .ok t else gathered.map t.combine,
    [.denseApply ApplyMode.add.name t.values.size t.member.size]⟩

/-- In every group `apply` can be seen as a gathering. -/
theorem apply_of_member [Code α β] {t : DenseTensor α} (place : t.member = ⟨rank, size, false⟩)
    (inside : rank < size) :
    (t.apply .add : Exchange β (Reported (Except Error (DenseTensor α)))) =
      ((⟨rank, size, false⟩ : Member).gatherValues t.values.toList >>= fun gathered =>
        .done (t.concluded gathered)) := by
  by_cases single : size = 1
  · -- Nobody is there to gather from, so the gathering is done at once.
    subst single
    obtain rfl : rank = 0 := Nat.lt_one_iff.mp inside
    rw [apply_of_single .add (Or.inr (by rw [place])), Member.gatherValues_of_one]
    simp [concluded, place]
  · rw [apply_of_group .add place single]
    simp only [concluded, place, single, if_false]

/-- The outcome of a gathering in which every rank contributed its values. -/
theorem concluded_inRankOrder {before : (rank : Nat) → DenseTensor α} {len : Nat}
    (place : (before rank).member = ⟨rank, size, false⟩) (inside : rank < size)
    (same : ∀ source < size, (before source).values.size = len) :
    (before rank).concluded (.ok (inRankOrder size fun source => (before source).values.toList)) =
      ⟨.ok (finalized size before rank), [.denseApply ApplyMode.add.name len size]⟩ := by
  have own : (before rank).values.size = len := same rank inside
  have equal : ∀ source < size,
      (before source).values.toList.length = (before rank).values.size := by
    intro source h
    rw [Array.length_toList, same source h, own]
  have sums : (before rank).combine (inRankOrder size fun source =>
        (before source).values.toList) =
      (before rank).tabulate fun place => sumByRank
        ((List.range size).map fun source => (before source).values.getD place 0) := by
    rw [combine_inRankOrder place equal]
    simp only [List.getD_eq_getElem?_getD, Array.getElem?_toList, Array.getD_eq_getD_getElem?]
  by_cases single : size = 1
  · simp [concluded, finalized, place, single, own]
  · simp only [concluded, finalized, place, own, single, if_false, Except.map, sums]

/-- Calls that finalize one dense tensor each. A member that holds `state round rank` comes with
`before round rank` to the finalization of that round, and `finish` is what it does afterwards. -/
def collectives [Code α β] (size count len : Nat) (call : (round rank : Nat) → γ → Exchange β γ)
    (state : (round rank : Nat) → γ) (before : (round rank : Nat) → DenseTensor α)
    (finish : (round rank : Nat) → Reported (Except Error (DenseTensor α)) → γ)
    (place : ∀ round < count, ∀ rank < size, (before round rank).member = ⟨rank, size, false⟩)
    (same : ∀ round < count, ∀ rank < size, (before round rank).values.size = len)
    (enters : ∀ round < count, ∀ rank < size, call round rank (state round rank) =
      ((before round rank).apply .add >>= fun report => .done (finish round rank report)))
    (leaves : ∀ round < count, ∀ rank < size,
      finish round rank ⟨.ok (finalized size (before round) rank),
        [.denseApply ApplyMode.add.name len size]⟩ = state (round + 1) rank) :
    Lockstep β γ :=
  Lockstep.ofValues size count len call state
    (fun round rank => (before round rank).values.toList)
    (fun round rank gathered => finish round rank ((before round rank).concluded gathered))
    (fun round early rank inside => by rw [Array.length_toList, same round early rank inside])
    (fun round early rank inside => by
      rw [enters round early rank inside, apply_of_member (place round early rank inside) inside,
        Exchange.bind_assoc]
      rfl)
    (fun round early rank inside => by
      rw [concluded_inRankOrder (place round early rank inside) inside (same round early),
        leaves round early rank inside])

end DenseTensor
end FormAssembly
