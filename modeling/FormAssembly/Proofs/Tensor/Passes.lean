import FormAssembly.Proofs.Message.Lockstep
import FormAssembly.Proofs.Tensor.Replica

/-!
# Passes of local operations and sums

The ranks of a group change their tensors by themselves and call `apply` after that, in one pass
after another. However they are scheduled, each `apply` leaves on every rank the same values: place
by place the sum of what the ranks held before their own call, added up from the first rank to the
last (`values_afterPasses`, `sum_in_rank_order`). Nothing is asked of the addition.
-/

namespace FormAssembly
namespace Replica

variable {α β : Type} [Zero α] [Add α] [SumStart α]

/-- The call of a pass: local operations, then `apply`. A pass that fails ends all later ones. -/
def pass [Code α β] (operations : (pass rank : Nat) → List (LocalOperation α)) (pass rank : Nat) :
    Except Error (Replica α) → Exchange β (Except Error (Replica α))
  | .error cause => .done (.error cause)
  | .ok t => (t.perform (operations pass rank)).apply .add

/-- What a rank of a group of `size` holds after some passes. -/
def afterPasses (size : Nat) (first : (rank : Nat) → Replica α)
    (operations : (pass rank : Nat) → List (LocalOperation α)) : (passes rank : Nat) → Replica α
  | 0, rank => first rank
  | passes + 1, rank =>
      ((afterPasses size first operations passes rank).perform (operations passes rank)).tabulate
        fun place => sumByRank ((List.range size).map fun source =>
          ((afterPasses size first operations passes source).perform
            (operations passes source)).values.getD place 0)

variable {size len : Nat} {first : (rank : Nat) → Replica α}
  {operations : (pass rank : Nat) → List (LocalOperation α)}

theorem member_afterPasses (passes rank : Nat) :
    (afterPasses size first operations passes rank).member = (first rank).member := by
  induction passes with
  | zero => rfl
  | succ passes ih =>
      rw [afterPasses, member_tabulate, member_perform, ih]

theorem length_values_afterPasses (passes rank : Nat) :
    (afterPasses size first operations passes rank).values.length =
      (first rank).values.length := by
  induction passes with
  | zero => rfl
  | succ passes ih =>
      rw [afterPasses, values_tabulate, List.length_map, List.length_range, length_values_perform,
        ih]

/-- After a pass every rank of the group holds the same values. -/
theorem values_afterPasses {rank : Nat} (same : (first rank).values.length = len) (passes : Nat) :
    (afterPasses size first operations (passes + 1) rank).values =
      (List.range len).map fun place => sumByRank ((List.range size).map fun source =>
        ((afterPasses size first operations passes source).perform
          (operations passes source)).values.getD place 0) := by
  rw [afterPasses, values_tabulate, length_values_perform, length_values_afterPasses, same]

/-- Passes gather once each, with equally many values. -/
def passes [Code α β] (size count len : Nat) (several : size ≠ 1)
    (first : (rank : Nat) → Replica α)
    (operations : (pass rank : Nat) → List (LocalOperation α))
    (place : ∀ rank < size, (first rank).member = ⟨rank, size, false⟩)
    (same : ∀ rank < size, (first rank).values.length = len) :
    Lockstep β (Except Error (Replica α)) :=
  let before (passes rank : Nat) : Replica α :=
    (afterPasses size first operations passes rank).perform (operations passes rank)
  have member : ∀ passes, ∀ rank < size, (before passes rank).member = ⟨rank, size, false⟩ := by
    intro passes rank inside
    rw [member_perform, member_afterPasses, place rank inside]
  have length : ∀ passes, ∀ rank < size, (before passes rank).values.length = len := by
    intro passes rank inside
    rw [length_values_perform, length_values_afterPasses, same rank inside]
  Lockstep.ofValues size count len (pass operations)
    (fun passes rank => .ok (afterPasses size first operations passes rank))
    (fun passes rank => (before passes rank).values)
    (fun passes rank gathered => gathered.map (before passes rank).combine)
    (fun passes _ => length passes)
    (fun passes _ rank inside => apply_eq .add (member passes rank inside) several)
    (by
      intro passes _ rank inside
      have equal : ∀ source < size,
          (before passes source).values.length = (before passes rank).values.length := by
        intro source h
        rw [length passes source h, length passes rank inside]
      exact congrArg Except.ok (combine_inRankOrder (member passes rank inside) equal))

/-- What the ranks hold after each pass does not depend on the order of their steps: it is the left
fold, from rank 0 on, over what they held when they called `apply`. -/
theorem sum_in_rank_order [Code α β] {count : Nat} (several : 2 ≤ size)
    (place : ∀ rank < size, (first rank).member = ⟨rank, size, false⟩)
    (same : ∀ rank < size, (first rank).values.length = len)
    {s : Callers β (Except Error (Replica α))}
    (run : Callers.Run (pass operations) count
      (.idle ((List.range size).map fun rank => .ok (first rank))) s) :
    (∀ rank < size, ∀ held, s.Holds rank held →
      held = .ok (afterPasses size first operations (s.begun rank) rank)) ∧
    (∀ passes, ∀ rank < size, (afterPasses size first operations (passes + 1) rank).values =
      (List.range len).map fun place => (List.range size).foldl
        (fun sum source => sum + ((afterPasses size first operations passes source).perform
          (operations passes source)).values.getD place 0)
        SumStart.start) ∧
    ((∃ rank < size, ¬ s.Finished count rank) →
      ∃ after, Callers.Step (pass operations) count s after) := by
  have several' : size ≠ 1 := fun one => absurd several (by rw [one]; decide)
  -- The passes are calls of a `Lockstep`; all that is left to do is to read off its invariant.
  let L : Lockstep β (Except Error (Replica α)) :=
    passes size count len several' first operations place same
  rcases L.invariant_of_run run with ⟨_, _, inv⟩
  refine ⟨?_, ?_, inv.exists_step⟩
  · intro rank _ held holds
    exact inv.eq_state holds
  · intro passes rank inside
    rw [values_afterPasses (same rank inside)]
    refine List.map_congr_left fun place _ => ?_
    rw [sumByRank, List.foldl_map]

/-- Two ranks, one with a scalar and one with a dense tensor of a single value, make two passes. -/
theorem sum_in_rank_order_two_ranks :
    let first (rank : Nat) : Replica Binary64 :=
      if rank = 0 then .scalar (.zero ⟨0, 2, false⟩) else .dense (.zero ⟨1, 2, false⟩ [1])
    let operations (_pass rank : Nat) : List (LocalOperation Binary64) :=
      if rank = 0 then [.assign 2.5] else [.add [0.25] [[0]], .add [1.5] [[0]], .set [] []]
    ∃ s : Callers UInt8 (Except Error (Replica Binary64)),
      Callers.Run (pass operations) 2 (.idle ((List.range 2).map fun rank => .ok (first rank))) s ∧
      ∃ t₀ t₁, s.Holds 0 (.ok t₀) ∧ s.Holds 1 (.ok t₁) ∧ t₀.values = [8.5] ∧ t₁.values = [8.5] := by
  intro first operations
  let schedule : List (Callers.Move UInt8) :=
    [.call 0, .deal 0, .call 1, .deal 1, .deal 0, .call 0, .deal 0, .deal 1, .call 1, .deal 1,
      .deal 1, .deal 0]
  let start : Callers UInt8 (Except Error (Replica Binary64)) :=
    .idle ((List.range 2).map fun rank => .ok (first rank))
  have together : (Callers.play (pass operations) 2 schedule start).any
      (Callers.allFinished 2 2) = true := by
    decide +kernel
  rcases Callers.Run.exists_finished together with ⟨s, run, finished⟩
  have place : ∀ rank < 2, (first rank).member = ⟨rank, 2, false⟩ := by
    intro rank inside
    rcases (by omega : rank = 0 ∨ rank = 1) with rfl | rfl <;> rfl
  have same : ∀ rank < 2, (first rank).values.length = 1 := by
    intro rank inside
    rcases (by omega : rank = 0 ∨ rank = 1) with rfl | rfl <;> rfl
  rcases sum_in_rank_order (by decide) place same run with ⟨returned, _⟩
  rcases finished 0 (by decide) with ⟨begun₀, held₀, holds₀⟩
  rcases finished 1 (by decide) with ⟨begun₁, held₁, holds₁⟩
  have outcome₀ := returned 0 (by decide) held₀ holds₀
  have outcome₁ := returned 1 (by decide) held₁ holds₁
  rw [begun₀] at outcome₀
  rw [begun₁] at outcome₁
  -- The first pass leaves 2.5 + 1.75 on both ranks, the second 2.5 + (4.25 + 1.75).
  have values₀ : (afterPasses 2 first operations 2 0).values = [8.5] := by decide +kernel
  have values₁ : (afterPasses 2 first operations 2 1).values = [8.5] := by decide +kernel
  exact ⟨s, run, _, _, outcome₀ ▸ holds₀, outcome₁ ▸ holds₁, values₀, values₁⟩

end Replica
end FormAssembly
