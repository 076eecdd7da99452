import Mathlib.Algebra.Ring.GeomSum
import FormAssembly.Proofs.Assembly.Offset

/-!
# Assembly that accumulates

The ranks of a group start from zero and assemble again and again without reset, and each of them
contributes the same to every pass. Finalization puts the contributions of all ranks on every rank,
and when the next pass is finalized they are summed up once more on behalf of every rank. So what
comes of it depends on the number of ranks: after `passes` passes there are not `passes` copies of
the contributions but `copies size passes`, which is the same only in a group of one
(`Replica.accumulating_assembly`).
-/

namespace FormAssembly
namespace Replica

/-- Number of times that the contributions to one pass are there after some passes. -/
def copies (size passes : Nat) : Nat :=
  ∑ pass ∈ Finset.range passes, size ^ pass

theorem copies_succ (size passes : Nat) :
    copies size (passes + 1) = size * copies size passes + 1 :=
  geom_sum_succ

theorem copies_of_one (passes : Nat) : copies 1 passes = passes := by
  simp [copies]

section

variable {α : Type} [ExactSum α] {size len passes rank : Nat} {first : (rank : Nat) → Replica α}
  {contributed : (rank : Nat) → List α}

/-- What all ranks contribute to one place in a pass. -/
def totalAt (size : Nat) (contributed : (rank : Nat) → List α) (place : Nat) : α :=
  ∑ source ∈ Finset.range size, (contributed source).getD place 0

/-- Every rank comes with all copies that there are and with its own new contribution. -/
theorem sum_copies (contributed : (rank : Nat) → List α) (passes place : Nat) :
    sumByRank ((List.range size).map fun source =>
        copies size passes • totalAt size contributed place + (contributed source).getD place 0) =
      copies size (passes + 1) • totalAt size contributed place := by
  let old : α := copies size passes • totalAt size contributed place
  calc sumByRank ((List.range size).map fun source => old + (contributed source).getD place 0)
      = ∑ source ∈ Finset.range size, (old + (contributed source).getD place 0) :=
        sumByRank_eq_sum _
    _ = size • old + totalAt size contributed place := by
        rw [Finset.sum_add_distrib, Finset.sum_const, Finset.card_range]
        rfl
    _ = (size * copies size passes + 1) • totalAt size contributed place := by
        rw [add_nsmul, one_nsmul, mul_nsmul']
    _ = copies size (passes + 1) • totalAt size contributed place := by
        rw [copies_succ]

/-! ## What a rank holds -/

/-- What a rank holds after some passes. -/
def accumulated (size : Nat) (first : (rank : Nat) → Replica α)
    (contributed : (rank : Nat) → List α) (passes rank : Nat) : Replica α :=
  (first rank).tabulate fun place => copies size passes • totalAt size contributed place

/-- What a rank holds after some passes and the local part of the next. -/
def pending (size : Nat) (first : (rank : Nat) → Replica α)
    (contributed : (rank : Nat) → List α) (passes rank : Nat) : Replica α :=
  (first rank).tabulate fun place =>
    copies size passes • totalAt size contributed place + (contributed rank).getD place 0

theorem getD_of_zero (zero : (first rank).values = List.replicate len 0) (place : Nat) :
    (first rank).values.getD place 0 = 0 := by
  rw [zero, List.getD_eq_getElem?_getD, List.getElem?_replicate]
  split <;> rfl

/-- In the beginning there are no copies. -/
theorem accumulated_zero (zero : (first rank).values = List.replicate len 0) :
    accumulated size first contributed 0 rank = first rank := by
  have nothing : (fun place => copies size 0 • totalAt size contributed place) =
      fun place => (first rank).values.getD place 0 := by
    funext place
    rw [getD_of_zero zero]
    exact zero_nsmul _
  rw [accumulated, nothing, tabulate_getD]

theorem accumulated_eq_offset (zero : (first rank).values = List.replicate len 0) (passes : Nat) :
    accumulated size first contributed passes rank =
      (first rank).offset fun place => copies size passes • totalAt size contributed place := by
  simp only [accumulated, offset, getD_of_zero zero, add_zero]

/-- Only the offset is different from what comes of the zero tensor. -/
theorem offset_eq_pending {added : Replica α}
    (shape : ∀ f, added.tabulate f = (first rank).tabulate f)
    (adds : added.values = contributed rank) :
    (added.offset fun place => copies size passes • totalAt size contributed place) =
      pending size first contributed passes rank := by
  rw [offset, shape, adds]
  rfl

/-- Finalization turns what the ranks hold after a local part into what they hold after the pass. -/
theorem combine_pending (place : (first rank).member = ⟨rank, size, false⟩) (inside : rank < size)
    (same : ∀ source < size, (first source).values.length = len) :
    (pending size first contributed passes rank).combine
        (inRankOrder size fun source => (pending size first contributed passes source).values) =
      accumulated size first contributed (passes + 1) rank := by
  have lengths : ∀ source < size, (pending size first contributed passes source).values.length =
      (pending size first contributed passes rank).values.length := by
    intro source below
    simp [pending, values_tabulate, same source below, same rank inside]
  have member : (pending size first contributed passes rank).member = ⟨rank, size, false⟩ := by
    rw [pending, member_tabulate, place]
  rw [combine_inRankOrder member lengths, pending, tabulate_tabulate, accumulated]
  refine tabulate_congr fun i early => ?_
  -- Every summand is the same old value with the new contribution of one rank.
  have found : ∀ source ∈ List.range size,
      (pending size first contributed passes source).values.getD i 0 =
        copies size passes • totalAt size contributed i + (contributed source).getD i 0 := by
    intro source listed
    have below : source < size := List.mem_range.mp listed
    exact getD_tabulate _ _ (by rwa [same source below, ← same rank inside])
  rw [List.map_congr_left found, sum_copies]

/-- In a group of one there is nobody to wait for. -/
theorem pending_of_one (passes : Nat) :
    pending 1 first contributed passes 0 = accumulated 1 first contributed (passes + 1) 0 := by
  have total : ∀ place, totalAt 1 contributed place = (contributed 0).getD place 0 := by
    intro place
    exact Finset.sum_range_one _
  simp only [pending, accumulated, copies_of_one, total, succ_nsmul]

end

/-! ## Pass after pass -/

section

variable {α β : Type} [ExactSum α] [Code α β] [ScalarTensor.Display α]
  {size count len : Nat} {first : (rank : Nat) → Replica α}
  {form : (pass rank : Nat) → Form α} {contributed : (rank : Nat) → List α}

/-- The call of a rank that assembles without reset and finalizes its tensor. One that fails ends
all later ones. -/
def assembleAgain (form : (pass rank : Nat) → Form α) (pass rank : Nat) :
    Except Error (Replica α) → Exchange β (Except Error (Replica α))
  | .error cause => .done (.error cause)
  | .ok t => do
      let report ← t.assemble { reset := false } (form pass rank)
      return report.toCreation.outcome

/-- The ranks of a group start from zero tensors, and to every pass each of them contributes the
same. What it contributes is what it assembles into the zero tensor by itself. -/
structure Steady (size count len : Nat) (first : (rank : Nat) → Replica α)
    (form : (pass rank : Nat) → Form α) (contributed : (rank : Nat) → List α) : Prop where
  member : ∀ rank < size, (first rank).member = ⟨rank, size, false⟩
  zero : ∀ rank < size, (first rank).values = List.replicate len 0
  adds : ∀ pass < count, ∀ rank < size, ∃ added : AssemblyReport (Replica α) α,
    ((first rank).assemble { reset := false, finalize := false } (form pass rank) :
      Exchange β _) = .done added ∧
    added.outcome = .ok () ∧ added.tensor.values = contributed rank

theorem Steady.length_values (steady : Steady size count len first form contributed)
    {rank : Nat} (inside : rank < size) : (first rank).values.length = len := by
  rw [steady.zero rank inside, List.length_replicate]

/-- The local part of a pass adds what it adds to the zero tensor. -/
theorem Steady.exists_localPart (steady : Steady size count len first form contributed)
    {pass rank : Nat} (early : pass < count) (inside : rank < size) :
    ∃ added, LocalPart { reset := false } (form pass rank)
        (accumulated size first contributed pass rank) added ∧
      added.outcome = .ok () ∧ added.tensor = pending size first contributed pass rank := by
  have zero := steady.zero rank inside
  -- The same form is assembled into the zero tensor and into what has been accumulated.
  rcases steady.adds pass early rank inside with ⟨onZero, assembled, success, adds⟩
  rcases Replica.exists_localPart { reset := false } (form pass rank) (first rank) with
    ⟨_, fromZero⟩
  cases assembled.symm.trans fromZero.unfinalized
  rcases Replica.exists_localPart { reset := false } (form pass rank)
    (accumulated size first contributed pass rank) with ⟨added, part⟩
  have moved := localPart_offset assembled success fun place =>
    copies size pass • totalAt size contributed place
  rw [← accumulated_eq_offset zero] at moved
  cases moved.symm.trans part.unfinalized
  exact ⟨_, part, success, offset_eq_pending fromZero.shape adds⟩

/-- A pass is a gathering of what is pending on the ranks. -/
theorem Steady.assembleAgain_eq (steady : Steady size count len first form contributed)
    {pass rank : Nat} (early : pass < count) (inside : rank < size) :
    (assembleAgain form pass rank (.ok (accumulated size first contributed pass rank)) :
        Exchange β (Except Error (Replica α))) =
      ((⟨rank, size, false⟩ : Member).gatherValues
          (pending size first contributed pass rank).values >>= fun gathered =>
        .done (if size = 1 then .ok (accumulated size first contributed (pass + 1) rank)
          else gathered.map (pending size first contributed pass rank).combine)) := by
  rcases steady.exists_localPart early inside with ⟨added, part, success, tensor⟩
  have member : (accumulated size first contributed pass rank).member = ⟨rank, size, false⟩ := by
    rw [accumulated, member_tabulate, steady.member rank inside]
  by_cases single : size = 1
  · -- Nothing is gathered, so the pass is over with its local part.
    subst single
    obtain rfl : rank = 0 := Nat.lt_one_iff.mp inside
    rcases part.single success rfl (by rw [member]) with ⟨report, assembled, fine, same⟩
    rw [assembleAgain, assembled, Member.gatherValues_of_one, Exchange.bind_done,
      Exchange.bind_done, if_pos rfl, ← pending_of_one, ← tensor, ← same]
    simp [AssemblyReport.toCreation, fine, Except.map]
  · rcases part.gathers success rfl member single with ⟨report, assembled, outcome⟩
    rw [assembleAgain, assembled, Exchange.bind_assoc, tensor]
    refine bind_congr fun gathered => ?_
    rw [if_neg single, ← tensor, ← outcome]
    rfl

/-- Passes gather once each, with equally many values. -/
def Steady.lockstep (steady : Steady size count len first form contributed) :
    Lockstep β (Except Error (Replica α)) :=
  Lockstep.ofValues size count len (assembleAgain form)
    (fun passes rank => .ok (accumulated size first contributed passes rank))
    (fun passes rank => (pending size first contributed passes rank).values)
    (fun passes rank gathered =>
      if size = 1 then .ok (accumulated size first contributed (passes + 1) rank)
      else gathered.map (pending size first contributed passes rank).combine)
    (fun passes _ rank inside => by
      rw [pending, values_tabulate, List.length_map, List.length_range,
        steady.length_values inside])
    (fun passes early rank inside => steady.assembleAgain_eq early inside)
    (by
      intro passes _ rank inside
      by_cases single : size = 1
      · rw [if_pos single]
      · rw [if_neg single]
        exact congrArg Except.ok (combine_pending (steady.member rank inside) inside
          fun source below => steady.length_values below))

/-- What a rank holds does not depend on the order of steps. -/
theorem Steady.eq_accumulated (steady : Steady size count len first form contributed)
    {s : Callers β (Except Error (Replica α))}
    (run : Callers.Run (assembleAgain form) count
      (.idle ((List.range size).map fun rank => .ok (first rank))) s) :
    Callers.Inevitable (assembleAgain form) count
      (fun s => ∀ rank < size, s.Finished count rank) s ∧
    ∀ rank, ∀ held, s.Holds rank held →
      held = .ok (accumulated size first contributed (s.begun rank) rank) := by
  have begins : (List.range size).map (fun rank => (.ok (first rank) : Except Error (Replica α))) =
      (List.range size).map fun rank => .ok (accumulated size first contributed 0 rank) := by
    refine List.map_congr_left fun rank listed => ?_
    rw [accumulated_zero (steady.zero rank (List.mem_range.mp listed))]
  rw [begins] at run
  rcases steady.lockstep.invariant_of_run run with ⟨_, _, inv⟩
  exact ⟨inv.inevitable, fun rank held holds => inv.eq_state holds⟩

/-- The ranks of a group assemble again and again without reset, and each contributes the same to
every pass. All passes come to an end, whatever order the ranks take their steps in. After pass
`passes`, every rank holds `1 + size + ⋯ + size ^ (passes - 1)` times the sum of all contributions,
and only a process that is a group of one holds `passes` times what it contributes. -/
theorem accumulating_assembly (steady : Steady size count len first form contributed)
    {s : Callers β (Except Error (Replica α))}
    (run : Callers.Run (assembleAgain form) count
      (.idle ((List.range size).map fun rank => .ok (first rank))) s) :
    Callers.Inevitable (assembleAgain form) count
      (fun s => ∀ rank < size, s.Finished count rank) s ∧
    (∀ rank < size, ∀ held, s.Holds rank held → ∃ t, held = .ok t ∧
      t.values = (List.range len).map fun place =>
        (∑ pass ∈ Finset.range (s.begun rank), size ^ pass) •
          ∑ source ∈ Finset.range size, (contributed source).getD place 0) ∧
    (size = 1 → ∀ held, s.Holds 0 held → ∃ t, held = .ok t ∧
      t.values = (List.range len).map fun place =>
        s.begun 0 • (contributed 0).getD place 0) := by
  rcases steady.eq_accumulated run with ⟨inevitable, holdsAccumulated⟩
  have values : ∀ rank < size, ∀ passes,
      (accumulated size first contributed passes rank).values =
        (List.range len).map fun place =>
          copies size passes • totalAt size contributed place := by
    intro rank inside passes
    rw [accumulated, values_tabulate, steady.length_values inside]
  refine ⟨inevitable, ?_, ?_⟩
  · intro rank inside held holds
    exact ⟨_, holdsAccumulated rank held holds, values rank inside _⟩
  · rintro rfl held holds
    refine ⟨_, holdsAccumulated 0 held holds, ?_⟩
    rw [values 0 Nat.zero_lt_one]
    simp only [copies_of_one, totalAt, Finset.sum_range_one]

end

/-! ## Two ranks and two passes -/

/-- A form of rank 0 that adds a number on the only cell of its mesh. -/
def numberForm (number : Int) : Form Int :=
  let mesh : Mesh Int := ⟨0, 1, 1, fun _ => 1, fun _ => .ok [0, 1], fun _ => .ok #[], [], ""⟩
  let kernel : Kernel Int := ⟨fun block _ _ _ => block.map fun _ => number⟩
  ⟨FormDeclaration.toDescriptor ⟨0, [], []⟩, [], some mesh, .const none, .empty,
    .put .empty .cell ⟨none, kernel, none⟩, none⟩

/-- The zero of a rank of two. -/
def zeroOfTwo (rank : Nat) : Replica Int :=
  .scalar ⟨0, ⟨rank, 2, false⟩⟩

/-- Rank 0 contributes 1 to every pass and rank 1 contributes 2. -/
theorem steady_numberForm (count : Nat) :
    let _ : ExactSum Int := .ofMonoid Int
    let _ : Code Int Int := .plain Int
    let _ : ScalarTensor.Display Int := ⟨fun value => toString value⟩
    Steady 2 count 1 zeroOfTwo (fun _ rank => numberForm (rank + 1)) fun rank => [rank + 1] := by
  intro _ _ _
  refine ⟨fun _ _ => rfl, fun _ _ => rfl, ?_⟩
  intro pass _ rank inside
  let options : AssemblyOptions := { reset := false, finalize := false }
  rcases Replica.exists_localPart options (numberForm (rank + 1)) (zeroOfTwo rank) with
    ⟨added, part⟩
  have computed := Exchange.eq_perform_of_done part.unfinalized .silent
  refine ⟨added, part.unfinalized, Assembly.eq_ok_of_isOk ?_, ?_⟩
  · rw [computed]
    rcases (by omega : rank = 0 ∨ rank = 1) with rfl | rfl <;> decide +kernel
  · rw [computed]
    rcases (by omega : rank = 0 ∨ rank = 1) with rfl | rfl <;> decide +kernel

theorem exists_finished_numberForm :
    let _ : ExactSum Int := .ofMonoid Int
    let _ : Code Int Int := .plain Int
    let _ : ScalarTensor.Display Int := ⟨fun value => toString value⟩
    ∃ s : Callers Int (Except Error (Replica Int)),
      Callers.Run (assembleAgain fun _ rank => numberForm (rank + 1)) 2
        (.idle ((List.range 2).map fun rank => .ok (zeroOfTwo rank))) s ∧
      ∀ rank < 2, s.Finished 2 rank := by
  intro _ _ _
  let moves : List (Callers.Move Int) :=
    [.call 0, .deal 0, .call 1, .deal 1, .deal 0, .call 0, .deal 1, .deal 0, .call 1, .deal 1,
      .deal 1, .deal 0]
  have ends : (Callers.play (assembleAgain fun _ rank => numberForm (rank + 1)) 2 moves
      (.idle ((List.range 2).map fun rank => .ok (zeroOfTwo rank)))).any
        (Callers.allFinished 2 2) = true := by
    decide +kernel
  exact Callers.Run.exists_finished ends

/-- After the first pass both ranks hold 3, and after the second they hold 9. -/
theorem accumulating_assembly_two_ranks :
    let _ : ExactSum Int := .ofMonoid Int
    let _ : Code Int Int := .plain Int
    let _ : ScalarTensor.Display Int := ⟨fun value => toString value⟩
    ∃ s : Callers Int (Except Error (Replica Int)),
      Callers.Run (assembleAgain fun _ rank => numberForm (rank + 1)) 2
        (.idle ((List.range 2).map fun rank => .ok (zeroOfTwo rank))) s ∧
      ∀ rank < 2, ∃ t, s.Holds rank (.ok t) ∧ t.values = [9] := by
  intro _ _ _
  rcases exists_finished_numberForm with ⟨s, run, finished⟩
  rcases accumulating_assembly (steady_numberForm 2) run with ⟨_, holdsCopies, _⟩
  refine ⟨s, run, fun rank inside => ?_⟩
  rcases finished rank inside with ⟨begun, held, holds⟩
  rcases holdsCopies rank inside held holds with ⟨t, rfl, values⟩
  rw [begun] at values
  exact ⟨t, holds, values⟩

/-- Two passes of two ranks do not leave twice what they contribute to a pass. -/
theorem not_every_accumulation_is_proportional :
    let _ : ExactSum Int := .ofMonoid Int
    let _ : Code Int Int := .plain Int
    let _ : ScalarTensor.Display Int := ⟨fun value => toString value⟩
    ¬ ∀ (size count len : Nat) (first : (rank : Nat) → Replica Int)
      (form : (pass rank : Nat) → Form Int) (contributed : (rank : Nat) → List Int)
      (s : Callers Int (Except Error (Replica Int))),
      Steady size count len first form contributed →
      Callers.Run (assembleAgain form) count
        (.idle ((List.range size).map fun rank => .ok (first rank))) s →
      ∀ rank < size, s.Finished count rank → ∃ t, s.Holds rank (.ok t) ∧
        t.values = (List.range len).map fun place =>
          count • ∑ source ∈ Finset.range size, (contributed source).getD place 0 := by
  intro _ _ _ proportional
  rcases exists_finished_numberForm with ⟨s, run, finished⟩
  rcases (steady_numberForm 2).eq_accumulated run with ⟨_, holdsAccumulated⟩
  rcases proportional 2 2 1 zeroOfTwo _ _ s (steady_numberForm 2) run 0 (by decide)
    (finished 0 (by decide)) with ⟨t, holds, values⟩
  have actual := Except.ok.inj (holdsAccumulated 0 _ holds)
  rw [(finished 0 (by decide)).1] at actual
  rw [actual] at values
  exact absurd values (by decide +kernel)

end Replica
end FormAssembly
