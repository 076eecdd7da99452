import Mathlib.Data.List.Flatten
import Mathlib.Data.List.SplitLengths
import FormAssembly.Proofs.Tensor.Calls
import FormAssembly.Proofs.Tensor.Distribution

/-!
# Index arrays and how they are passed

A block is added at index arrays that the caller lends, gives away, or passes one after another in
one list together with their lengths. Cutting a list at given lengths undoes concatenation, and
nothing else has those lengths and that concatenation (`Block.eq_splitLengths_iff`). So the three
shapes of a call are one operation, on accepted and on refused blocks alike. Lengths that do not add
up are refused, unless their sum does not fit a word and wraps around to the length of the list: then
one of the arrays ends beyond the list, and the program stops (`TensorCall.add_shapes_agree`).
-/

namespace FormAssembly

/-! ## Cutting a list -/

namespace Block

variable {ι : Type} {lengths : List Nat} {values : List ι} {pieces : List (List ι)}

/-- A list can be cut if it is long enough for all pieces together. -/
theorem split?_eq (lengths : List Nat) (values : List ι) :
    split? lengths values =
      if lengths.sum ≤ values.length then some (lengths.splitLengths values) else none := by
  induction lengths generalizing values with
  | nil => simp [split?]
  | cons length later ih =>
      by_cases first : length ≤ values.length
      · have rest : later.sum ≤ (values.drop length).length ↔
            length + later.sum ≤ values.length := by
          rw [List.length_drop]
          omega
        simp only [split?, if_pos first, ih, rest, List.sum_cons, List.splitLengths_cons]
        split <;> rfl
      · have beyond : ¬ length + later.sum ≤ values.length := by
          omega
        simp [split?, first, beyond]

/-- Pieces of given lengths are determined by what they are together. -/
theorem eq_splitLengths_iff (complete : lengths.sum = values.length) :
    pieces = lengths.splitLengths values ↔
      pieces.map List.length = lengths ∧ pieces.flatten = values := by
  have together : (lengths.splitLengths values).flatten = values :=
    List.flatten_splitLengths values lengths complete.ge
  have oneByOne : (lengths.splitLengths values).map List.length = lengths :=
    List.map_splitLengths_length values lengths complete.le
  rw [List.eq_iff_flatten_eq, together, oneByOne, and_comm]

theorem sum_map_length (pieces : List (List ι)) :
    (pieces.map List.length).sum = pieces.flatten.length :=
  List.length_flatten.symm

theorem splitLengths_flatten (pieces : List (List ι)) :
    (pieces.map List.length).splitLengths pieces.flatten = pieces :=
  ((eq_splitLengths_iff (sum_map_length pieces)).mpr ⟨rfl, rfl⟩).symm

theorem toNat_wordTotal (lengths : List Nat) :
    (wordTotal lengths).toNat = lengths.sum % UInt64.size := by
  -- Along the lengths the total starts from any word.
  have along : ∀ (lengths : List Nat) (total : UInt64),
      (lengths.foldl (fun total n => total + UInt64.ofNat n) total).toNat =
        (total.toNat + lengths.sum) % UInt64.size := by
    intro lengths
    induction lengths with
    | nil =>
        intro total
        simp [Nat.mod_eq_of_lt total.toNat_lt_size]
    | cons n rest ih =>
        intro total
        simp [ih, UInt64.toNat_add, Nat.add_assoc]
  simpa [wordTotal] using along lengths 0

end Block

/-! ## Adding at index arrays -/

variable {τ α β : Type}

namespace Tensor

variable [Tensor τ α β] {counts flat : List Nat}

theorem addFlat_of_complete (t : τ) (block : List α) (inWords : counts.sum < UInt64.size)
    (complete : counts.sum = flat.length) :
    addFlat t block counts flat = add t block (counts.splitLengths flat) := by
  have total : (Block.wordTotal counts).toNat = flat.length := by
    rw [Block.toNat_wordTotal, Nat.mod_eq_of_lt inWords, complete]
  simp only [addFlat, total, if_true, Block.split?_eq, complete, Nat.le_refl]

theorem addFlat_of_incomplete (t : τ) (block : List α)
    (incomplete : counts.sum % UInt64.size ≠ flat.length) :
    addFlat t block counts flat =
      .error (.blockShape (counts.sum % UInt64.size) flat.length) := by
  simp only [addFlat, Block.toNat_wordTotal, if_neg incomplete]

/-- What remains of a sum that has wrapped around is less than the sum. -/
theorem addFlat_of_overrun (t : τ) (block : List α) (beyond : UInt64.size ≤ counts.sum)
    (remains : counts.sum % UInt64.size = flat.length) :
    addFlat t block counts flat = .error .stopped := by
  have short : ¬ counts.sum ≤ flat.length := by
    have := Nat.mod_lt counts.sum (show 0 < UInt64.size by decide)
    omega
  simp only [addFlat, Block.toNat_wordTotal, remains, if_true, Block.split?_eq, if_neg short]

end Tensor

namespace TensorCall

/-- It does not matter how index arrays are passed: the call ends in the same way and leaves the
same tensor. If they are passed in one list and the sum of their lengths fits a word, a list that is
not as long as its parts together is refused and the tensor stays as it was; any other list stands
for the only index arrays that have these lengths and that concatenation. If the sum does not fit a
word, the list is compared with what remains of it: a list of another length is refused, and with one
of this length the program stops. -/
theorem add_shapes_agree [Zero α] [Tensor τ α β] (t : τ) (block : List α) :
    (∀ rows : List (List Nat),
      ((addOwned block rows).perform t : Exchange β (CallResult τ α)) =
          (add block rows).perform t ∧
        (rows.flatten.length < UInt64.size →
          ((addFlat block (rows.map List.length) rows.flatten).perform t : Exchange β _) =
            (add block rows).perform t)) ∧
    ∀ counts flat : List Nat,
      (counts.sum < UInt64.size →
        (counts.sum ≠ flat.length → ((addFlat block counts flat).perform t : Exchange β _) =
          .done ⟨.error (.blockShape counts.sum flat.length), t⟩) ∧
        (counts.sum = flat.length → ∃ rows : List (List Nat),
          (∀ other, other.map List.length = counts ∧ other.flatten = flat ↔ other = rows) ∧
            ((addFlat block counts flat).perform t : Exchange β _) =
              (add block rows).perform t)) ∧
      (UInt64.size ≤ counts.sum →
        (counts.sum % UInt64.size ≠ flat.length →
          ((addFlat block counts flat).perform t : Exchange β _) =
            .done ⟨.error (.blockShape (counts.sum % UInt64.size) flat.length), t⟩) ∧
        (counts.sum % UInt64.size = flat.length →
          ((addFlat block counts flat).perform t : Exchange β _) =
            .done ⟨.error .stopped, t⟩)) := by
  have passed : ∀ {counts flat : List Nat}, counts.sum < UInt64.size → counts.sum = flat.length →
      ((addFlat block counts flat).perform t : Exchange β (CallResult τ α)) =
        (add block (counts.splitLengths flat)).perform t := by
    intro counts flat inWords complete
    simp only [perform, Tensor.addFlat_of_complete t block inWords complete]
  have failed : ∀ {counts flat : List Nat} {e : Error},
      Tensor.addFlat t block counts flat = .error e →
        ((addFlat block counts flat).perform t : Exchange β (CallResult τ α)) =
          .done ⟨.error e, t⟩ := by
    intro counts flat e refused
    simp only [perform, refused, CallResult.ofChange]
  refine ⟨?_, ?_⟩
  · intro rows
    refine ⟨rfl, ?_⟩
    intro inWords
    have total : (rows.map List.length).sum = rows.flatten.length := Block.sum_map_length rows
    rw [passed (total.trans_lt inWords) total, Block.splitLengths_flatten]
  · intro counts flat
    refine ⟨?_, ?_⟩
    · intro inWords
      refine ⟨?_, ?_⟩
      · intro incomplete
        have whole : counts.sum % UInt64.size = counts.sum := Nat.mod_eq_of_lt inWords
        have refused := Tensor.addFlat_of_incomplete t block (whole.trans_ne incomplete)
        exact failed (whole ▸ refused)
      · intro complete
        refine ⟨counts.splitLengths flat, ?_, passed inWords complete⟩
        intro other
        exact (Block.eq_splitLengths_iff complete).symm
    · intro beyond
      exact ⟨fun incomplete => failed (Tensor.addFlat_of_incomplete t block incomplete),
        fun remains => failed (Tensor.addFlat_of_overrun t block beyond remains)⟩

/-- One row with two columns, then the same arrays with a wrong length and with one that does not
fit, on a dense tensor; a scalar does not look at the arrays, but at their lengths all the same. -/
theorem add_shapes_agree_dense_and_scalar :
    let _ : ExactSum Int := .ofMonoid Int
    let _ : Code Int Int := .plain Int
    let _ : ScalarTensor.Display Int := ⟨fun value => toString value⟩
    let t : DenseTensor Int := .zero ⟨0, 1, true⟩ [2, 3]
    let s : ScalarTensor Int := ⟨4, ⟨0, 1, true⟩⟩
    ([1, 2].sum = [1, 2, 0].length ∧
      ((addFlat [5, 7] [1, 2] [1, 2, 0]).perform t : Exchange Int _) =
      .done ⟨.ok [], ⟨[2, 3], #[0, 0, 0, 7, 0, 5], ⟨0, 1, true⟩, rfl⟩⟩) ∧
    ([1, 1].sum ≠ [1, 2, 0].length ∧
      ((addFlat [5, 7] [1, 1] [1, 2, 0]).perform t : Exchange Int _) =
      .done ⟨.error (.blockShape 2 3), t⟩) ∧
    (UInt64.size ≤ [1, UInt64.size - 1].sum ∧
      ((addFlat [5, 7] [1, UInt64.size - 1] [1, 2, 0]).perform t : Exchange Int _) =
      .done ⟨.error (.blockShape 0 3), t⟩) ∧
    ((addFlat [5, 7] [1, 2] [1, 2, 0]).perform s : Exchange Int _) = .done ⟨.ok [], ⟨9, s.member⟩⟩ ∧
    ((addFlat [5, 7] [1, 1] [1, 2, 0]).perform s : Exchange Int _) =
      .done ⟨.error (.blockShape 2 3), s⟩ ∧
    ((addFlat [5, 7] [4, UInt64.size - 1] [1, 2, 0]).perform s : Exchange Int _) =
      .done ⟨.error .stopped, s⟩ := by
  intro _ _ _ t s
  have complete : [1, 2].sum = [1, 2, 0].length := by decide
  have incomplete : [1, 1].sum ≠ [1, 2, 0].length := by decide
  have beyond : UInt64.size ≤ [1, UInt64.size - 1].sum := by decide
  rcases add_shapes_agree t [5, 7] with ⟨dense, denseFlat⟩
  rcases add_shapes_agree s [5, 7] with ⟨scalar, scalarFlat⟩
  refine ⟨⟨complete, ?_⟩, ⟨incomplete, ?_⟩, ⟨beyond, ?_⟩, ?_, ?_, ?_⟩
  · exact (dense [[1], [2, 0]]).2 (by decide)
  · exact ((denseFlat [1, 1] [1, 2, 0]).1 (by decide)).1 incomplete
  · exact ((denseFlat [1, UInt64.size - 1] [1, 2, 0]).2 beyond).1 (by decide)
  · exact (scalar [[1], [2, 0]]).2 (by decide)
  · exact ((scalarFlat [1, 1] [1, 2, 0]).1 (by decide)).1 incomplete
  · exact ((scalarFlat [4, UInt64.size - 1] [1, 2, 0]).2 (by decide)).2 (by decide)

/-- Two lengths whose sum is one more than the largest word pass for the lengths of an empty list,
since nothing remains of the sum. The first array then is not there. -/
theorem not_every_incomplete_list_is_refused :
    let _ : ExactSum Int := .ofMonoid Int
    let _ : Code Int Int := .plain Int
    let _ : ScalarTensor.Display Int := ⟨fun value => toString value⟩
    let s : ScalarTensor Int := ⟨4, ⟨0, 1, true⟩⟩
    ((addFlat [5] [UInt64.size - 1, 1] []).perform s : Exchange Int _) =
        .done ⟨.error .stopped, s⟩ ∧
      ¬ ∀ counts flat : List Nat, counts.sum ≠ flat.length →
        ∃ expected found, ((addFlat [5] counts flat).perform s : Exchange Int _) =
          .done ⟨.error (.blockShape expected found), s⟩ := by
  intro _ _ _ s
  have overrun : Tensor.addFlat s [5] [UInt64.size - 1, 1] [] = .error .stopped :=
    Tensor.addFlat_of_overrun s [5] (by decide) (by decide)
  have stops : ((addFlat [5] [UInt64.size - 1, 1] []).perform s : Exchange Int _) =
      .done ⟨.error .stopped, s⟩ := by
    simp only [perform, overrun, CallResult.ofChange]
  refine ⟨stops, ?_⟩
  intro everyList
  rcases everyList [UInt64.size - 1, 1] [] (by decide) with ⟨expected, found, refused⟩
  cases stops.symm.trans refused

end TensorCall
end FormAssembly
