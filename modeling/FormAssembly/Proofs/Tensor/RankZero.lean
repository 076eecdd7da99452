import FormAssembly.Proofs.Assembly.Accumulation
import FormAssembly.Proofs.Tensor.Calls

/-!
# Dense tensors of rank 0

A dense tensor of rank 0 has one value, like a scalar. The two check their arguments in different
ways: a scalar takes the first value of a block and has no use for index arrays, a dense tensor
enumerates the places that the index arrays address. For no index arrays and at most one value they
agree, and so they do in whole sequences of calls, with the same messages
(`DenseTensor.rank_zero_simulates_scalar`).
-/

namespace FormAssembly

variable {α β : Type}

/-- The dense tensor of rank 0 with the value of a scalar. -/
def ScalarTensor.toDense (t : ScalarTensor α) : DenseTensor α :=
  ⟨[], #[t.value], t.member, rfl⟩

/-- Calls that address the one value of a tensor of rank 0: no index arrays, and a block or a buffer
with room for at most that value. -/
def TensorCall.OfRankZero : TensorCall α → Prop
  | .resize rank dims => rank = 0 ∧ dims = []
  | .get block rows | .set block rows | .add block rows | .addOwned block rows =>
      rows = [] ∧ block.length ≤ 1
  | .addFlat block counts _ => counts = [] ∧ block.length ≤ 1
  | .zero | .apply _ => True
  | .assemble _ form => form.rank = 0

/-! ## Gathering one value from each rank -/

/-- What is made of gathered values matters only for as many values as are gathered. -/
theorem Member.gatherValues_congr [Zero α] [Code α β] {γ : Type} (m : Member) {mine : List α}
    {g h : Except Error (List α) → γ}
    (same : ∀ gathered : Except Error (List α),
      (∀ values, gathered = .ok values → values.length = mine.length * m.size) →
        g gathered = h gathered) :
    (m.gatherValues mine >>= fun gathered => .done (g gathered) : Exchange β γ) =
      m.gatherValues mine >>= fun gathered => .done (h gathered) := by
  simp only [gatherValues_eq, Exchange.bind_assoc, Exchange.bind_done]
  refine bind_congr ?_
  intro outcome
  refine congrArg Exchange.done (same _ ?_)
  intro values gathered
  cases ended : outcome.1 with
  | error cause => simp [ended, Except.map] at gathered
  | ok _ =>
      have decoded : Code.decodeAll α (mine.length * m.size) outcome.2 = values := by
        simpa [ended, Except.map] using gathered
      simpa using congrArg List.length decoded.symm

namespace ScalarTensor

/-! ## Single operations -/

theorem toDense_get [Zero α] (t : ScalarTensor α) {buffer : List α} (short : buffer.length ≤ 1) :
    t.toDense.get buffer [] = t.get buffer [] := by
  match buffer, short with
  | [], _ => rfl
  | [_], _ => rfl

theorem toDense_set (t : ScalarTensor α) {block : List α} (short : block.length ≤ 1) :
    t.toDense.set block [] = (t.set block []).map toDense := by
  match block, short with
  | [], _ => rfl
  | [value], _ => rfl

theorem toDense_add [Add α] (t : ScalarTensor α) {block : List α} (short : block.length ≤ 1) :
    t.toDense.add block [] = (t.add block []).map toDense := by
  match block, short with
  | [], _ => rfl
  | [value], _ => rfl

variable [Zero α]

theorem toDense_resize (t : ScalarTensor α) :
    t.toDense.resize 0 [] = (t.resize 0 []).map toDense :=
  rfl

theorem toDense_zero (t : ScalarTensor α) :
    DenseTensor.zero t.toDense.member t.toDense.dims = (t.assign 0).toDense :=
  rfl

variable [Add α] [SumStart α]

/-- The sum at the only place is the sum of one value from each rank. -/
theorem toDense_combine (t : ScalarTensor α) {values : List α} :
    values.length = t.member.size → t.toDense.combine values = (t.combine values).toDense := by
  intro one
  -- The summand of a rank is looked up at a place of its chunk, which is one value long.
  have summands :
      ((List.range t.member.size).map fun rank => values.toArray.getD (rank * 1 + 0) 0) = values := by
    refine List.ext_getElem (by simp [one]) ?_
    intro rank _ inside
    simp [Array.getD_eq_getD_getElem?, inside]
  refine DenseTensor.eq_of_getD 0 rfl rfl ?_
  intro place early
  obtain rfl : place = 0 := by
    simpa [DenseTensor.combine, DenseTensor.tabulate, toDense] using early
  calc (t.toDense.combine values).values.getD 0 0
      = sumByRank ((List.range t.member.size).map fun rank =>
          values.toArray.getD (rank * 1 + 0) 0) := DenseTensor.getD_tabulate _ 0 Nat.one_pos
    _ = sumByRank values := congrArg sumByRank summands

variable [Code α β]

theorem toDense_addFlat [Display α] (t : ScalarTensor α) {block : List α}
    (short : block.length ≤ 1) (flat : List Nat) :
    Tensor.addFlat t.toDense block [] flat = (Tensor.addFlat t block [] flat).map toDense := by
  have total : (Block.wordTotal []).toNat = 0 := rfl
  unfold Tensor.addFlat
  by_cases complete : 0 = flat.length
  · simp only [total, complete, if_true, Block.split?]
    exact t.toDense_add short
  · simp [total, complete, Except.map]

/-- Finalization sends the same messages and fails in the same way. What it reports differs. -/
theorem toDense_apply (t : ScalarTensor α) (mode : ApplyMode) :
    (t.toDense.apply mode >>= fun applied => .done applied.value : Exchange β _) =
      t.apply mode >>= fun applied => .done (applied.value.map toDense) := by
  by_cases single : t.member.alone = true ∨ t.member.size = 1
  · have singleDense : t.toDense.member.alone = true ∨ t.toDense.member.size = 1 := single
    simp [DenseTensor.apply_of_single mode singleDense, apply_of_single mode single, Except.map]
  · rcases not_or.mp single with ⟨grouped, several⟩
    have place : t.member = ⟨t.member.rank, t.member.size, false⟩ := by
      simp [← Bool.eq_false_of_not_eq_true grouped]
    have placeDense : t.toDense.member = ⟨t.member.rank, t.member.size, false⟩ := place
    -- Both gather one value from each rank, so what differs is how sums are formed.
    simp only [DenseTensor.apply_of_group mode placeDense several,
      apply_of_group mode place several, Exchange.bind_assoc, Exchange.bind_done]
    refine Member.gatherValues_congr _ ?_
    intro gathered all
    cases gathered with
    | error cause => rfl
    | ok values =>
        have one : values.length = t.member.size := by
          simpa [toDense] using all values rfl
        simp [Except.map, t.toDense_combine one]

end ScalarTensor

/-! ## Assemblies -/

/-- A form of rank 0 contributes one value at a time, without index arrays. -/
theorem Assembly.contributes_of_rank_zero [Zero α] {form : Form α} :
    form.rank = 0 → Contributes form fun addend => addend.rows = [] ∧ addend.block.length ≤ 1 := by
  intro rankZero mesh integral visit c contributed
  have noSpaces : form.spaces = [] := List.length_eq_zero_iff.mp rankZero
  rcases block_of_contribution contributed with ⟨numbered, filled⟩
  -- There is an index array for each argument space, and there are no spaces.
  have noRows : c.addend.rows = [] := by
    simpa [noSpaces, pure, Except.pure] using numbered.symm
  exact ⟨noRows, by simp [filled, noRows, Block.size]⟩

section

variable [Zero α] [Add α] [SumStart α] [Code α β] [ScalarTensor.Display α]

theorem ScalarTensor.mirrors_toDense :
    Assembly.Mirrors (fun addend => addend.rows = [] ∧ addend.block.length ≤ 1)
      (toDense : ScalarTensor α → DenseTensor α) where
  rank _ := rfl
  add t addend fit := by
    rcases addend with ⟨block, rows⟩
    rcases fit with ⟨rfl, short⟩
    exact t.toDense_add short
  zero t := t.toDense_zero
  apply t mode := t.toDense_apply mode

/-- What is asked of the one value of a tensor, a scalar and its dense tensor do in the same way. -/
theorem TensorCall.OfRankZero.respects {call : TensorCall α} :
    call.OfRankZero → call.Respects (ScalarTensor.toDense : ScalarTensor α → DenseTensor α) := by
  intro bounds t
  cases call with
  | resize rank dims =>
      rcases bounds with ⟨rfl, rfl⟩
      exact congrArg Exchange.done (CallResult.ofChange_map t.toDense_resize)
  | get buffer rows =>
      rcases bounds with ⟨rfl, short⟩
      have read : Tensor.get t.toDense buffer [] = Tensor.get t buffer [] := t.toDense_get short
      simp [TensorCall.perform, CallResult.map, read]
  | set block rows =>
      rcases bounds with ⟨rfl, short⟩
      exact congrArg Exchange.done (CallResult.ofChange_map (t.toDense_set short))
  | add block rows =>
      rcases bounds with ⟨rfl, short⟩
      exact congrArg Exchange.done (CallResult.ofChange_map (t.toDense_add short))
  | addOwned block rows =>
      rcases bounds with ⟨rfl, short⟩
      exact congrArg Exchange.done (CallResult.ofChange_map (t.toDense_add short))
  | addFlat block counts flat =>
      rcases bounds with ⟨rfl, short⟩
      exact congrArg Exchange.done (CallResult.ofChange_map (t.toDense_addFlat short flat))
  | zero => rfl
  | apply mode => exact TensorCall.respects_apply ScalarTensor.mirrors_toDense mode t
  | assemble options form =>
      exact TensorCall.respects_assemble ScalarTensor.mirrors_toDense
        (Assembly.contributes_of_rank_zero bounds) options t

/-- However a dense tensor of rank 0 and a scalar with the same value and the same place in a group
are used, as long as only that one value is addressed: as exchanges with the peers, the two courses
of calls are the same, and so are the answers to the calls, the values after each of them, and the
messages sent and received in the meantime. -/
theorem DenseTensor.rank_zero_simulates_scalar {d : DenseTensor α} {s : ScalarTensor α}
    {calls : List (TensorCall α)} (rankZero : d.dims = []) (value : d.values = #[s.value])
    (member : d.member = s.member) (bounds : ∀ call ∈ calls, call.OfRankZero) :
    (TensorCall.performAll (fun d => d.values.toList) calls d : Exchange β _) =
        TensorCall.performAll (fun s => [s.value]) calls s ∧
      ∀ records : List (CallRecord α β),
        TensorCall.Session (fun d => d.values.toList) d calls records ↔
          TensorCall.Session (fun s => [s.value]) s calls records := by
  -- Dimensions, value and member are all there is to a dense tensor.
  obtain rfl : s.toDense = d := by
    cases d
    cases rankZero
    cases value
    cases member
    rfl
  have respected : ∀ call ∈ calls,
      call.Respects (ScalarTensor.toDense : ScalarTensor α → DenseTensor α) := by
    intro call among
    exact (bounds call among).respects
  exact ⟨TensorCall.performAll_map _ respected s, fun _ => TensorCall.session_map _ respected⟩

end

/-- The peer answers twice and then no more. -/
theorem DenseTensor.rank_zero_simulates_scalar_silent_peer :
    let _ : ExactSum Int := .ofMonoid Int
    let _ : Code Int Int := .plain Int
    let _ : ScalarTensor.Display Int := ⟨fun value => toString value⟩
    let d : DenseTensor Int := .zero ⟨0, 2, false⟩ []
    let calls : List (TensorCall Int) :=
      [.add [5] [], .get [] [], .apply .add, .assemble {} (Replica.numberForm 3), .apply .add]
    let script : Script Int := ⟨fun _ => [some [7], some [10]], []⟩
    ((TensorCall.performAll (fun d => d.values.toList) calls d).perform script).1 =
      [(.ok [], [5]), (.error (.blockShape 1 0), [5]), (.ok [], [12]), (.ok [], [13]),
        (.error (.communication (.silent 1)), [13])] := by
  intro _ _ _ d calls script
  let s : ScalarTensor Int := .zero ⟨0, 2, false⟩
  have bounds : ∀ call ∈ calls, call.OfRankZero := by
    simp [calls, TensorCall.OfRankZero, Replica.numberForm, Form.rank]
  have same : TensorCall.performAll (fun d => d.values.toList) calls d =
      TensorCall.performAll (fun s => [s.value]) calls s :=
    (rank_zero_simulates_scalar rfl rfl rfl bounds).1
  -- The course of the scalar is short enough to be computed.
  simp only [same]
  decide +kernel

end FormAssembly
