import FormAssembly.Proofs.Message.Scripted
import FormAssembly.Proofs.Tensor.Runs

/-!
# Finalization against a script

To finalize a tensor in a group is to gather its values. If the peers follow a script, this fails
exactly if one of them does not contribute equally many values
(`DenseTensor.exists_error_apply_iff`, `ScalarTensor.exists_error_apply_iff`), and the tensor stays
as it was (`Member.gathering_against_script`).
-/

namespace FormAssembly

variable {α β τ : Type} [Zero α] {m : Member} {s : Script β} {mode : ApplyMode}

/-- Whatever the script, a call that fails leaves the tensor as it was. -/
theorem TensorCall.unchanged_of_perform [Tensor τ α β] (t : τ) (call : TensorCall α) {e : Error}
    (single : call.Single) :
    ((call.perform t).perform s).1.answer = .error e →
      ((call.perform t).perform s).1.tensor = t := by
  rcases Exchange.exists_deals_perform (call.perform t) s with ⟨dealings, _, dealt⟩
  exact unchanged_of_error single dealt

variable [Code α β]

theorem Member.peers_of_one (inside : m.rank < m.size) (one : m.size = 1) : m.peers = [] := by
  have first : m.rank = 0 := by omega
  simp [peers, one, first]

/-- A tensor whose finalization is a gathering, if there is anybody to gather from, fails exactly if
some peer does not contribute equally many values. -/
theorem TensorCall.exists_error_apply_iff [Tensor τ α β] {t : τ} {values : List α}
    {combine : List α → τ} {kept gathered : List Event} (inGroup : m.alone = false)
    (inside : m.rank < m.size)
    (keeps : m.size = 1 → (Tensor.apply t mode : Exchange β _) = .done ⟨.ok t, kept⟩)
    (gathers : m.size ≠ 1 → (Tensor.apply t mode : Exchange β _) =
      m.gatherValues values >>= fun all => .done ⟨all.map combine, gathered⟩) :
    (∃ e, (((TensorCall.apply mode).perform t).perform s).1.answer = .error e) ↔
      ∃ peer ∈ m.peers, ¬ s.Contributes (values.length * Code.width α) peer := by
  by_cases one : m.size = 1
  · simp [perform, keeps one, Exchange.perform, CallResult.ofChange,
      Member.peers_of_one inside one]
  · rw [← Member.exists_error_gatherValues_iff inGroup inside values]
    simp only [perform, gathers one, Exchange.perform_bind, Exchange.perform]
    cases ((m.gatherValues values).perform s).1 <;>
      simp [Except.map, CallResult.ofChange, Exchange.perform]

variable [Add α] [SumStart α]

section

variable {rank size : Nat} (inside : rank < size)
include inside

theorem DenseTensor.exists_error_apply_iff {t : DenseTensor α}
    (place : t.member = ⟨rank, size, false⟩) :
    (∃ e, (((TensorCall.apply mode).perform t).perform s).1.answer = .error e) ↔
      ∃ peer ∈ t.member.peers, ¬ s.Contributes (t.values.size * Code.width α) peer := by
  have single : size = 1 → t.member.alone = true ∨ t.member.size = 1 := by
    simp [place]
  have failed := TensorCall.exists_error_apply_iff (m := ⟨rank, size, false⟩) (s := s) (t := t)
    rfl inside (fun one => apply_of_single mode (single one)) (apply_of_group mode place)
  simpa [place] using failed

theorem ScalarTensor.exists_error_apply_iff [Display α] {t : ScalarTensor α}
    (place : t.member = ⟨rank, size, false⟩) :
    (∃ e, (((TensorCall.apply mode).perform t).perform s).1.answer = .error e) ↔
      ∃ peer ∈ t.member.peers, ¬ s.Contributes (Code.width α) peer := by
  have single : size = 1 → t.member.alone = true ∨ t.member.size = 1 := by
    simp [place]
  have failed := TensorCall.exists_error_apply_iff (m := ⟨rank, size, false⟩) (s := s) (t := t)
    rfl inside (fun one => apply_of_single mode (single one)) (apply_of_group mode place)
  simpa [place] using failed

end

/-- A member of a group gathers while its peers follow a script. If the buffer has no room for all
contributions, it fails without a message sent or waited for. Otherwise it sends its own
contribution to all peers in the order of ranks and waits for them in the same order, up to the
lowest peer that sends nothing or something of another length: that one is named, and those after it
keep their messages. If there is no such peer, the buffer holds all contributions in the end.

So the finalization of a tensor fails if and only if one of the peers does not send as many values,
and a tensor whose finalization fails is left as it was. -/
theorem Member.gathering_against_script [ScalarTensor.Display α] {m : Member}
    (inGroup : m.alone = false) (inside : m.rank < m.size) (mine buffer : List β) (s : Script β) :
    (buffer.length ≠ m.size * mine.length →
      (m.gather mine buffer).perform s =
        ((.error (.communication (.room buffer.length (m.size * mine.length))), buffer), s)) ∧
    (buffer.length = m.size * mine.length →
      let run := (m.gather mine buffer).perform s
      (run.1.1 = .ok () ↔ ∀ peer ∈ m.peers, s.Contributes mine.length peer) ∧
      ∃ heard : List Nat,
        run.2.transcript = s.transcript ++ (m.peers.map fun peer => .sent peer gatherTag mine) ++
          (heard.map fun peer => .received peer gatherTag (s.next peer)) ∧
        (∀ peer, run.2.answers peer =
          if peer ∈ heard then (s.answers peer).tail else s.answers peer) ∧
        (run.1.1 = .ok () → heard = m.peers ∧ run.1.2 = inRankOrder m.size fun rank =>
          if rank = m.rank then mine else (s.next rank).getD []) ∧
        ∀ e, run.1.1 = .error e → ∃ peer ∈ m.peers, ¬ s.Contributes mine.length peer ∧
          (∀ earlier ∈ m.peers, earlier < peer → s.Contributes mine.length earlier) ∧
          e = .communication (offence s mine.length peer) ∧ heard = m.peers.filter (· ≤ peer)) ∧
    (∀ (t : DenseTensor α) mode, t.member = m →
      let result := (((TensorCall.apply mode).perform t).perform s).1
      ((∃ e, result.answer = .error e) ↔
        ∃ peer ∈ m.peers, ¬ s.Contributes (t.values.size * Code.width α) peer) ∧
      ∀ e, result.answer = .error e → result.tensor = t) ∧
    ∀ (t : ScalarTensor α) mode, t.member = m →
      let result := (((TensorCall.apply mode).perform t).perform s).1
      ((∃ e, result.answer = .error e) ↔
        ∃ peer ∈ m.peers, ¬ s.Contributes (Code.width α) peer) ∧
      ∀ e, result.answer = .error e → result.tensor = t := by
  refine ⟨perform_gather_of_room inGroup s, ?_, ?_, ?_⟩
  · intro room run
    refine ⟨perform_gather_ok_iff inGroup room inside, ?_⟩
    by_cases contributed : ∀ peer ∈ m.peers, s.Contributes mine.length peer
    · have ended : run = _ := perform_gather_of_contributions inGroup room inside contributed
      refine ⟨m.peers, ?_, ?_, ?_, ?_⟩
      · simp only [ended, transcript_listened m.nodup_peers]
      · intro peer
        simp only [ended, answers_listened m.nodup_peers]
      · intro _
        simp only [ended, and_self]
      · intro e failed
        simp [ended] at failed
    · simp only [not_forall] at contributed
      rcases contributed with ⟨rank, among, offends⟩
      rcases exists_perform_gather_of_offence inGroup room among offends with
        ⟨peer, listed, fails, lowest, failed, after⟩
      have distinct : (m.peers.filter (· ≤ peer)).Nodup := m.nodup_peers.filter _
      refine ⟨m.peers.filter (· ≤ peer), ?_, ?_, ?_, ?_⟩
      · exact (congrArg Script.transcript after).trans (transcript_listened distinct)
      · intro other
        exact (congrFun (congrArg Script.answers after) other).trans (answers_listened distinct)
      · intro succeeded
        cases succeeded.symm.trans failed
      · intro e ended
        exact ⟨peer, listed, fails, lowest, Except.error.inj (ended.symm.trans failed), rfl⟩
  · intro t mode place result
    rcases m with ⟨rank, size, alone⟩
    obtain rfl : alone = false := inGroup
    refine ⟨?_, fun _ => TensorCall.unchanged_of_perform t (.apply mode) trivial⟩
    simpa only [place] using DenseTensor.exists_error_apply_iff inside place
  · intro t mode place result
    rcases m with ⟨rank, size, alone⟩
    obtain rfl : alone = false := inGroup
    refine ⟨?_, fun _ => TensorCall.unchanged_of_perform t (.apply mode) trivial⟩
    simpa only [place] using ScalarTensor.exists_error_apply_iff inside place

/-- The second of three peers sends too little, and the last one is not listened to any more. -/
theorem Member.gathering_against_script_short_message :
    let _ : ExactSum Int := .ofMonoid Int
    let _ : Code Int Int := .plain Int
    let m : Member := ⟨1, 4, false⟩
    let s : Script Int := ⟨fun peer => if peer = 0 then [some [5, 6], some [9]]
      else if peer = 2 then [some [7]] else [some [8, 8]], []⟩
    let run := (m.gather [1, 2] (List.replicate 8 0)).perform s
    run.1.1 = .error (.communication (.unequal 2 1 2)) ∧ run.2.answers 0 = [some [9]] ∧
      run.2.answers 3 = [some [8, 8]] ∧
      ∀ t : DenseTensor Int, t.member = m → t.values.size = 2 →
        let result := (((TensorCall.apply .add).perform t).perform s).1
        (∃ e, result.answer = .error e) ∧ result.tensor = t := by
  intro _ _ m s run
  let _ : ScalarTensor.Display Int := ⟨fun value => toString value⟩
  rcases gathering_against_script (α := Int) (m := m) rfl (by decide) [1, 2]
    (List.replicate 8 0) s with ⟨_, gathers, finalizes, _⟩
  rcases gathers rfl with ⟨_, heard, _, answers, _, fails⟩
  have failed : run.1.1 = .error (.communication (.unequal 2 1 2)) := by decide
  have short : ¬ s.Contributes 2 2 := by decide
  have named : ∀ peer ∈ m.peers, offence s 2 peer = .unequal 2 1 2 → peer = 2 := by decide
  rcases fails _ failed with ⟨peer, among, _, _, fault, rfl⟩
  obtain rfl : peer = 2 := named peer among (Error.communication.inj fault).symm
  refine ⟨failed, (answers 0).trans (by decide), (answers 3).trans (by decide), ?_⟩
  intro t place pair result
  rcases finalizes t .add place with ⟨failing, unchanged⟩
  have error : ∃ e, result.answer = .error e := by
    refine failing.mpr ⟨2, by decide, ?_⟩
    rw [pair]
    exact short
  rcases error with ⟨e, answer⟩
  exact ⟨⟨e, answer⟩, unchanged e answer⟩

end FormAssembly
