import FormAssembly.Proofs.Assembly.Replicas
import FormAssembly.Proofs.Message.Dealings

/-!
# Dealings of an assembly

An assembly either deals with nobody or makes one gathering, and which of the two it is does not
depend on the peers: it is settled once the contributions have been added
(`Replica.assembly_gathers_once`). So the ranks of a group stay in step as long as the assembly
succeeds locally on all of them or on none.
-/

namespace FormAssembly
namespace Replica

/-- An assembly that fails before finalization, or is not to be finalized, or is made in a group of
one, deals with nobody. Every other sends the values it has then, as the eight bytes of each, to all
other ranks in ascending order, and after that listens to each of them at most once, again in
ascending order. That holds at every moment, and whatever the peers do. -/
theorem assembly_gathers_once {rank size : Nat} (inside : rank < size)
    (options : AssemblyOptions) (form : Form Binary64) {t : Replica Binary64}
    (place : t.member = ⟨rank, size, false⟩) :
    (t.member.peers.length = size - 1 ∧ t.member.peers.Pairwise (· < ·) ∧
      ∀ peer, peer ∈ t.member.peers ↔ peer < size ∧ peer ≠ rank) ∧
    ∃ added : AssemblyReport (Replica Binary64) Binary64,
      (t.assemble { options with finalize := false } form : Exchange UInt8 _) = .done added ∧
      (added.outcome ≠ .ok () ∨ options.finalize = false ∨ size = 1 →
        ∃ report, (t.assemble options form : Exchange UInt8 _) = .done report) ∧
      (added.outcome = .ok () → options.finalize = true → size ≠ 1 →
        ∀ dealings rest, (t.assemble options form : Exchange UInt8 _).Deals dealings rest →
          t.member.OneGathering
            (added.tensor.values.flatMap fun value => LittleEndian.encode 8 value.bits.toNat)
            dealings rest.sending) := by
  rcases exists_localPart options form t with ⟨added, part⟩
  have size_eq : t.member.size = size := congrArg Member.size place
  have rank_eq : t.member.rank = rank := congrArg Member.rank place
  refine ⟨⟨?_, Member.pairwise_peers _, ?_⟩, added, part.unfinalized, ?_, ?_⟩
  · rw [Member.length_peers (by rwa [size_eq, rank_eq]), size_eq]
  · intro peer
    rw [Member.mem_peers, size_eq, rank_eq]
  · rintro (failed | without | one)
    · exact ⟨added, part.stops (.inl failed)⟩
    · exact ⟨added, part.stops (.inr without)⟩
    · -- In a group of one it still depends on the outcome whether there is a finalization.
      by_cases early : added.outcome ≠ .ok () ∨ options.finalize = false
      · exact ⟨added, part.stops early⟩
      · simp only [not_or, not_not, Bool.not_eq_false] at early
        rcases part.single early.1 early.2 (size_eq.trans one) with ⟨report, assembled, _⟩
        exact ⟨report, assembled⟩
  · intro success whole several dealings rest deals
    rcases part.gathers success whole place several with ⟨report, assembled, _⟩
    rw [assembled] at deals
    rw [place]
    exact Member.deals_gatherValues rfl deals

/-- Rank 1 of three adds 1 on each of two cells to a scalar and sends the sum to ranks 0 and 2. Rank
0 answers with a number, rank 2 with two stray bytes, on which the assembly fails. -/
theorem assembly_gathers_once_three_ranks :
    let mesh : Mesh Binary64 := ⟨0, 1, 1, fun _ => 2, fun _ => .ok [0, 1], fun _ => .ok #[], [], ""⟩
    let ones : Kernel Binary64 := ⟨fun block _ _ _ => block.map fun _ => Binary64.ofNat 1⟩
    let form : Form Binary64 :=
      ⟨FormDeclaration.toDescriptor ⟨0, [], []⟩, [], some mesh, .const none, .empty,
        .put .empty .cell ⟨none, ones, none⟩, none⟩
    let t : Replica Binary64 := .scalar ⟨Binary64.ofNat 5, ⟨1, 3, false⟩⟩
    let two : List UInt8 := [0, 0, 0, 0, 0, 0, 0, 64]
    ∃ report : AssemblyReport (Replica Binary64) Binary64,
      let dealings : List (Dealing UInt8) :=
        [.sent 0 Member.gatherTag two, .sent 2 Member.gatherTag two,
          .received 0 Member.gatherTag (some two), .received 2 Member.gatherTag (some [7, 7])]
      (t.assemble {} form).Deals dealings (.done report) ∧
        t.member.OneGathering two dealings false := by
  intro mesh ones form t two
  let script : Script UInt8 := ⟨fun peer => if peer = 0 then [some two] else [some [7, 7]], []⟩
  rcases (t.assemble {} form).exists_deals_perform script with ⟨dealings, written, deals⟩
  refine ⟨((t.assemble {} form).perform script).1, ?_⟩
  have transcript : ((t.assemble {} form).perform script).2.transcript =
      [.sent 0 Member.gatherTag two, .sent 2 Member.gatherTag two,
        .received 0 Member.gatherTag (some two),
        .received 2 Member.gatherTag (some [7, 7])] := by
    decide +kernel
  have known : dealings = _ := written.symm.trans transcript
  rcases assembly_gathers_once (by decide) {} form (show t.member = ⟨1, 3, false⟩ from rfl) with
    ⟨_, added, unfinalized, _, gathers⟩
  -- The local part can be run by itself.
  have computed := Exchange.eq_perform_of_done unfinalized .silent
  have sum : added.tensor.values = [Binary64.ofNat 2] := by
    rw [computed]
    decide +kernel
  have success : added.outcome = .ok () := by
    refine Assembly.eq_ok_of_isOk ?_
    rw [computed]
    decide +kernel
  have gathering := gathers success rfl (by decide) dealings _ deals
  rw [sum] at gathering
  rw [known] at deals gathering
  exact ⟨deals, gathering⟩

end Replica
end FormAssembly
