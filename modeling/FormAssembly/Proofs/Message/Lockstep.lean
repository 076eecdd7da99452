import FormAssembly.Proofs.Message.Agenda

/-!
# Calls that gather once each

A `Lockstep` describes members each of whose calls gathers once, with contributions of one length
in each round. The order within a member is all that is fixed: a fast member may be rounds ahead of
a slow one. The calls make up an agenda (`Lockstep.agenda`), in which every message that is sent is
taken, so nothing is left over at the end (`Lockstep.Invariant.queue_of_finished`).
-/

namespace FormAssembly

/-- Calls of the members of a group, each of which gathers once. -/
structure Lockstep (β α : Type) where
  size : Nat
  /-- Number of rounds. -/
  count : Nat
  call : (round rank : Nat) → α → Exchange β α
  /-- What a member holds before its call of a round, and in the end. -/
  state : (round rank : Nat) → α
  /-- Length of the contributions to a round. -/
  width : (round : Nat) → Nat
  contribution : (round rank : Nat) → List β
  buffer : (round rank : Nat) → List β
  /-- What a call makes of the outcome of its gathering. -/
  conclude : (round rank : Nat) → Except Error Unit × List β → α
  length_contribution : ∀ round < count, ∀ rank < size,
    (contribution round rank).length = width round
  length_buffer : ∀ round < count, ∀ rank < size, (buffer round rank).length = size * width round
  call_state : ∀ round < count, ∀ rank < size, call round rank (state round rank) =
    ((⟨rank, size, false⟩ : Member).gather (contribution round rank) (buffer round rank) >>=
      fun outcome => .done (conclude round rank outcome))
  conclude_gathered : ∀ round < count, ∀ rank < size,
    conclude round rank (.ok (), inRankOrder size (contribution round)) = state (round + 1) rank

namespace Lockstep

variable {β α : Type} {L : Lockstep β α} {s : Callers β α} {rank peer : Nat}

/-! ## The agenda -/

/-- The ranks that a rank exchanges messages with. -/
def partners (L : Lockstep β α) (rank : Nat) : List Nat :=
  -- Whoever is not in the group has none.
  if rank < L.size then (⟨rank, L.size, false⟩ : Member).peers else []

theorem mem_partners : peer ∈ L.partners rank ↔ rank < L.size ∧ peer < L.size ∧ peer ≠ rank := by
  by_cases inside : rank < L.size
  · simp [partners, inside, Member.mem_peers]
  · simp [partners, inside]

theorem nodup_partners (L : Lockstep β α) (rank : Nat) : (L.partners rank).Nodup := by
  unfold partners
  split
  · exact Member.nodup_peers _
  · exact List.nodup_nil

/-- The messages of a member in a round, each with its receiver. -/
def outgoing (L : Lockstep β α) (round rank : Nat) : List (Nat × List β) :=
  (L.partners rank).map fun peer => (peer, L.contribution round rank)

/-- The messages for a member in a round, each with its sender. -/
def incoming (L : Lockstep β α) (round rank : Nat) : List (Nat × List β) :=
  (L.partners rank).map fun peer => (peer, L.contribution round peer)

theorem follows_call {round : Nat} (early : round < L.count) (inside : rank < L.size) :
    (L.call round rank (L.state round rank)).Follows (L.outgoing round rank)
      (L.incoming round rank) (L.state (round + 1) rank) := by
  have own : (L.contribution round rank).length = L.width round :=
    L.length_contribution round early rank inside
  have room : (L.buffer round rank).length = L.size * L.width round :=
    L.length_buffer round early rank inside
  have partners : L.partners rank = (⟨rank, L.size, false⟩ : Member).peers := if_pos inside
  have equal : ∀ peer ∈ (⟨rank, L.size, false⟩ : Member).peers,
      (L.contribution round peer).length = L.width round :=
    fun peer among => L.length_contribution round early peer (Member.mem_peers.mp among).1
  have fits : (L.buffer round rank).length = L.size * (L.contribution round rank).length := by
    rw [room, own]
  have course := (Member.follows_gather (m := ⟨rank, L.size, false⟩) rfl fits
    (L.contribution round)).bind_done (L.conclude round rank)
  rw [own, Member.heard_of_equal equal, Member.collected_place inside room own equal,
    Function.update_eq_self, L.conclude_gathered round early rank inside] at course
  rw [L.call_state round early rank inside, outgoing, incoming, partners]
  exact course

theorem mem_partners_comm {source destination : Nat} :
    source ∈ L.partners destination ↔ destination ∈ L.partners source := by
  rw [mem_partners, mem_partners]
  exact ⟨fun ⟨receiver, sender, different⟩ => ⟨sender, receiver, different.symm⟩,
    fun ⟨sender, receiver, different⟩ => ⟨receiver, sender, different.symm⟩⟩

theorem dealtBefore_outgoing (L : Lockstep β α) (rounds source destination : Nat) :
    dealtBefore L.outgoing rounds source destination =
      if destination ∈ L.partners source then
        (List.range rounds).map fun round => L.contribution round source
      else [] :=
  dealtBefore_map (L.nodup_partners source) (fun round _ => L.contribution round source)
    (fun _ => rfl) rounds destination

/-- What a rank takes from another is what the other sends to it. -/
theorem dealtBefore_incoming (L : Lockstep β α) (rounds source destination : Nat) :
    dealtBefore L.incoming rounds destination source =
      dealtBefore L.outgoing rounds source destination := by
  have taken : dealtBefore L.incoming rounds destination source =
      if source ∈ L.partners destination then
        (List.range rounds).map fun round => L.contribution round source
      else [] :=
    dealtBefore_map (L.nodup_partners destination) L.contribution (fun _ => rfl) rounds source
  rw [taken, dealtBefore_outgoing]
  simp only [mem_partners_comm]

/-- Calls that gather once each, with their courses. -/
def agenda (L : Lockstep β α) : Agenda β α where
  size := L.size
  count := L.count
  call := L.call
  state := L.state
  outgoing := L.outgoing
  incoming := L.incoming
  follows_call _ early _ inside := follows_call early inside
  source_lt _ _ _ _ entry among := by
    rcases List.mem_map.mp among with ⟨peer, partner, rfl⟩
    exact (mem_partners.mp partner).2.1
  taken_sent round _ source _ destination _ := by
    rw [dealtBefore_incoming]

/-! ## What holds in every state -/

/-- The invariant of the agenda. -/
def Invariant (L : Lockstep β α) (s : Callers β α)
    (unsent untaken : Nat → List (Nat × List β)) : Prop :=
  L.agenda.Invariant s unsent untaken

theorem invariant_of_run
    (run : Callers.Run L.call L.count (.idle ((List.range L.size).map (L.state 0))) s) :
    ∃ unsent untaken, L.Invariant s unsent untaken :=
  L.agenda.invariant_of_run run

/-- When all members are done nothing is under way any more. -/
theorem Invariant.queue_of_finished {unsent untaken : Nat → List (Nat × List β)}
    (inv : L.Invariant s unsent untaken) (finished : ∀ rank < L.size, s.Finished L.count rank)
    (source destination : Nat) :
    s.world.mailbox.queue ⟨source, destination, Member.gatherTag⟩ = [] := by
  by_cases pair : destination ∈ L.partners source
  · rcases mem_partners.mp pair with ⟨sender, receiver, _⟩
    have left := Agenda.Invariant.queue_of_finished inv finished sender receiver
    have all : dealtBefore L.agenda.incoming L.agenda.count destination source =
        dealtBefore L.agenda.outgoing L.agenda.count source destination :=
      L.dealtBefore_incoming L.count source destination
    rw [left, all, List.drop_length]
  · -- Nothing is ever sent from one to the other.
    rcases inv.queues source destination with ⟨past, sent, _⟩
    have never : dealtBefore L.agenda.outgoing (s.begun source) source destination = [] :=
      (L.dealtBefore_outgoing _ source destination).trans (if_neg pair)
    rw [never] at sent
    simp only [List.nil_eq, List.append_eq_nil_iff] at sent
    exact sent.1.2

end Lockstep
end FormAssembly
