import FormAssembly.Proofs.Message.Dealings

/-!
# Gathering against a script

What a gathering does if its peers follow a script. With no room for all contributions it ends at
once (`Member.perform_gather_of_room`). Otherwise it sends to everybody, and then it takes one
message of each peer, up to the first that is missing or of another length
(`Member.exists_perform_gather_of_offence`), or of all of them
(`Member.perform_gather_of_contributions`).
-/

namespace FormAssembly

variable {β : Type} {s : Script β} {width tag peer other : Nat} {before after peers : List Nat}
  {mine buffer message : List β}

namespace Script

/-- The next message of a peer is there and as long as it should be. -/
def Contributes (s : Script β) (width peer : Nat) : Prop :=
  ∃ message, s.next peer = some message ∧ message.length = width

instance : Decidable (s.Contributes width peer) :=
  decidable_of_iff ((s.next peer).any (·.length = width) = true)
    (by simp [Contributes, Option.any_eq_true])

/-- A message was sent to each of some peers, one after another. -/
def announce (s : Script β) (tag : Nat) (message : List β) (peers : List Nat) : Script β :=
  peers.foldl (fun s peer => s.record (.sent peer tag message)) s

/-- A message of a peer was waited for. -/
def heed (s : Script β) (tag peer : Nat) : Script β :=
  (s.consume peer).record (.received peer tag (s.next peer))

/-- A message of each of some peers was waited for, one after another. -/
def listen (s : Script β) (tag : Nat) (peers : List Nat) : Script β :=
  peers.foldl (fun s peer => s.heed tag peer) s

theorem announce_eq (s : Script β) (tag : Nat) (message : List β) (peers : List Nat) :
    s.announce tag message peers =
      { s with transcript := s.transcript ++ peers.map fun peer => .sent peer tag message } := by
  induction peers generalizing s with
  | nil => simp [announce]
  | cons peer others ih =>
      have onward := ih (s.record (.sent peer tag message))
      simpa [announce, record] using onward

theorem next_heed_of_ne : other ≠ peer → (s.heed tag peer).next other = s.next other := by
  intro different
  simp [heed, next, consume, record, different]

theorem next_listen (apart : peer ∉ peers) : (s.listen tag peers).next peer = s.next peer := by
  induction peers generalizing s with
  | nil => rfl
  | cons first others ih =>
      have parts := List.ne_and_not_mem_of_not_mem_cons apart
      exact (ih parts.2).trans (next_heed_of_ne parts.1)

/-- One answer of each peer that was waited for is gone. -/
theorem answers_listen (distinct : peers.Nodup) :
    (s.listen tag peers).answers peer =
      if peer ∈ peers then (s.answers peer).tail else s.answers peer := by
  induction peers generalizing s with
  | nil => rfl
  | cons first others ih =>
      have apart := List.nodup_cons.mp distinct
      have onward : (s.listen tag (first :: others)).answers peer =
          if peer ∈ others then ((s.heed tag first).answers peer).tail
          else (s.heed tag first).answers peer := ih apart.2
      by_cases now : peer = first
      · subst now
        simp [onward, apart.1, heed, consume, record]
      · simp [onward, now, heed, consume, record]

theorem transcript_listen (distinct : peers.Nodup) :
    (s.listen tag peers).transcript =
      s.transcript ++ peers.map fun peer => .received peer tag (s.next peer) := by
  induction peers generalizing s with
  | nil => simp [listen]
  | cons first others ih =>
      have apart := List.nodup_cons.mp distinct
      have same : ∀ peer ∈ others, (s.heed tag first).next peer = s.next peer := by
        rintro peer later
        exact next_heed_of_ne fun now => apart.1 (now ▸ later)
      have heard : (others.map fun peer =>
          Dealing.received peer tag ((s.heed tag first).next peer)) =
            others.map fun peer => .received peer tag (s.next peer) := by
        refine List.map_congr_left ?_
        intro peer later
        simp only [same peer later]
      calc (s.listen tag (first :: others)).transcript
          = (s.heed tag first).transcript ++
              others.map fun peer => .received peer tag ((s.heed tag first).next peer) := ih apart.2
        _ = s.transcript ++ (first :: others).map fun peer => .received peer tag (s.next peer) := by
          rw [heard]
          simp [heed, record, consume]

end Script

namespace Exchange

variable {α : Type}

theorem perform_sendAll (peers : List Nat) (tag : Nat) (message : List β) (next : Exchange β α)
    (s : Script β) :
    (sendAll peers tag message next).perform s = next.perform (s.announce tag message peers) := by
  induction peers generalizing s with
  | nil => rfl
  | cons peer others ih => exact ih _

end Exchange

namespace Member

/-- Puts the next messages of some peers in their places. -/
def fill (s : Script β) (peers : List Nat) (buffer : List β) : List β :=
  peers.foldl (fun buffer peer => place peer ((s.next peer).getD []) buffer) buffer

theorem fill_congr {s' : Script β} (same : ∀ peer ∈ peers, s'.next peer = s.next peer) :
    fill s' peers buffer = fill s peers buffer := by
  refine List.foldl_ext _ _ _ ?_
  intro held peer among
  rw [same peer among]

theorem perform_collect_append (distinct : (before ++ after).Nodup)
    (contributed : ∀ peer ∈ before, s.Contributes width peer) :
    (collect width (before ++ after) buffer).perform s =
      (collect width after (fill s before buffer)).perform (s.listen gatherTag before) := by
  -- By induction on the peers that contribute. To heed one leaves the messages of the others.
  induction before generalizing s buffer with
  | nil => rfl
  | cons peer others ih =>
      rcases contributed peer List.mem_cons_self with ⟨message, next, fits⟩
      have parts : peer ∉ others ++ after ∧ (others ++ after).Nodup := List.nodup_cons.mp distinct
      have same : ∀ other ∈ others, (s.heed gatherTag peer).next other = s.next other := by
        intro other later
        refine Script.next_heed_of_ne ?_
        rintro rfl
        exact parts.1 (List.mem_append_left after later)
      have onward : ∀ other ∈ others, (s.heed gatherTag peer).Contributes width other := by
        intro other later
        simpa [Script.Contributes, same other later] using
          contributed other (List.mem_cons_of_mem peer later)
      calc (collect width (peer :: others ++ after) buffer).perform s
          = (collect width (others ++ after) (place peer message buffer)).perform
              (s.heed gatherTag peer) := by
            simp [collect, Exchange.perform, next, fits, Script.heed]
        _ = (collect width after
              (fill (s.heed gatherTag peer) others (place peer message buffer))).perform
                ((s.heed gatherTag peer).listen gatherTag others) := ih parts.2 onward
        _ = (collect width after (fill s others (place peer message buffer))).perform
              ((s.heed gatherTag peer).listen gatherTag others) := by
            simp only [fill_congr same]
        _ = (collect width after (fill s (peer :: others) buffer)).perform
              (s.listen gatherTag (peer :: others)) := by
            simp [fill, next, Script.listen]

/-- Why a peer does not contribute. -/
def offence (s : Script β) (width peer : Nat) : GatherFault :=
  match s.next peer with
  | none => .silent peer
  | some message => .unequal peer message.length width

theorem perform_collect_of_offence (offends : ¬ s.Contributes width peer) :
    (collect width (peer :: after) buffer).perform s =
      ((.error (.communication (offence s width peer)), buffer), s.heed gatherTag peer) := by
  cases next : s.next peer with
  | none => simp [collect, Exchange.perform, next, offence, Script.heed]
  | some message =>
      have unequal : message.length ≠ width := fun fits => offends ⟨message, next, fits⟩
      simp [collect, Exchange.perform, next, offence, Script.heed, unequal]

/-- If nobody offends, each of them is heard once. -/
theorem perform_collect_of_contributions (distinct : peers.Nodup)
    (contributed : ∀ peer ∈ peers, s.Contributes width peer) :
    (collect width peers buffer).perform s =
      ((.ok (), fill s peers buffer), s.listen gatherTag peers) := by
  have whole : (peers ++ []).Nodup := by simpa using distinct
  simpa [collect, Exchange.perform] using perform_collect_append whole contributed

/-- The first who offends ends the collecting. -/
theorem perform_collect_of_first (distinct : (before ++ peer :: after).Nodup)
    (contributed : ∀ peer ∈ before, s.Contributes width peer)
    (offends : ¬ s.Contributes width peer) :
    (collect width (before ++ peer :: after) buffer).perform s =
      ((.error (.communication (offence s width peer)), fill s before buffer),
        s.listen gatherTag (before ++ [peer])) := by
  have apart : peer ∉ before := by
    intro earlier
    exact (List.nodup_append.mp distinct).2.2 peer earlier peer List.mem_cons_self rfl
  have same : (s.listen gatherTag before).next peer = s.next peer := Script.next_listen apart
  have still : ¬ (s.listen gatherTag before).Contributes width peer := by
    simpa [Script.Contributes, same] using offends
  have fault : offence (s.listen gatherTag before) width peer = offence s width peer := by
    simp only [offence, same]
  calc (collect width (before ++ peer :: after) buffer).perform s
      = (collect width (peer :: after) (fill s before buffer)).perform
          (s.listen gatherTag before) := perform_collect_append distinct contributed
    _ = ((.error (.communication (offence (s.listen gatherTag before) width peer)),
          fill s before buffer), (s.listen gatherTag before).heed gatherTag peer) :=
        perform_collect_of_offence still
    _ = ((.error (.communication (offence s width peer)), fill s before buffer),
          s.listen gatherTag (before ++ [peer])) := by
        rw [fault]
        simp [Script.listen]

theorem length_of_contributes :
    s.Contributes width peer → ((s.next peer).getD []).length = width := by
  rintro ⟨message, next, fits⟩
  simpa [next] using fits

theorem collected_eq_fill (contributed : ∀ peer ∈ peers, s.Contributes width peer) :
    collected width (fun peer => (s.next peer).getD []) peers buffer =
      (.ok (), fill s peers buffer) := by
  induction peers generalizing buffer with
  | nil => rfl
  | cons peer others ih =>
      have fits := length_of_contributes (contributed peer List.mem_cons_self)
      simpa [collected, fits, fill] using
        ih fun other later => contributed other (List.mem_cons_of_mem peer later)

/-- If nobody offends, everything is in its place in the end. -/
theorem fill_place {m : Member} (inside : m.rank < m.size)
    (room : buffer.length = m.size * mine.length)
    (contributed : ∀ peer ∈ m.peers, s.Contributes mine.length peer) :
    fill s m.peers (place m.rank mine buffer) =
      inRankOrder m.size fun rank => if rank = m.rank then mine else (s.next rank).getD [] := by
  have equal : ∀ peer ∈ m.peers, ((s.next peer).getD []).length = mine.length :=
    fun peer among => length_of_contributes (contributed peer among)
  have filled := (collected_eq_fill contributed).symm.trans (collected_place inside room rfl equal)
  simp only [Prod.mk.injEq, true_and] at filled
  refine filled.trans (inRankOrder_congr ?_)
  intro rank _
  simp only [Function.update_apply]

/-! ## Gatherings -/

/-- The script after a gathering that has waited for `heard`. -/
def listened (m : Member) (mine : List β) (s : Script β) (heard : List Nat) : Script β :=
  (s.announce gatherTag mine m.peers).listen gatherTag heard

theorem answers_listened {m : Member} {heard : List Nat} (distinct : heard.Nodup) :
    (m.listened mine s heard).answers peer =
      if peer ∈ heard then (s.answers peer).tail else s.answers peer := by
  simp [listened, Script.answers_listen distinct, Script.announce_eq]

theorem transcript_listened {m : Member} {heard : List Nat} (distinct : heard.Nodup) :
    (m.listened mine s heard).transcript =
      s.transcript ++ (m.peers.map fun peer => .sent peer gatherTag mine) ++
        heard.map fun peer => .received peer gatherTag (s.next peer) := by
  simp [listened, Script.transcript_listen distinct, Script.announce_eq, Script.next]

theorem contributes_announce {message : List β} :
    (s.announce tag message peers).Contributes width peer ↔ s.Contributes width peer := by
  simp [Script.Contributes, Script.announce_eq, Script.next]

theorem perform_gather_of_room {m : Member} (inGroup : m.alone = false) (s : Script β) :
    buffer.length ≠ m.size * mine.length →
      (m.gather mine buffer).perform s =
        ((.error (.communication (.room buffer.length (m.size * mine.length))), buffer), s) := by
  intro short
  simp [gather, inGroup, short, Exchange.perform]

section Room

variable {m : Member} (inGroup : m.alone = false) (room : buffer.length = m.size * mine.length)
include inGroup room

theorem perform_gather_eq (s : Script β) :
    (m.gather mine buffer).perform s =
      (collect mine.length m.peers (place m.rank mine buffer)).perform
        (s.announce gatherTag mine m.peers) := by
  simp only [gather_eq inGroup room, Exchange.perform_sendAll]

theorem perform_gather_of_contributions (inside : m.rank < m.size)
    (contributed : ∀ peer ∈ m.peers, s.Contributes mine.length peer) :
    (m.gather mine buffer).perform s =
      ((.ok (), inRankOrder m.size fun rank =>
        if rank = m.rank then mine else (s.next rank).getD []), m.listened mine s m.peers) := by
  have still : ∀ peer ∈ m.peers,
      (s.announce gatherTag mine m.peers).Contributes mine.length peer :=
    fun peer among => contributes_announce.mpr (contributed peer among)
  have same : ∀ peer, (s.announce gatherTag mine m.peers).next peer = s.next peer := by
    simp [Script.announce_eq, Script.next]
  rw [perform_gather_eq inGroup room, perform_collect_of_contributions m.nodup_peers still,
    fill_place inside room still]
  simp only [same, listened]

/-- The lowest peer that offends is the last that is heard. -/
theorem exists_perform_gather_of_offence {rank : Nat} (among : rank ∈ m.peers)
    (offends : ¬ s.Contributes mine.length rank) :
    ∃ peer ∈ m.peers, ¬ s.Contributes mine.length peer ∧
      (∀ earlier ∈ m.peers, earlier < peer → s.Contributes mine.length earlier) ∧
      ((m.gather mine buffer).perform s).1.1 =
        .error (.communication (offence s mine.length peer)) ∧
      ((m.gather mine buffer).perform s).2 = m.listened mine s (m.peers.filter (· ≤ peer)) := by
  have found : (m.peers.find? fun peer => ¬ s.Contributes mine.length peer).isSome := by
    simpa using ⟨rank, among, offends⟩
  rcases Option.isSome_iff_exists.mp found with ⟨peer, first⟩
  rcases List.find?_eq_some_iff_append.mp first with ⟨fails, before, after, split, earlier⟩
  -- Peers ascend, so those before it are the lower ones.
  simp only [decide_eq_true_eq, Bool.not_eq_true', decide_eq_false_iff_not, not_not]
    at fails earlier
  have ascending : (before ++ peer :: after).Pairwise (· < ·) := split ▸ m.pairwise_peers
  have distinct : (before ++ peer :: after).Nodup := split ▸ m.nodup_peers
  have parts := List.pairwise_append.mp ascending
  have below : ∀ p ∈ before, p < peer := fun p here => parts.2.2 p here peer List.mem_cons_self
  have above : ∀ p ∈ after, peer < p := (List.pairwise_cons.mp parts.2.1).1
  have heard : m.peers.filter (· ≤ peer) = before ++ [peer] := by
    have kept : before.filter (· ≤ peer) = before :=
      List.filter_eq_self.mpr fun p here => by simpa using Nat.le_of_lt (below p here)
    have dropped : after.filter (· ≤ peer) = [] :=
      List.filter_eq_nil_iff.mpr fun p here => by simpa using above p here
    simp [split, kept, dropped]
  let announced := s.announce gatherTag mine m.peers
  have same : offence announced mine.length peer = offence s mine.length peer := by
    simp [offence, announced, Script.announce_eq, Script.next]
  have run : (m.gather mine buffer).perform s =
      ((.error (.communication (offence s mine.length peer)),
        fill announced before (place m.rank mine buffer)),
        m.listened mine s (m.peers.filter (· ≤ peer))) := by
    calc (m.gather mine buffer).perform s
        = (collect mine.length (before ++ peer :: after) (place m.rank mine buffer)).perform
            announced := by
          rw [perform_gather_eq inGroup room, ← split]
      _ = ((.error (.communication (offence announced mine.length peer)),
            fill announced before (place m.rank mine buffer)),
            announced.listen gatherTag (before ++ [peer])) :=
          perform_collect_of_first distinct
            (fun p here => contributes_announce.mpr (earlier p here))
            (mt contributes_announce.mp fails)
      _ = _ := by
          rw [same, heard]
          rfl
  refine ⟨peer, by simp [split], fails, ?_, by rw [run], by rw [run]⟩
  intro p here lower
  rcases List.mem_append.mp (split ▸ here) with early | late
  · exact earlier p early
  · rcases List.mem_cons.mp late with rfl | later
    · exact absurd lower (Nat.lt_irrefl _)
    · exact absurd (above p later) (Nat.lt_asymm lower)

variable (inside : m.rank < m.size)
include inside

theorem perform_gather_ok_iff :
    ((m.gather mine buffer).perform s).1.1 = .ok () ↔
      ∀ peer ∈ m.peers, s.Contributes mine.length peer := by
  constructor
  · intro succeeded peer among
    by_contra offends
    rcases exists_perform_gather_of_offence inGroup room among offends with ⟨_, _, _, _, failed, _⟩
    cases succeeded.symm.trans failed
  · intro contributed
    rw [perform_gather_of_contributions inGroup room inside contributed]

theorem exists_error_gather_iff :
    (∃ e, ((m.gather mine buffer).perform s).1.1 = .error e) ↔
      ∃ peer ∈ m.peers, ¬ s.Contributes mine.length peer := by
  have succeeds := perform_gather_ok_iff inGroup room inside (s := s)
  cases ended : ((m.gather mine buffer).perform s).1.1 with
  | ok _ => simpa [ended] using succeeds
  | error e => simpa [ended] using succeeds

end Room

/-- A member fails to gather values exactly if some peer does not contribute equally many. -/
theorem exists_error_gatherValues_iff {α : Type} [Zero α] [Code α β] {m : Member}
    (inGroup : m.alone = false) (inside : m.rank < m.size) (values : List α) :
    (∃ e, ((m.gatherValues values).perform s).1 = .error e) ↔
      ∃ peer ∈ m.peers, ¬ s.Contributes (values.length * Code.width α) peer := by
  have failed := exists_error_gather_iff inGroup (length_room m values) inside (s := s)
  simp only [Code.length_encodeAll] at failed
  simp only [← failed, gatherValues_eq, Exchange.perform_bind, Exchange.perform]
  cases ((m.gather (Code.encodeAll values)
    (Code.encodeAll (List.replicate (values.length * m.size) (0 : α)))).perform s).1.1 <;>
    simp [Except.map]

end Member
end FormAssembly
