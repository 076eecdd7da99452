import FormAssembly.Number.Binary64
import FormAssembly.Proofs.Message.Agenda
import FormAssembly.Proofs.Message.Unequal

/-!
# Messages that a failed gathering leaves

In the first round failures do no harm: either all members fail or none does, and none waits
forever (`gathering_is_unanimous`). A member that fails may leave messages of that round behind,
however, and takes them for contributions to later rounds: what it gets from a peer is always the
oldest contribution that it has not taken yet (`Member.taken`). Only members that left nothing
behind get what belongs to the round (`gathering_after_failures`).
-/

namespace FormAssembly
namespace Member

variable {α β : Type} {size : Nat} [Code α β]

/-! ## Round after round -/

/-- The call of a member that gathers values in every round and keeps all outcomes. -/
def gatherValuesAgain [Zero α] (size : Nat) (values : (round rank : Nat) → List α)
    (round rank : Nat) (outcomes : List (Except Error (List α))) :
    Exchange β (List (Except Error (List α))) := do
  let outcome ← (⟨rank, size, false⟩ : Member).gatherValues (values round rank)
  return outcomes ++ [outcome]

/-- Number of contributions of `peer` that `rank` has taken before `round`. In each round in which
it hears the peer, it takes the oldest one that it has not taken. -/
def taken (size : Nat) (values : (round rank : Nat) → List α) : (round rank peer : Nat) → Nat
  | 0, _, _ => 0
  | round + 1, rank, peer =>
      let answer other := values (taken size values round rank other) other
      if peer ∈ heard (values round rank).length answer (⟨rank, size, false⟩ : Member).peers then
        taken size values round rank peer + 1
      else
        taken size values round rank peer

/-- What `rank` takes for the contribution of `peer` to a round. -/
def answerTo (size : Nat) (values : (round rank : Nat) → List α) (round rank peer : Nat) : List α :=
  values (taken size values round rank peer) peer

/-- What the gatherings of the first `rounds` rounds return to `rank`. -/
def outcomesBefore (size : Nat) (values : (round rank : Nat) → List α) (rounds rank : Nat) :
    List (Except Error (List α)) :=
  (List.range rounds).map fun round =>
    (⟨rank, size, false⟩ : Member).gatherOutcome (values round rank)
      (answerTo size values round rank)

/-- The peers that `rank` hears in a round. -/
def heardIn (size : Nat) (values : (round rank : Nat) → List α) (round rank : Nat) : List Nat :=
  heard (values round rank).length (answerTo size values round rank)
    (⟨rank, size, false⟩ : Member).peers

variable {values : (round rank : Nat) → List α} {round rank peer : Nat}

theorem heardIn_nodup : (heardIn size values round rank).Nodup :=
  (nodup_peers _).sublist (heard_sublist _ _ _)

theorem mem_peers_of_mem_heardIn (among : peer ∈ heardIn size values round rank) :
    peer < size ∧ peer ≠ rank :=
  mem_peers.mp ((heard_sublist _ _ _).subset among)

theorem taken_succ_of_mem (among : peer ∈ heardIn size values round rank) :
    taken size values (round + 1) rank peer = taken size values round rank peer + 1 :=
  if_pos among

theorem taken_succ_of_not_mem (missed : peer ∉ heardIn size values round rank) :
    taken size values (round + 1) rank peer = taken size values round rank peer :=
  if_neg missed

theorem taken_le : taken size values round rank peer ≤ round := by
  induction round with
  | zero => exact Nat.le_refl 0
  | succ round ih =>
      by_cases among : peer ∈ heardIn size values round rank
      · rw [taken_succ_of_mem among]
        exact Nat.succ_le_succ ih
      · rw [taken_succ_of_not_mem among]
        exact Nat.le_succ_of_le ih

/-- A member takes nothing from itself. -/
theorem taken_self : taken size values round rank rank = 0 := by
  induction round with
  | zero => rfl
  | succ round ih =>
      have missed : rank ∉ heardIn size values round rank :=
        fun among => (mem_peers_of_mem_heardIn among).2 rfl
      rw [taken_succ_of_not_mem missed, ih]

/-- Nothing is left behind iff all peers but the last contributed as much as the member itself in
every round. -/
theorem taken_eq_iff :
    (∀ peer ∈ (⟨rank, size, false⟩ : Member).peers, taken size values round rank peer = round) ↔
      ∀ earlier < round, ∀ peer ∈ (⟨rank, size, false⟩ : Member).peers.dropLast,
        (values earlier peer).length = (values earlier rank).length := by
  induction round with
  | zero => simp [taken]
  | succ round ih =>
      let peers : List Nat := (⟨rank, size, false⟩ : Member).peers
      -- A count that is to reach `round + 1` must not stop on the way.
      have onTheWay : ∀ peer, taken size values (round + 1) rank peer = round + 1 ↔
          taken size values round rank peer = round ∧ peer ∈ heardIn size values round rank := by
        intro peer
        have bound : taken size values round rank peer ≤ round := taken_le
        by_cases among : peer ∈ heardIn size values round rank
        · rw [taken_succ_of_mem among]
          simp [among]
        · rw [taken_succ_of_not_mem among]
          simp only [among, and_false, iff_false]
          omega
      have now (kept : ∀ peer ∈ peers, taken size values round rank peer = round) :
          (∀ peer ∈ peers, peer ∈ heardIn size values round rank) ↔
            ∀ peer ∈ peers.dropLast, (values round peer).length = (values round rank).length := by
        rw [heardIn, all_heard_iff (nodup_peers _)]
        refine forall₂_congr fun peer among => ?_
        rw [answerTo, kept peer (List.dropLast_subset _ among)]
      calc (∀ peer ∈ peers, taken size values (round + 1) rank peer = round + 1)
        _ ↔ (∀ peer ∈ peers, taken size values round rank peer = round) ∧
            ∀ peer ∈ peers, peer ∈ heardIn size values round rank := by
          simp only [onTheWay, forall_and]
        _ ↔ (∀ peer ∈ peers, taken size values round rank peer = round) ∧
            ∀ peer ∈ peers.dropLast, (values round peer).length = (values round rank).length :=
          and_congr_right now
        _ ↔ _ := by
          rw [ih, ← Nat.forall_lt_succ_right]

/-! ## The courses of all rounds -/

/-- The messages of a member in a round, each with its receiver. -/
def outgoing (size : Nat) (values : (round rank : Nat) → List α) (round rank : Nat) :
    List (Nat × List β) :=
  (⟨rank, size, false⟩ : Member).peers.map fun peer => (peer, Code.encodeAll (values round rank))

/-- The messages that a member takes in a round, each with its sender. -/
def incoming (size : Nat) (values : (round rank : Nat) → List α) (round rank : Nat) :
    List (Nat × List β) :=
  (heardIn size values round rank).map fun peer =>
    (peer, Code.encodeAll (answerTo size values round rank peer))

theorem dealtBefore_incoming (rounds rank peer : Nat) :
    dealtBefore (incoming size values) rounds rank peer =
      (List.range (taken size values rounds rank peer)).map fun round =>
        (Code.encodeAll (values round peer) : List β) := by
  induction rounds with
  | zero => rfl
  | succ round ih =>
      rw [dealtBefore_succ, ih, incoming, dealtWith_map heardIn_nodup]
      by_cases among : peer ∈ heardIn size values round rank
      · rw [if_pos among, taken_succ_of_mem among, List.range_succ, List.map_append]
        rfl
      · rw [if_neg among, taken_succ_of_not_mem among, List.append_nil]

theorem dealtBefore_outgoing {rank peer : Nat} (pair : peer < size ∧ peer ≠ rank) (rounds : Nat) :
    dealtBefore (outgoing size values) rounds rank peer =
      (List.range rounds).map fun round => (Code.encodeAll (values round rank) : List β) := by
  have isPeer : peer ∈ (⟨rank, size, false⟩ : Member).peers := mem_peers.mpr pair
  have all : dealtBefore (outgoing (β := β) size values) rounds rank peer = if _ then _ else [] :=
    dealtBefore_map (nodup_peers _) (fun round _ => Code.encodeAll (values round rank))
      (fun _ => rfl) rounds peer
  exact all.trans (if_pos isPeer)

/-- Members that gather values in every round, whatever the lengths. -/
def gatherings [Zero α] (size count : Nat) (values : (round rank : Nat) → List α)
    (wide : 0 < Code.width α) : Agenda β (List (Except Error (List α))) where
  size := size
  count := count
  call := gatherValuesAgain size values
  state := outcomesBefore size values
  outgoing := outgoing size values
  incoming := incoming size values
  follows_call round _ rank inside := by
    have course := (follows_gatherValues (β := β) (m := ⟨rank, size, false⟩) rfl inside wide
      (values round rank) (answerTo size values round rank)).bind_done
        fun outcome => outcomesBefore size values round rank ++ [outcome]
    have next : outcomesBefore size values (round + 1) rank =
        outcomesBefore size values round rank ++ [(⟨rank, size, false⟩ : Member).gatherOutcome
          (values round rank) (answerTo size values round rank)] := by
      simp [outcomesBefore, List.range_succ]
    rw [next]
    exact course
  source_lt round _ rank _ entry among := by
    rcases List.mem_map.mp among with ⟨peer, heard, rfl⟩
    exact (mem_peers_of_mem_heardIn heard).1
  taken_sent round _ source sender destination receiver := by
    rw [dealtBefore_incoming]
    by_cases own : source = destination
    · subst own
      rw [taken_self]
      exact List.nil_prefix
    · rw [dealtBefore_outgoing ⟨receiver, Ne.symm own⟩]
      have cut : List.range (taken size values round destination source) =
          (List.range round).take (taken size values round destination source) := by
        rw [List.take_range, Nat.min_eq_left taken_le]
      rw [cut]
      exact (List.take_prefix _ _).map _

/-! ## What members get -/

section

variable [Zero α] {count : Nat} {wide : 0 < Code.width α}
  {s : Callers β (List (Except Error (List α)))} {unsent untaken : Nat → List (Nat × List β)}
  {outcomes : List (Except Error (List α))}

theorem exists_invariant_of_run (wide : 0 < Code.width α)
    (run : Callers.Run (gatherValuesAgain size values) count (.idle (List.replicate size [])) s) :
    ∃ unsent untaken, (gatherings size count values wide).Invariant s unsent untaken := by
  let A : Agenda β (List (Except Error (List α))) := gatherings size count values wide
  have begins : List.replicate size [] = (List.range A.size).map (A.state 0) := by
    have none : A.state 0 = fun _ => [] := rfl
    have same : A.size = size := rfl
    rw [none, same, List.map_const', List.length_range]
  rw [begins] at run
  exact A.invariant_of_run run

/-- Every gathering that is over has left its outcome. -/
theorem begun_eq_length (inv : (gatherings size count values wide).Invariant s unsent untaken)
    (holds : s.Holds rank outcomes) : s.begun rank = outcomes.length := by
  have gathered : outcomes = outcomesBefore size values (s.begun rank) rank := inv.eq_state holds
  simpa [outcomesBefore] using (congrArg List.length gathered).symm

theorem holds_of_finished (inv : (gatherings size count values wide).Invariant s unsent untaken)
    (finished : s.Finished count rank) : s.Holds rank (outcomesBefore size values count rank) := by
  rcases finished with ⟨all, held, holds⟩
  have gathered : held = outcomesBefore size values (s.begun rank) rank := inv.eq_state holds
  rw [all] at gathered
  exact gathered ▸ holds

/-- What was sent from one member to another and not taken in the end. -/
theorem queue_of_finished
    (inv : (gatherings size count values wide).Invariant s unsent untaken)
    (finished : ∀ rank < size, s.Finished count rank) {source destination : Nat}
    (sender : source < size) (receiver : destination < size) (apart : source ≠ destination) :
    s.world.mailbox.queue ⟨source, destination, gatherTag⟩ =
      ((List.range count).drop (taken size values count destination source)).map fun round =>
        Code.encodeAll (values round source) := by
  have left := inv.queue_of_finished finished sender receiver
  rw [left, List.map_drop]
  show (dealtBefore (outgoing size values) count source destination).drop
    (dealtBefore (incoming size values) count destination source).length = _
  rw [dealtBefore_outgoing ⟨receiver, Ne.symm apart⟩, dealtBefore_incoming, List.length_map,
    List.length_range]

end

/-- A member that left nothing behind gets what belongs to the round. -/
theorem gatherOutcome_of_nothing_left
    (equal : ∀ peer < size, (values round peer).length = (values round rank).length)
    (nothingLeft : ∀ earlier < round, ∀ peer ∈ (⟨rank, size, false⟩ : Member).peers.dropLast,
      (values earlier peer).length = (values earlier rank).length) :
    (⟨rank, size, false⟩ : Member).gatherOutcome (values round rank)
        (answerTo size values round rank) =
      .ok (inRankOrder size (values round)) := by
  have current : ∀ peer ∈ (⟨rank, size, false⟩ : Member).peers,
      answerTo size values round rank peer = values round peer := by
    intro peer among
    rw [answerTo, taken_eq_iff.mpr nothingLeft peer among]
  have fits : ∀ peer ∈ (⟨rank, size, false⟩ : Member).peers,
      (answerTo size values round rank peer).length = (values round rank).length := by
    intro peer among
    rw [current peer among]
    exact equal peer (mem_peers.mp among).1
  rw [gatherOutcome_of_equal fits]
  refine congrArg Except.ok (inRankOrder_congr fun peer below => ?_)
  by_cases own : peer = rank
  · rw [own, Function.update_self]
  · rw [Function.update_of_ne own]
    exact current peer (mem_peers.mpr ⟨below, own⟩)

/-- Members that gather values again and again, with contributions of any length, all come to their
end, whatever order they take their steps in. To a gathering each of them gets the oldest
contribution of each peer that it has not taken. What belongs to a round is what it gets if all
contributions to the round are equally long, and if in every round before all its peers but the last
contributed as much as the member itself: exactly then nothing was left. -/
theorem gathering_after_failures {size count : Nat} {values : (round rank : Nat) → List Binary64}
    {s : Callers UInt8 (List (Except Error (List Binary64)))}
    (run : Callers.Run (gatherValuesAgain size values) count (.idle (List.replicate size [])) s) :
    Callers.Inevitable (gatherValuesAgain size values) count
      (fun s => ∀ rank < size, s.Finished count rank) s ∧
    (∀ rank < size, ∀ outcomes, s.Holds rank outcomes →
      outcomes = outcomesBefore size values (s.begun rank) rank) ∧
    (∀ rank < size, ∀ outcomes, s.Holds rank outcomes → ∀ round < s.begun rank,
      (∀ peer < size, (values round peer).length = (values round rank).length) →
      (∀ earlier < round, ∀ peer ∈ (⟨rank, size, false⟩ : Member).peers.dropLast,
        (values earlier peer).length = (values earlier rank).length) →
      outcomes[round]? = some (.ok (inRankOrder size (values round)))) ∧
    ((∀ rank < size, s.Finished count rank) → ∀ rank < size,
      ((∀ peer < size, peer ≠ rank → s.world.mailbox.queue ⟨peer, rank, gatherTag⟩ = []) ↔
        ∀ round < count, ∀ peer ∈ (⟨rank, size, false⟩ : Member).peers.dropLast,
          (values round peer).length = (values round rank).length)) := by
  have wide : 0 < Code.width Binary64 := by decide
  rcases exists_invariant_of_run wide run with ⟨unsent, untaken, inv⟩
  refine ⟨inv.inevitable, ?_, ?_, ?_⟩
  · intro rank _ outcomes holds
    exact inv.eq_state holds
  · intro rank _ outcomes holds round early equal nothingLeft
    have gathered : outcomes = outcomesBefore size values (s.begun rank) rank := inv.eq_state holds
    rw [gathered, outcomesBefore, List.getElem?_map, List.getElem?_range early, Option.map_some,
      gatherOutcome_of_nothing_left equal nothingLeft]
  · intro finished rank inside
    have nothing : ∀ peer < size, peer ≠ rank →
        (s.world.mailbox.queue ⟨peer, rank, gatherTag⟩ = [] ↔
          taken size values count rank peer = count) := by
      intro peer below different
      have bound : taken size values count rank peer ≤ count := taken_le
      rw [queue_of_finished inv finished below inside different, List.map_eq_nil_iff,
        List.drop_eq_nil_iff, List.length_range]
      omega
    rw [← taken_eq_iff]
    simp only [mem_peers, and_imp]
    exact forall₃_congr nothing

/-- Of three ranks the last contributes more than the others to round 0 and leaves the message of
rank 1 behind. In round 1 it gets that message, while rank 0 gets what belongs to the round. -/
theorem gathering_after_failures_three_ranks :
    let table : List (List (List Binary64)) :=
      [[[⟨1⟩], [⟨2⟩], [⟨3⟩, ⟨3⟩]], [[⟨10⟩], [⟨20⟩], [⟨30⟩]]]
    let values (round rank : Nat) := (table.getD round []).getD rank []
    ∃ s, Callers.Run (gatherValuesAgain 3 values) 2 (.idle (List.replicate 3 [])) s ∧
      (∃ outcomes, s.Holds 0 outcomes ∧ outcomes[1]? = some (.ok [⟨10⟩, ⟨20⟩, ⟨30⟩])) ∧
      s.Holds 2 [.error (.communication (.unequal 0 8 16)), .ok [⟨10⟩, ⟨2⟩, ⟨30⟩]] ∧
      ¬ ∀ peer < 3, peer ≠ 2 → s.world.mailbox.queue ⟨peer, 2, gatherTag⟩ = [] := by
  intro table values
  let moves : List (Callers.Move UInt8) :=
    [.call 0, .call 1, .call 2, .deal 0, .deal 0, .deal 1, .deal 1, .deal 2, .deal 2,
      .deal 0, .deal 0, .deal 1, .deal 1, .deal 2,
      .call 0, .call 1, .call 2, .deal 0, .deal 0, .deal 1, .deal 1, .deal 2, .deal 2,
      .deal 0, .deal 0, .deal 1, .deal 1, .deal 2, .deal 2]
  have ends : (Callers.play (gatherValuesAgain 3 values) 2 moves
      (.idle (List.replicate 3 []))).any (Callers.allFinished 2 3) = true := by
    decide +kernel
  rcases Callers.Run.exists_finished ends with ⟨s, run, finished⟩
  rcases gathering_after_failures run with ⟨_, returned, current, left⟩
  refine ⟨s, run, ?_, ?_, ?_⟩
  · rcases finished 0 (by decide) with ⟨begun, outcomes, holds⟩
    have early : 1 < s.begun 0 := by
      rw [begun]
      decide
    exact ⟨outcomes, holds, current 0 (by decide) outcomes holds 1 early (by decide) (by decide)⟩
  · rcases finished 2 (by decide) with ⟨begun, outcomes, holds⟩
    have all : outcomes = outcomesBefore 3 values (s.begun 2) 2 :=
      returned 2 (by decide) outcomes holds
    have computed : outcomesBefore 3 values 2 2 =
        [.error (.communication (.unequal 0 8 16)), .ok [⟨10⟩, ⟨2⟩, ⟨30⟩]] := rfl
    rw [all, begun, computed] at holds
    exact holds
  · rw [left finished 2 (by decide)]
    decide

/-- Rounds are not kept apart: after a round in which rank 1 alone contributes more, rank 0 takes
what rank 2 contributed to that round for its contribution to the next. -/
theorem not_every_equal_round_is_isolated :
    ¬ ∀ (size count : Nat) (values : (round rank : Nat) → List Binary64)
      (s : Callers UInt8 (List (Except Error (List Binary64)))),
      Callers.Run (gatherValuesAgain size values) count (.idle (List.replicate size [])) s →
      ∀ rank < size, ∀ outcomes, s.Holds rank outcomes → ∀ round < s.begun rank,
        (∀ p < size, ∀ q < size, (values round p).length = (values round q).length) →
        outcomes[round]? = some (.ok (inRankOrder size (values round))) := by
  intro isolated
  let table : List (List (List Binary64)) :=
    [[[⟨1⟩], [⟨2⟩, ⟨2⟩], [⟨3⟩]], [[⟨10⟩], [⟨20⟩], [⟨30⟩]]]
  let values (round rank : Nat) := (table.getD round []).getD rank []
  let moves : List (Callers.Move UInt8) :=
    [.call 0, .call 1, .call 2, .deal 0, .deal 0, .deal 1, .deal 1, .deal 2, .deal 2,
      .deal 0, .deal 1, .deal 2, .deal 2,
      .call 0, .call 1, .call 2, .deal 0, .deal 0, .deal 1, .deal 1, .deal 2, .deal 2,
      .deal 0, .deal 0, .deal 1, .deal 1, .deal 2, .deal 2]
  have ends : (Callers.play (gatherValuesAgain 3 values) 2 moves
      (.idle (List.replicate 3 []))).any (Callers.allFinished 2 3) = true := by
    decide +kernel
  have wide : 0 < Code.width Binary64 := by decide
  rcases Callers.Run.exists_finished ends with ⟨s, run, finished⟩
  rcases exists_invariant_of_run wide run with ⟨_, _, inv⟩
  have holds : s.Holds 0 (outcomesBefore 3 values 2 0) :=
    holds_of_finished inv (finished 0 (by decide))
  have early : 1 < s.begun 0 := by
    rw [begun_eq_length inv holds]
    decide
  have claimed := isolated 3 2 values s run 0 (by decide) _ holds 1 early (by decide)
  have actual : (outcomesBefore 3 values 2 0)[1]? = some (.ok [⟨10⟩, ⟨20⟩, ⟨3⟩]) := rfl
  have clash : [(⟨10⟩ : Binary64), ⟨20⟩, ⟨3⟩] = inRankOrder 3 (values 1) :=
    Except.ok.inj (Option.some.inj (actual.symm.trans claimed))
  exact absurd clash (by decide)

/-- If every member of a group gathers values once, all gatherings come to an end, and either all of
them succeed or none does. Each that fails names the first peer with a contribution of another
length. -/
theorem gathering_is_unanimous {size : Nat} {values : Nat → List Binary64}
    {s : Callers UInt8 (List (Except Error (List Binary64)))}
    (run : Callers.Run (gatherValuesAgain size fun _ => values) 1
      (.idle (List.replicate size [])) s) :
    Callers.Inevitable (gatherValuesAgain size fun _ => values) 1
      (fun s => ∀ rank < size, s.Finished 1 rank) s ∧
    (∀ rank < size, s.Finished 1 rank →
      (∀ p < size, ∀ q < size, (values p).length = (values q).length) →
      s.Holds rank [.ok (inRankOrder size values)]) ∧
    (∀ rank < size, s.Finished 1 rank →
      (∃ p < size, ∃ q < size, (values p).length ≠ (values q).length) →
      ∃ peer < size, peer ≠ rank ∧ (values peer).length ≠ (values rank).length ∧
        (∀ other < peer, other ≠ rank → (values other).length = (values rank).length) ∧
        let got := (values peer).length * 8
        let expected := (values rank).length * 8
        ∃ fault, s.Holds rank [.error (.communication fault)] ∧
          (Error.communication fault).message =
            s!"Communication error: rank {peer} contributed {got} bytes, expected {expected}") ∧
    ∀ p < size, ∀ q < size, ∀ result error,
      ¬ (s.Holds p [.ok result] ∧ s.Holds q [.error error]) := by
  have wide : 0 < Code.width Binary64 := by decide
  rcases exists_invariant_of_run wide run with ⟨unsent, untaken, inv⟩
  -- In the first round every peer answers with its contribution to that round.
  let outcome (rank : Nat) : Except Error (List Binary64) :=
    (⟨rank, size, false⟩ : Member).gatherOutcome (values rank) values
  have returned : ∀ rank, s.Finished 1 rank → s.Holds rank [outcome rank] :=
    fun rank finished => holds_of_finished inv finished
  have only : ∀ rank verdict, s.Holds rank [verdict] → verdict = outcome rank := by
    intro rank verdict holds
    have once : s.begun rank = 1 := begun_eq_length inv holds
    have gathered : [verdict] = outcomesBefore size (fun _ => values) (s.begun rank) rank :=
      inv.eq_state holds
    rw [once] at gathered
    exact List.singleton_inj.mp gathered
  have succeeds (equal : ∀ p < size, ∀ q < size, (values p).length = (values q).length) :
      ∀ rank < size, outcome rank = .ok (inRankOrder size values) := by
    intro rank inside
    have fits : ∀ peer ∈ (⟨rank, size, false⟩ : Member).peers,
        (values peer).length = (values rank).length :=
      fun peer among => equal peer (mem_peers.mp among).1 rank inside
    exact (gatherOutcome_of_equal fits).trans (by rw [Function.update_eq_self])
  have fails (unequal : ∃ p < size, ∃ q < size, (values p).length ≠ (values q).length)
      (rank : Nat) : ∃ peer < size, peer ≠ rank ∧ (values peer).length ≠ (values rank).length ∧
        (∀ other < peer, other ≠ rank → (values other).length = (values rank).length) ∧
        outcome rank = .error (.communication (.unequal peer ((values peer).length * 8)
          ((values rank).length * 8))) :=
    exists_gatherOutcome_of_unequal (exists_peer_of_unequal unequal)
  refine ⟨inv.inevitable, ?_, ?_, ?_⟩
  · intro rank inside finished equal
    rw [← succeeds equal rank inside]
    exact returned rank finished
  · intro rank _ finished unequal
    rcases fails unequal rank with ⟨peer, below, different, differs, before, failed⟩
    have holds := returned rank finished
    rw [failed] at holds
    exact ⟨peer, below, different, differs, before, _, holds, message_unequal _ _ _⟩
  · rintro p _ q qInside result error ⟨succeeded, failed⟩
    by_cases equal : ∀ p < size, ∀ q < size, (values p).length = (values q).length
    · have verdict := (only q _ failed).trans (succeeds equal q qInside)
      cases verdict
    · have unequal : ∃ p < size, ∃ q < size, (values p).length ≠ (values q).length := by
        simpa using equal
      rcases fails unequal p with ⟨_, _, _, _, _, verdict⟩
      have clash := (only p _ succeeded).trans verdict
      cases clash

/-- The two ranks with one value each name the rank that has two, which itself names the first. -/
theorem gathering_is_unanimous_three_ranks :
    let values (rank : Nat) : List Binary64 := List.replicate (if rank = 1 then 2 else 1) ⟨7⟩
    ∃ s, Callers.Run (gatherValuesAgain 3 fun _ => values) 1 (.idle (List.replicate 3 [])) s ∧
      ∀ rank < 3, ∃ fault, s.Holds rank [.error (.communication fault)] ∧
        (Error.communication fault).message =
          if rank = 1 then "Communication error: rank 0 contributed 8 bytes, expected 16"
          else "Communication error: rank 1 contributed 16 bytes, expected 8" := by
  intro values
  let moves : List (Callers.Move UInt8) :=
    [.call 2, .deal 2, .deal 2, .call 0, .deal 0, .deal 0, .call 1, .deal 2, .deal 1, .deal 1,
      .deal 2, .deal 1, .deal 0]
  have ends : (Callers.play (gatherValuesAgain 3 fun _ => values) 1 moves
      (.idle (List.replicate 3 []))).any (Callers.allFinished 1 3) = true := by
    decide +kernel
  rcases Callers.Run.exists_finished ends with ⟨s, run, finished⟩
  rcases gathering_is_unanimous run with ⟨_, _, failed, _⟩
  refine ⟨s, run, fun rank inside => ?_⟩
  rcases failed rank inside (finished rank inside) ⟨0, by decide, 1, by decide, by decide⟩ with
    ⟨peer, below, different, differs, before, fault, holds, text⟩
  have first : peer = if rank = 1 then 0 else 1 := by
    by_cases middle : rank = 1
    · -- Rank 0 differs from it already.
      have zero : ¬ 0 < peer := fun later =>
        absurd (before 0 later (by omega)) (by simp [values, middle])
      simp [middle]
      omega
    · by_contra other
      rw [if_neg middle] at other
      simp [values, middle, other] at differs
  refine ⟨fault, holds, text.trans ?_⟩
  by_cases middle : rank = 1
  · simp only [first, middle, values, List.length_replicate, if_true]
    rfl
  · simp only [first, middle, values, List.length_replicate, if_true, if_false]
    rfl

end Member
end FormAssembly
