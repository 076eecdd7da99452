import FormAssembly.Proofs.Message.Lockstep

/-!
# Gathering round after round

Members that gather in one round after another need no barrier between the rounds. Each gathering
returns the contributions to its own round, however far its peers have run ahead; the members never
block each other for good; and no message is left when all are done (`repeated_gathering`).
-/

namespace FormAssembly
namespace Member

variable {β : Type}

/-- What gatherings have returned, oldest first. -/
abbrev Outcomes (β : Type) :=
  List (Except Error Unit × List β)

/-- The call of a member that gathers in every round and keeps all outcomes. -/
def gatherAgain (size : Nat) (contribution buffer : (round rank : Nat) → List β)
    (round rank : Nat) (outcomes : Outcomes β) : Exchange β (Outcomes β) := do
  let outcome ← (⟨rank, size, false⟩ : Member).gather (contribution round rank) (buffer round rank)
  return outcomes ++ [outcome]

/-- What the gatherings of the first `rounds` rounds are to return. -/
def gathered (size : Nat) (contribution : (round rank : Nat) → List β) (rounds : Nat) :
    Outcomes β :=
  (List.range rounds).map fun round => (.ok (), inRankOrder size (contribution round))

/-- Members that gather in every round keep step. -/
def gatherRounds (size count : Nat) (contribution buffer : (round rank : Nat) → List β)
    (width : Nat → Nat)
    (equal : ∀ round < count, ∀ rank < size, (contribution round rank).length = width round)
    (room : ∀ round < count, ∀ rank < size,
      (buffer round rank).length = size * width round) : Lockstep β (Outcomes β) where
  size := size
  count := count
  call := gatherAgain size contribution buffer
  state round _ := gathered size contribution round
  width := width
  contribution := contribution
  buffer := buffer
  conclude round _ outcome := gathered size contribution round ++ [outcome]
  length_contribution := equal
  length_buffer := room
  call_state _ _ _ _ := rfl
  conclude_gathered round _ _ _ := by
    simp [gathered, List.range_succ]

/-- Contributions may be of another length in each round, messages of other tags may come and go,
and the members take their steps in any order. -/
theorem repeated_gathering {size count : Nat} {contribution buffer : (round rank : Nat) → List β}
    {width : Nat → Nat}
    (equal : ∀ round < count, ∀ rank < size, (contribution round rank).length = width round)
    (room : ∀ round < count, ∀ rank < size, (buffer round rank).length = size * width round)
    {s : Callers β (Outcomes β)}
    (run : Callers.Run (gatherAgain size contribution buffer) count
      (.idle (List.replicate size [])) s) :
    (∀ rank < size, ∀ outcomes, s.Holds rank outcomes → outcomes =
      (List.range (s.begun rank)).map fun round =>
        (.ok (), inRankOrder size (contribution round))) ∧
    ((∃ rank < size, ¬ s.Finished count rank) →
      ∃ after, Callers.Step (gatherAgain size contribution buffer) count s after) ∧
    ((∀ rank < size, s.Finished count rank) → ∀ source destination,
      s.world.mailbox.queue ⟨source, destination, gatherTag⟩ = []) := by
  let L : Lockstep β (Outcomes β) :=
    gatherRounds size count contribution buffer width equal room
  -- All members begin without outcomes, which is their state before round 0.
  have begins : List.replicate size ([] : Outcomes β) = (List.range L.size).map (L.state 0) := by
    have none : L.state 0 = fun _ => [] := rfl
    simp only [none, List.map_const', List.length_range]
    rfl
  rw [begins] at run
  rcases L.invariant_of_run run with ⟨unsent, unread, inv⟩
  refine ⟨?_, inv.exists_step, inv.queue_of_finished⟩
  intro rank _ outcomes holds
  exact inv.eq_state holds

/-- Of two ranks the first is in round 1 before the second has read anything of round 0, while a
message of another tag lies between them. From there on both come to their end. -/
theorem repeated_gathering_two_ranks :
    let contribution (round rank : Nat) := List.replicate (round + 1) (10 * round + rank)
    let buffer (round _rank : Nat) := List.replicate (2 * (round + 1)) 0
    let Reached := Callers.Run (gatherAgain 2 contribution buffer) 2 (.idle (List.replicate 2 []))
    (∃ s, Reached s ∧ s.begun 0 = 2 ∧ s.begun 1 = 1 ∧
      ∃ after, Callers.Step (gatherAgain 2 contribution buffer) 2 s after) ∧
    (∃ s, Reached s ∧ s.Holds 1 [(.ok (), [0, 1]), (.ok (), [10, 10, 11, 11])] ∧
      s.world.mailbox.queue ⟨0, 1, gatherTag⟩ = []) := by
  intro contribution buffer Reached
  have equal : ∀ round < 2, ∀ rank < 2, (contribution round rank).length = round + 1 := by decide
  have room : ∀ round < 2, ∀ rank < 2, (buffer round rank).length = 2 * (round + 1) := by decide
  let ahead : List (Callers.Move Nat) :=
    [.call 0, .deal 0, .post ⟨0, 1, 7⟩ [5], .call 1, .deal 1, .deal 0, .call 0, .deal 0]
  let onward : List (Callers.Move Nat) := [.deal 1, .call 1, .deal 1, .deal 1, .deal 0]
  let played (moves : List (Callers.Move Nat)) :=
    Callers.play (gatherAgain 2 contribution buffer) 2 moves (.idle (List.replicate 2 []))
  constructor
  · -- The first member has begun both rounds, the second has sent to round 0 and read nothing.
    have apart : (played ahead).map (fun s => (s.begun 0, s.begun 1)) = some (2, 1) := by
      decide +kernel
    rcases Option.map_eq_some_iff.mp apart with ⟨s, reached, observed⟩
    simp only [Prod.mk.injEq] at observed
    have run : Reached s := Callers.Run.start.play reached
    refine ⟨s, run, observed.1, observed.2, ?_⟩
    refine (repeated_gathering equal room run).2.1 ⟨1, by decide, fun finished => ?_⟩
    exact absurd (finished.1.symm.trans observed.2) (by decide)
  · have together : (played (ahead ++ onward)).any (Callers.allFinished 2 2) = true := by
      decide +kernel
    rcases Callers.Run.exists_finished together with ⟨s, run, finished⟩
    rcases repeated_gathering equal room run with ⟨returned, _, nothingLeft⟩
    rcases finished 1 (by decide) with ⟨begun, held, holds⟩
    have outcomes : held = [(.ok (), [0, 1]), (.ok (), [10, 10, 11, 11])] := by
      rw [returned 1 (by decide) held holds, begun]
      rfl
    exact ⟨s, run, outcomes ▸ holds, nothingLeft finished 0 1⟩

end Member
end FormAssembly
