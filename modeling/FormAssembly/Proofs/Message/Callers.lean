import Mathlib.Logic.Function.Basic
import FormAssembly.Message.World

/-!
# Members that call again and again

A `World` follows its processes through one exchange each. The members of a group at work make
one call after another, and nothing keeps them in step: a member that is done with a call begins
the next while others are still in an earlier one. `Callers.Step` is one dealing of one member or
the beginning of one call; `Callers.Run` leaves the order of these steps open and lets messages
come and go on all tags but that of gatherings.

## What one dealing can be

`World.step_cases` says everything that a step of a world can do, and `World.exists_step_of_send`
and `World.exists_step_of_receive` when there is one.
-/

namespace FormAssembly

namespace World

variable {β α : Type} {w after : World β α} {rank peer tag : Nat}

theorem step_cases (moved : w.step? rank = some after) :
    (∃ peer tag message next,
      w.processes[rank]? = some (.send peer tag message next) ∧
      after = ⟨w.mailbox.post ⟨rank, peer, tag⟩ message, w.processes.set rank next⟩) ∨
    (∃ peer tag next message rest,
      w.processes[rank]? = some (.receive peer tag next) ∧
      w.mailbox.take? ⟨peer, rank, tag⟩ = some (message, rest) ∧
      after = ⟨rest, w.processes.set rank (next (some message))⟩) := by
  unfold step? at moved
  split at moved
  · cases moved
  · cases moved
  next peer tag message next there =>
    cases moved
    exact Or.inl ⟨peer, tag, message, next, there, rfl⟩
  next peer tag next there =>
    rcases Option.map_eq_some_iff.mp moved with ⟨⟨message, rest⟩, taken, rfl⟩
    exact Or.inr ⟨peer, tag, next, message, rest, there, taken, rfl⟩

theorem exists_step_of_send {message : List β} {next : Exchange β α}
    (there : w.processes[rank]? = some (.send peer tag message next)) :
    ∃ after, w.step? rank = some after := by
  simp [step?, there]

theorem exists_step_of_receive {next : Option (List β) → Exchange β α}
    (there : w.processes[rank]? = some (.receive peer tag next))
    (waiting : w.mailbox.queue ⟨peer, rank, tag⟩ ≠ []) : ∃ after, w.step? rank = some after := by
  cases taken : w.mailbox.take? ⟨peer, rank, tag⟩ with
  | none => exact absurd (Mailbox.take?_eq_none_iff.mp taken) waiting
  | some found =>
      exact ⟨⟨found.2, w.processes.set rank (next (some found.1))⟩, by simp [step?, there, taken]⟩

end World

/-! ## Calls one after another -/

/-- The members of a group at work. -/
structure Callers (β α : Type) where
  /-- For each member the call it is in. A call that is done stands for what the member holds. -/
  world : World β α
  /-- Number of calls that each member has begun. -/
  begun : Nat → Nat

namespace Callers

variable {β α : Type}

/-- Members that hold something each and have not begun a call. -/
def idle (held : List α) : Callers β α :=
  ⟨.start (held.map .done), fun _ => 0⟩

/-- What a member holds, if it is not in a call. -/
def Holds (s : Callers β α) (rank : Nat) (held : α) : Prop :=
  s.world.processes[rank]? = some (.done held)

/-- A member is done with all of its calls. -/
def Finished (count : Nat) (s : Callers β α) (rank : Nat) : Prop :=
  s.begun rank = count ∧ ∃ held, s.Holds rank held

/-- A member that holds `held` enters its call of round `round` with `call round rank held`, and
makes `count` calls in all. -/
inductive Step (call : (round rank : Nat) → α → Exchange β α) (count : Nat) :
    Callers β α → Callers β α → Prop
  /-- A member sends a message or takes one. -/
  | deal {s : Callers β α} {rank : Nat} {after : World β α} :
      s.world.step? rank = some after → Step call count s ⟨after, s.begun⟩
  /-- A member begins its next call. -/
  | call {s : Callers β α} {rank : Nat} {held : α} :
      s.Holds rank held → s.begun rank < count →
      Step call count s
        ⟨⟨s.world.mailbox, s.world.processes.set rank (call (s.begun rank) rank held)⟩,
          Function.update s.begun rank (s.begun rank + 1)⟩

/-- A message under a tag other than that of gatherings is posted or taken, by whoever holds a
handle of the group. -/
inductive Aside : Callers β α → Callers β α → Prop
  | post {s : Callers β α} {route : Route} {message : List β} : route.tag ≠ Member.gatherTag →
      Aside s ⟨⟨s.world.mailbox.post route message, s.world.processes⟩, s.begun⟩
  | take {s : Callers β α} {route : Route} {message : List β} {rest : Mailbox β} :
      route.tag ≠ Member.gatherTag → s.world.mailbox.take? route = some (message, rest) →
      Aside s ⟨⟨rest, s.world.processes⟩, s.begun⟩

/-- Any order of steps, with other traffic between them. -/
inductive Run (call : (round rank : Nat) → α → Exchange β α) (count : Nat) (start : Callers β α) :
    Callers β α → Prop
  | start : Run call count start start
  | step {s after : Callers β α} :
      Run call count start s → Step call count s after → Run call count start after
  | aside {s after : Callers β α} :
      Run call count start s → Aside s after → Run call count start after

theorem exists_holds_of_results {s : Callers β α} {rank : Nat}
    (there : s.world.results[rank]?.join.isSome = true) : ∃ held, s.Holds rank held := by
  rcases Option.isSome_iff_exists.mp there with ⟨held, found⟩
  -- Only a process that is done has a result.
  rw [Option.join_eq_some_iff, World.results, List.getElem?_map] at found
  rcases Option.map_eq_some_iff.mp found with ⟨e, process, result⟩
  cases e with
  | done held => exact ⟨held, process⟩
  | send _ _ _ _ => cases result
  | receive _ _ _ => cases result

theorem Aside.world_processes {s after : Callers β α} (aside : Aside s after) :
    after.world.processes = s.world.processes := by
  cases aside <;> rfl

theorem Aside.begun_eq {s after : Callers β α} (aside : Aside s after) :
    after.begun = s.begun := by
  cases aside <;> rfl

/-- Other traffic leaves the queues of gatherings alone. -/
theorem Aside.queue_eq {s after : Callers β α} (aside : Aside s after) {route : Route}
    (gathering : route.tag = Member.gatherTag) :
    after.world.mailbox.queue route = s.world.mailbox.queue route := by
  cases aside with
  | @post other message different =>
      have apart : ¬ other = route := fun same => different (same ▸ gathering)
      simp [Mailbox.queue_post, apart]
  | @take other message rest different taken =>
      have apart : route ≠ other := fun same => different (same ▸ gathering)
      exact (Mailbox.queue_of_take? taken).2 route apart

/-! ## Playing a schedule -/

/-- What happens next. -/
inductive Move (β : Type) where
  | deal (rank : Nat)
  | call (rank : Nat)
  | post (route : Route) (message : List β)
  | take (route : Route)

/-- The state after a move, if the move can be made. -/
def move? (call : (round rank : Nat) → α → Exchange β α) (count : Nat) (s : Callers β α) :
    Move β → Option (Callers β α)
  | .deal rank => (s.world.step? rank).map fun after => ⟨after, s.begun⟩
  | .call rank =>
      match s.world.processes[rank]? with
      | some (.done held) =>
          if s.begun rank < count then
            some ⟨⟨s.world.mailbox, s.world.processes.set rank (call (s.begun rank) rank held)⟩,
              Function.update s.begun rank (s.begun rank + 1)⟩
          else
            none
      | _ => none
  -- The tag of gatherings is for the members only.
  | .post route message =>
      if route.tag = Member.gatherTag then none
      else some ⟨⟨s.world.mailbox.post route message, s.world.processes⟩, s.begun⟩
  | .take route =>
      if route.tag = Member.gatherTag then none
      else (s.world.mailbox.take? route).map fun (_, rest) => ⟨⟨rest, s.world.processes⟩, s.begun⟩

/-- The state after a list of moves, if all of them can be made. -/
def play (call : (round rank : Nat) → α → Exchange β α) (count : Nat) :
    List (Move β) → Callers β α → Option (Callers β α)
  | [], s => some s
  | move :: later, s => (move? call count s move).bind (play call count later)

variable {call : (round rank : Nat) → α → Exchange β α} {count : Nat}

theorem Run.move {start s after : Callers β α} (run : Run call count start s) {move : Move β}
    (made : move? call count s move = some after) : Run call count start after := by
  cases move with
  | deal rank =>
      rcases Option.map_eq_some_iff.mp made with ⟨_, moved, rfl⟩
      exact run.step (.deal moved)
  | call rank =>
      simp only [move?] at made
      split at made
      next held there =>
        split at made
        next early =>
          cases made
          exact run.step (.call there early)
        · cases made
      · cases made
  | post route message =>
      simp only [move?] at made
      split at made
      · cases made
      next other =>
        cases made
        exact run.aside (.post other)
  | take route =>
      simp only [move?] at made
      split at made
      · cases made
      next other =>
        rcases Option.map_eq_some_iff.mp made with ⟨⟨_, rest⟩, taken, rfl⟩
        exact run.aside (.take other taken)

/-- What a schedule leads to is reached by a run. -/
theorem Run.play {start s after : Callers β α} {moves : List (Move β)}
    (run : Run call count start s) (played : play call count moves s = some after) :
    Run call count start after := by
  -- By induction on the schedule: each move is a step of the run or happens aside.
  induction moves generalizing s with
  | nil =>
      cases played
      exact run
  | cons move later ih =>
      rcases Option.bind_eq_some_iff.mp played with ⟨middle, made, onward⟩
      exact ih (run.move made) onward

/-- Whether the members of a group of `size` are done with all of their calls. -/
def allFinished (count size : Nat) (s : Callers β α) : Bool :=
  (List.range size).all fun rank =>
    s.begun rank = count && s.world.results[rank]?.join.isSome

/-- A schedule after which all members are done is a run to such a state. -/
theorem Run.exists_finished {start : Callers β α} {moves : List (Move β)} {size : Nat}
    (ends : (Callers.play call count moves start).any (allFinished count size) = true) :
    ∃ s, Run call count start s ∧ ∀ rank < size, s.Finished count rank := by
  rcases (Option.any_eq_true _ _).mp ends with ⟨s, played, all⟩
  refine ⟨s, Run.start.play played, ?_⟩
  intro rank inside
  have done := List.all_eq_true.mp all rank (List.mem_range.mpr inside)
  rw [Bool.and_eq_true, decide_eq_true_eq] at done
  exact ⟨done.1, exists_holds_of_results done.2⟩

end Callers
end FormAssembly
