import FormAssembly.Message.Mailbox
import FormAssembly.Message.Member

/-!
# Groups of processes

The processes of a group run side by side and share a mailbox. `World.step?` is one dealing of one
process; which process moves next is left open, and `World.Step` allows every choice.
`World.settle` lets processes move until none can: it comes to an end whatever the processes do, and
at its end no step is left (`World.step?_settle`).

A `Group` is the same from the outside: its members are driven one call at a time.
-/

namespace FormAssembly

/-- Processes by rank, each with what it still has to do, and their mailbox. -/
structure World (β α : Type) where
  mailbox : Mailbox β
  processes : List (Exchange β α)

namespace World

variable {β α : Type}

/-- Processes that have not begun. -/
def start (processes : List (Exchange β α)) : World β α :=
  ⟨.empty, processes⟩

/-! ## Steps -/

/-- The next dealing of a process, unless it is done or waits for a message that is not there. -/
def step? (w : World β α) (rank : Nat) : Option (World β α) :=
  match w.processes[rank]? with
  | none | some (.done _) => none
  | some (.send peer tag message next) =>
      some ⟨w.mailbox.post ⟨rank, peer, tag⟩ message, w.processes.set rank next⟩
  | some (.receive peer tag next) =>
      (w.mailbox.take? ⟨peer, rank, tag⟩).map fun (message, rest) =>
        ⟨rest, w.processes.set rank (next (some message))⟩

/-- Some process moves. -/
def Step (before after : World β α) : Prop :=
  ∃ rank, before.step? rank = some after

/-- What has been reached from `before` after any number of steps. -/
inductive Reaches (before : World β α) : World β α → Prop
  | refl : Reaches before before
  | tail {middle after : World β α} : Reaches before middle → Step middle after →
      Reaches before after

/-- The results of the processes that are done. -/
def results (w : World β α) : List (Option α) :=
  w.processes.map fun
    | .done result => some result
    | _ => none

/-! ## Running to the end -/

/-- One process of a list has moved on. -/
inductive Advances : List (Exchange β α) → List (Exchange β α) → Prop
  | head {rest e : Exchange β α} {others : List (Exchange β α)} :
      Exchange.Continues rest e → Advances (rest :: others) (e :: others)
  | tail {e : Exchange β α} {after before : List (Exchange β α)} :
      Advances after before → Advances (e :: after) (e :: before)

theorem acc_advances_cons {e : Exchange β α} {others : List (Exchange β α)}
    (first : Acc Exchange.Continues e) (later : Acc Advances others) :
    Acc Advances (e :: others) := by
  induction first generalizing others with
  | intro e _ ihFirst =>
      induction later with
      | intro others accOthers ihLater =>
          refine ⟨_, fun after h => ?_⟩
          cases h with
          | head moved => exact ihFirst _ moved ⟨_, accOthers⟩
          | tail moved => exact ihLater _ moved

theorem wellFounded_advances : WellFounded (@Advances β α) := by
  refine ⟨fun processes => ?_⟩
  induction processes with
  | nil => exact ⟨_, fun _ h => nomatch h⟩
  | cons e _ ih => exact acc_advances_cons e.acc_continues ih

theorem advances_set {processes : List (Exchange β α)} {rank : Nat} {e rest : Exchange β α}
    (there : processes[rank]? = some e) (moved : Exchange.Continues rest e) :
    Advances (processes.set rank rest) processes := by
  induction processes generalizing rank with
  | nil => simp at there
  | cons first others ih =>
      cases rank with
      | zero =>
          obtain rfl : first = e := by simpa using there
          exact .head moved
      | succ rank => exact .tail (ih (by simpa using there))

theorem advances_of_step? {before after : World β α} {rank : Nat}
    (moved : before.step? rank = some after) : Advances after.processes before.processes := by
  unfold step? at moved
  split at moved
  · cases moved
  · cases moved
  next peer tag message next there =>
    cases moved
    exact advances_set there (.send ..)
  next peer tag next there =>
    obtain ⟨⟨message, rest⟩, _, rfl⟩ := Option.map_eq_some_iff.mp moved
    exact advances_set there (.receive ..)

/-- A step of the first process that can move, with its rank. Ranks from `first` on are tried before
those below. -/
def next? (w : World β α) (first : Nat) : Option (Nat × World β α) :=
  (List.range' first (w.processes.length - first) ++ List.range first).findSome? fun rank =>
    (w.step? rank).map fun after => (rank, after)

theorem step?_of_next? {before after : World β α} {first rank : Nat}
    (moved : before.next? first = some (rank, after)) : before.step? rank = some after := by
  obtain ⟨tried, _, h⟩ := List.exists_of_findSome?_eq_some moved
  obtain ⟨_, stepped, same⟩ := Option.map_eq_some_iff.mp h
  cases same
  exact stepped

theorem next?_eq_none_iff {w : World β α} {first : Nat} :
    w.next? first = none ↔ ∀ rank, w.step? rank = none := by
  constructor
  · intro stuck rank
    by_cases there : rank < w.processes.length
    · have tried : rank ∈ List.range' first (w.processes.length - first) ++ List.range first := by
        simp only [List.mem_append, List.mem_range'_1, List.mem_range]
        omega
      simpa using List.findSome?_eq_none_iff.mp stuck rank tried
    · simp [step?, List.getElem?_eq_none (Nat.not_lt.mp there)]
  · intro stuck
    exact List.findSome?_eq_none_iff.mpr fun rank _ => by simp [stuck rank]

instance : WellFoundedRelation (World β α) :=
  ⟨fun after before => Advances after.processes before.processes,
   InvImage.wf World.processes wellFounded_advances⟩

/-- Lets processes move until none can, each as far as it gets before the next has its turn;
`first` has the first turn. -/
def settleFrom (w : World β α) (first : Nat) : World β α :=
  match _found : w.next? first with
  | none => w
  | some (rank, after) => after.settleFrom rank
termination_by w
decreasing_by exact advances_of_step? (step?_of_next? _found)

/-- Lets processes move until none can. -/
def settle (w : World β α) : World β α :=
  w.settleFrom 0

theorem step?_settleFrom (w : World β α) (first rank : Nat) :
    (w.settleFrom first).step? rank = none := by
  fun_induction settleFrom w first with
  | case1 w first stuck => exact next?_eq_none_iff.mp stuck rank
  | case2 w first moved after found ih => exact ih

/-- At the end no process can move. -/
theorem step?_settle (w : World β α) (rank : Nat) : w.settle.step? rank = none :=
  w.step?_settleFrom 0 rank

end World

/-! ## Driving members one call at a time -/

namespace Exchange

variable {β α : Type}

/-- Runs an exchange of the process of rank `rank` until it is done or has to wait. -/
def advance (rank : Nat) : Exchange β α → Mailbox β → Exchange β α × Mailbox β
  | done result, box => (done result, box)
  | send peer tag message next, box => next.advance rank (box.post ⟨rank, peer, tag⟩ message)
  | receive peer tag next, box =>
      match box.take? ⟨peer, rank, tag⟩ with
      | some (message, rest) => (next (some message)).advance rank rest
      | none => (receive peer tag next, box)

end Exchange

/-- The members of a group, clones included, and their mailbox. -/
structure Group (β : Type) where
  members : List Member
  mailbox : Mailbox β

namespace Group

variable {β α : Type}

/-- A group of processes that have not dealt with each other. -/
def ofSize (size : Nat) : Group β :=
  ⟨Member.group size, .empty⟩

/-- Adds a second handle on the process behind a handle, at the end. -/
def clone (g : Group β) (m : Member) : Group β :=
  { g with members := g.members ++ [m] }

/-- Runs an exchange of a member until it is done or has to wait. -/
def run (g : Group β) (m : Member) (e : Exchange β α) : Exchange β α × Group β :=
  let (rest, mailbox) := e.advance m.rank g.mailbox
  (rest, { g with mailbox })

end Group
end FormAssembly
