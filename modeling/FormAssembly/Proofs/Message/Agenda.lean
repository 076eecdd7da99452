import Mathlib.Algebra.BigOperators.Intervals
import Mathlib.Algebra.Order.BigOperators.Group.Finset
import Mathlib.Data.Finset.Max
import Mathlib.Logic.Relation
import FormAssembly.Proofs.Message.Course

/-!
# Calls whose courses agree

An `Agenda` lays down for every call of every member which messages it sends and which it takes. The
courses agree if what a rank takes from another in the rounds so far is the beginning of what the
other sends to it in these rounds. Then members that keep to the agenda by themselves keep to it
together, in whatever order they take their steps: a message that is taken is the one that was laid
down (`Agenda.Invariant.receive`), a member that waits for a message gets it in the end
(`Agenda.Invariant.exists_step`), and after finitely many steps all are done
(`Agenda.Invariant.inevitable`). What was sent and is never taken is left in the queues
(`Agenda.Invariant.queue_of_finished`).
-/

namespace FormAssembly

namespace Callers

variable {β α : Type}

/-- `goal` comes about however the members take their steps and whatever other traffic there is
between them, provided that some member takes a step as long as one can. -/
inductive Inevitable (call : (round rank : Nat) → α → Exchange β α) (count : Nat)
    (goal : Callers β α → Prop) : Callers β α → Prop
  | now {s : Callers β α} : goal s → Inevitable call count goal s
  | later {s : Callers β α} : (∃ after, Step call count s after) →
      (∀ middle after, Relation.ReflTransGen Aside s middle → Step call count middle after →
        Inevitable call count goal after) →
      Inevitable call count goal s

end Callers

/-- All messages that a rank has dealt with a peer in the rounds before `round`. -/
def dealtBefore {β : Type} (mail : (round rank : Nat) → List (Nat × List β))
    (round rank peer : Nat) : List (List β) :=
  (List.range round).flatMap fun earlier => dealtWith peer (mail earlier rank)

theorem dealtBefore_succ {β : Type} (mail : (round rank : Nat) → List (Nat × List β))
    (round rank peer : Nat) :
    dealtBefore mail (round + 1) rank peer =
      dealtBefore mail round rank peer ++ dealtWith peer (mail round rank) := by
  simp [dealtBefore, List.range_succ]

theorem dealtBefore_mono {β : Type} (mail : (round rank : Nat) → List (Nat × List β))
    {round later rank peer : Nat} (order : round ≤ later) :
    dealtBefore mail round rank peer <+: dealtBefore mail later rank peer := by
  induction later, order using Nat.le_induction with
  | base => exact List.prefix_rfl
  | succ later _ ih =>
      rw [dealtBefore_succ]
      exact ih.trans (List.prefix_append _ _)

/-- If one message is exchanged with each peer in each round, these are all of them. -/
theorem dealtBefore_map {β : Type} {mail : (round rank : Nat) → List (Nat × List β)}
    {peers : List Nat} (distinct : peers.Nodup) {rank : Nat}
    (message : (round peer : Nat) → List β)
    (each : ∀ round, mail round rank = peers.map fun peer => (peer, message round peer))
    (rounds peer : Nat) :
    dealtBefore mail rounds rank peer =
      if peer ∈ peers then (List.range rounds).map fun round => message round peer else [] := by
  induction rounds with
  | zero => simp [dealtBefore]
  | succ rounds ih =>
      rw [dealtBefore_succ, ih, each, dealtWith_map distinct]
      by_cases among : peer ∈ peers
      · simp [among, List.range_succ]
      · simp [among]

/-- Calls of the members of a group with their courses. -/
structure Agenda (β α : Type) where
  size : Nat
  /-- Number of rounds. -/
  count : Nat
  call : (round rank : Nat) → α → Exchange β α
  /-- What a member holds before its call of a round, and in the end. -/
  state : (round rank : Nat) → α
  /-- Messages that a call sends, each with its receiver. -/
  outgoing : (round rank : Nat) → List (Nat × List β)
  /-- Messages that a call takes, each with its sender. -/
  incoming : (round rank : Nat) → List (Nat × List β)
  follows_call : ∀ round < count, ∀ rank < size,
    (call round rank (state round rank)).Follows (outgoing round rank) (incoming round rank)
      (state (round + 1) rank)
  source_lt : ∀ round < count, ∀ rank < size, ∀ entry ∈ incoming round rank, entry.1 < size
  /-- A rank takes what its peer sends, in the same order, and nothing before its round. -/
  taken_sent : ∀ round ≤ count, ∀ source < size, ∀ destination < size,
    dealtBefore incoming round destination source <+: dealtBefore outgoing round source destination

namespace Agenda

variable {β α : Type} {A : Agenda β α} {s after : Callers β α}
  {unsent untaken : Nat → List (Nat × List β)}

/-- A message that is on its way is the one that its receiver is to take next. -/
theorem eq_of_same_place {source destination sentRounds takenRounds : Nat}
    {past laterSent laterTaken : List (List β)} {message expected : List β}
    (sender : source < A.size) (receiver : destination < A.size)
    (sentEarly : sentRounds ≤ A.count) (takenEarly : takenRounds ≤ A.count)
    (sent : dealtBefore A.outgoing sentRounds source destination = past ++ message :: laterSent)
    (taken : dealtBefore A.incoming takenRounds destination source =
      past ++ expected :: laterTaken) : message = expected := by
  -- Both are the first message behind `past` in all that the sender will ever have sent.
  let all : List (List β) := dealtBefore A.outgoing A.count source destination
  have sentFirst : past ++ [message] <+: all := by
    have front : past ++ [message] <+: past ++ message :: laterSent := ⟨laterSent, by simp⟩
    exact (sent ▸ front).trans (dealtBefore_mono A.outgoing sentEarly)
  have takenFirst : past ++ [expected] <+: all := by
    have front : past ++ [expected] <+: past ++ expected :: laterTaken := ⟨laterTaken, by simp⟩
    exact ((taken ▸ front).trans (dealtBefore_mono A.incoming takenEarly)).trans
      (A.taken_sent A.count (Nat.le_refl _) source sender destination receiver)
  have same : past ++ [message] = past ++ [expected] :=
    (List.prefix_of_prefix_length_le sentFirst takenFirst (by simp)).eq_of_length (by simp)
  simpa using same

/-! ## The invariant -/

/-- What holds in every state, if `unsent` and `untaken` are the messages that the current call of a
member has still to send and to take. -/
structure Invariant (A : Agenda β α) (s : Callers β α)
    (unsent untaken : Nat → List (Nat × List β)) : Prop where
  length_processes : s.world.processes.length = A.size
  begun_le : ∀ rank < A.size, s.begun rank ≤ A.count
  follows : ∀ rank (e : Exchange β α), s.world.processes[rank]? = some e →
    e.Follows (unsent rank) (untaken rank) (A.state (s.begun rank) rank)
  source_lt : ∀ rank < A.size, ∀ entry ∈ untaken rank, entry.1 < A.size
  -- Of the messages from one rank to another, those in `past` were taken, those in the queue were
  -- sent and not taken, and the others are still to be sent.
  queues : ∀ source destination, ∃ past,
    dealtBefore A.outgoing (s.begun source) source destination =
      past ++ s.world.mailbox.queue ⟨source, destination, Member.gatherTag⟩ ++
        dealtWith destination (unsent source) ∧
    dealtBefore A.incoming (s.begun destination) destination source =
      past ++ dealtWith source (untaken destination)

theorem Invariant.lt_size (inv : A.Invariant s unsent untaken) {rank : Nat} {e : Exchange β α}
    (there : s.world.processes[rank]? = some e) : rank < A.size := by
  rcases List.getElem?_eq_some_iff.mp there with ⟨inside, _⟩
  exact inv.length_processes ▸ inside

theorem Invariant.exists_process (inv : A.Invariant s unsent untaken) {rank : Nat}
    (inside : rank < A.size) : ∃ e, s.world.processes[rank]? = some e := by
  have there : rank < s.world.processes.length := inv.length_processes ▸ inside
  exact ⟨_, List.getElem?_eq_getElem there⟩

theorem Invariant.eq_state (inv : A.Invariant s unsent untaken) {rank : Nat} {held : α}
    (holds : s.Holds rank held) : held = A.state (s.begun rank) rank :=
  (inv.follows rank _ holds).of_done.2.2

theorem invariant_idle (A : Agenda β α) :
    A.Invariant (.idle ((List.range A.size).map (A.state 0))) (fun _ => []) (fun _ => []) := by
  constructor
  · simp [Callers.idle, World.start]
  · intro rank _
    exact Nat.zero_le _
  · intro rank e there
    have inside : rank < A.size := by
      rcases List.getElem?_eq_some_iff.mp there with ⟨inside, _⟩
      simpa [Callers.idle, World.start] using inside
    have begins : e = .done (A.state 0 rank) := by
      simpa [Callers.idle, World.start, inside] using there.symm
    rw [begins]
    exact .done _
  · intro rank _ entry none
    cases none
  · intro source destination
    exact ⟨[], rfl, rfl⟩

/-! ## Every step keeps it -/

/-- A process of a list in which one was replaced is the new one or an old one. -/
theorem process_set_cases {processes : List (Exchange β α)} {rank other : Nat}
    {next e : Exchange β α} (there : (processes.set rank next)[other]? = some e) :
    (other = rank ∧ e = next) ∨ (other ≠ rank ∧ processes[other]? = some e) := by
  by_cases same : other = rank
  · subst same
    rw [List.getElem?_set_self'] at there
    rcases Option.map_eq_some_iff.mp there with ⟨_, _, replaced⟩
    exact Or.inl ⟨rfl, replaced.symm⟩
  · rw [List.getElem?_set_ne (Ne.symm same)] at there
    exact Or.inr ⟨same, there⟩

/-- If one process moves, the others follow the courses that they followed before. -/
theorem follows_set {processes : List (Exchange β α)} {begun begun' : Nat → Nat}
    {unsent unsent' untaken untaken' : Nat → List (Nat × List β)} {rank : Nat}
    {next : Exchange β α}
    (follows : ∀ other (e : Exchange β α), processes[other]? = some e →
      e.Follows (unsent other) (untaken other) (A.state (begun other) other))
    (onward : next.Follows (unsent' rank) (untaken' rank) (A.state (begun' rank) rank))
    (others : ∀ other, other ≠ rank → begun' other = begun other ∧
      unsent' other = unsent other ∧ untaken' other = untaken other) :
    ∀ other (e : Exchange β α), (processes.set rank next)[other]? = some e →
      e.Follows (unsent' other) (untaken' other) (A.state (begun' other) other) := by
  intro other e there
  rcases process_set_cases there with ⟨rfl, rfl⟩ | ⟨different, unmoved⟩
  · exact onward
  · rcases others other different with ⟨sameBegun, sameUnsent, sameUntaken⟩
    rw [sameBegun, sameUnsent, sameUntaken]
    exact follows other e unmoved

/-- What a member is to take stays among the messages of the group when only `rank` moves. -/
theorem source_lt_update {rank : Nat} {later : List (Nat × List β)}
    (source_lt : ∀ rank < A.size, ∀ entry ∈ untaken rank, entry.1 < A.size)
    (fewer : ∀ entry ∈ later, entry.1 < A.size) :
    ∀ other < A.size, ∀ entry ∈ Function.update untaken rank later other, entry.1 < A.size := by
  intro other inside entry among
  by_cases same : other = rank
  · rw [same, Function.update_self] at among
    exact fewer entry among
  · rw [Function.update_of_ne same] at among
    exact source_lt other inside entry among

/-- A member that sends has one message less to send. -/
theorem Invariant.send (inv : A.Invariant s unsent untaken) {rank peer tag : Nat}
    {message : List β} {next : Exchange β α}
    (there : s.world.processes[rank]? = some (.send peer tag message next)) :
    ∃ later, unsent rank = (peer, message) :: later ∧ A.Invariant
      ⟨⟨s.world.mailbox.post ⟨rank, peer, tag⟩ message, s.world.processes.set rank next⟩, s.begun⟩
      (Function.update unsent rank later) untaken := by
  obtain ⟨later, rfl, pending, onward⟩ := (inv.follows rank _ there).of_send
  refine ⟨later, pending, ?_, inv.begun_le, ?_, inv.source_lt, ?_⟩
  · simpa using inv.length_processes
  · refine follows_set inv.follows ?_ fun other different => ?_
    · rw [Function.update_self]
      exact onward
    · exact ⟨rfl, Function.update_of_ne different _ _, rfl⟩
  · intro source destination
    rcases inv.queues source destination with ⟨past, sent, taken⟩
    refine ⟨past, ?_, taken⟩
    rw [sent, Mailbox.queue_post]
    by_cases own : source = rank
    · subst own
      rw [Function.update_self, pending]
      by_cases here : peer = destination
      · -- The message goes from what is to be sent to the end of the queue.
        subst here
        simp
      · rw [dealtWith_cons_of_ne here, if_neg fun same => here (congrArg Route.destination same),
          List.append_nil]
    · rw [Function.update_of_ne own,
        if_neg fun same => own (congrArg Route.source same).symm, List.append_nil]

/-- A member that takes a message takes the one that was laid down. -/
theorem Invariant.receive (inv : A.Invariant s unsent untaken) {rank peer tag : Nat}
    {next : Option (List β) → Exchange β α} {message : List β} {rest : Mailbox β}
    (there : s.world.processes[rank]? = some (.receive peer tag next))
    (found : s.world.mailbox.take? ⟨peer, rank, tag⟩ = some (message, rest)) :
    ∃ later, untaken rank = (peer, message) :: later ∧ A.Invariant
      ⟨⟨rest, s.world.processes.set rank (next (some message))⟩, s.begun⟩
      unsent (Function.update untaken rank later) := by
  obtain ⟨expected, later, rfl, allSent, pending, onward⟩ := (inv.follows rank _ there).of_receive
  have receiver : rank < A.size := inv.lt_size there
  have among : ∀ entry ∈ (peer, expected) :: later, entry.1 < A.size :=
    pending ▸ inv.source_lt rank receiver
  have sender : peer < A.size := among _ List.mem_cons_self
  rcases Mailbox.queue_of_take? found with ⟨first, frame⟩
  rcases inv.queues peer rank with ⟨past, sent, taken⟩
  rw [first, List.append_assoc, List.cons_append] at sent
  rw [pending, dealtWith_cons_self] at taken
  obtain rfl : message = expected := eq_of_same_place sender receiver
    (inv.begun_le peer sender) (inv.begun_le rank receiver) sent taken
  refine ⟨later, pending, ?_, inv.begun_le, ?_, ?_, ?_⟩
  · simpa using inv.length_processes
  · refine follows_set inv.follows ?_ fun other different => ?_
    · rw [Function.update_self, allSent]
      exact onward
    · exact ⟨rfl, rfl, Function.update_of_ne different _ _⟩
  · exact source_lt_update inv.source_lt fun entry h => among entry (List.mem_cons_of_mem _ h)
  · intro source destination
    by_cases here : source = peer ∧ destination = rank
    · -- The message goes from the head of the queue to the past.
      rcases here with ⟨rfl, rfl⟩
      refine ⟨past ++ [message], ?_, ?_⟩
      · rw [sent]
        simp
      · rw [taken, Function.update_self]
        simp
    · have apart : (⟨source, destination, Member.gatherTag⟩ : Route) ≠
          ⟨peer, rank, Member.gatherTag⟩ := by
        intro same
        cases same
        exact here ⟨rfl, rfl⟩
      rcases inv.queues source destination with ⟨past', sent', taken'⟩
      refine ⟨past', ?_, ?_⟩
      · rw [sent', frame _ apart]
      · rw [taken']
        by_cases own : destination = rank
        · subst own
          have other : peer ≠ source := fun same => here ⟨same.symm, rfl⟩
          rw [Function.update_self, pending, dealtWith_cons_of_ne other]
        · rw [Function.update_of_ne own]

/-- A member that begins a call has the messages of that call before it. -/
theorem Invariant.call (inv : A.Invariant s unsent untaken) {rank : Nat} {held : α}
    (holds : s.Holds rank held) (early : s.begun rank < A.count) :
    A.Invariant
      ⟨⟨s.world.mailbox, s.world.processes.set rank (A.call (s.begun rank) rank held)⟩,
        Function.update s.begun rank (s.begun rank + 1)⟩
      (Function.update unsent rank (A.outgoing (s.begun rank) rank))
      (Function.update untaken rank (A.incoming (s.begun rank) rank)) := by
  rcases (inv.follows rank _ holds).of_done with ⟨noneUnsent, noneUntaken, rfl⟩
  have inside : rank < A.size := inv.lt_size holds
  refine ⟨?_, ?_, ?_, ?_, ?_⟩
  · simpa using inv.length_processes
  · intro other h
    by_cases same : other = rank
    · subst same
      simpa using early
    · simpa [Function.update_of_ne same] using inv.begun_le other h
  · refine follows_set inv.follows ?_ fun other different => ?_
    · simp only [Function.update_self]
      exact A.follows_call _ early rank inside
    · simp only [Function.update_of_ne different, and_self]
  · exact source_lt_update inv.source_lt (A.source_lt _ early rank inside)
  · intro source destination
    rcases inv.queues source destination with ⟨past, sent, taken⟩
    refine ⟨past, ?_, ?_⟩
    · by_cases own : source = rank
      · subst own
        simp only [Function.update_self, dealtBefore_succ, sent, noneUnsent, dealtWith_nil,
          List.append_nil]
      · simp only [Function.update_of_ne own, sent]
    · by_cases own : destination = rank
      · subst own
        simp only [Function.update_self, dealtBefore_succ, taken, noneUntaken, dealtWith_nil,
          List.append_nil]
      · simp only [Function.update_of_ne own, taken]

theorem Invariant.aside (inv : A.Invariant s unsent untaken) (aside : Callers.Aside s after) :
    A.Invariant after unsent untaken := by
  refine ⟨?_, ?_, ?_, inv.source_lt, ?_⟩
  · rw [aside.world_processes]
    exact inv.length_processes
  · rw [aside.begun_eq]
    exact inv.begun_le
  · rw [aside.world_processes, aside.begun_eq]
    exact inv.follows
  · intro source destination
    rw [aside.begun_eq, aside.queue_eq rfl]
    exact inv.queues source destination

theorem Invariant.asides (inv : A.Invariant s unsent untaken)
    (asides : Relation.ReflTransGen Callers.Aside s after) :
    A.Invariant after unsent untaken ∧ after.begun = s.begun := by
  induction asides with
  | refl => exact ⟨inv, rfl⟩
  | tail _ aside ih => exact ⟨ih.1.aside aside, aside.begun_eq.trans ih.2⟩

/-! ## What is still to be done -/

/-- Number of steps that a member has still to take: the messages of its current call, and all of
its later calls with their messages. -/
def stepsLeft (A : Agenda β α) (begun : Nat → Nat) (unsent untaken : Nat → List (Nat × List β))
    (rank : Nat) : Nat :=
  (unsent rank).length + (untaken rank).length +
    ∑ round ∈ Finset.Ico (begun rank) A.count,
      (1 + (A.outgoing round rank).length + (A.incoming round rank).length)

/-- Number of steps that all members have still to take. -/
def workLeft (A : Agenda β α) (begun : Nat → Nat)
    (unsent untaken : Nat → List (Nat × List β)) : Nat :=
  ∑ rank ∈ Finset.range A.size, A.stepsLeft begun unsent untaken rank

theorem workLeft_lt {begun begun' : Nat → Nat}
    {unsent unsent' untaken untaken' : Nat → List (Nat × List β)} {rank : Nat}
    (inside : rank < A.size)
    (fewer : A.stepsLeft begun' unsent' untaken' rank < A.stepsLeft begun unsent untaken rank)
    (others : ∀ other, other ≠ rank → begun' other = begun other ∧
      unsent' other = unsent other ∧ untaken' other = untaken other) :
    A.workLeft begun' unsent' untaken' < A.workLeft begun unsent untaken := by
  have never : ∀ other, other ≠ rank →
      A.stepsLeft begun' unsent' untaken' other = A.stepsLeft begun unsent untaken other := by
    intro other different
    rcases others other different with ⟨sameBegun, sameUnsent, sameUntaken⟩
    simp only [stepsLeft, sameBegun, sameUnsent, sameUntaken]
  -- The sum over the members falls, because one summand does and no other changes.
  refine Finset.sum_lt_sum ?_ ⟨rank, Finset.mem_range.mpr inside, fewer⟩
  intro other _
  by_cases same : other = rank
  · exact same ▸ Nat.le_of_lt fewer
  · exact Nat.le_of_eq (never other same)

theorem Invariant.step (inv : A.Invariant s unsent untaken)
    (moved : Callers.Step A.call A.count s after) :
    ∃ unsent' untaken', A.Invariant after unsent' untaken' ∧
      A.workLeft after.begun unsent' untaken' < A.workLeft s.begun unsent untaken := by
  cases moved with
  | @deal rank after moved =>
      rcases World.step_cases moved with
        ⟨peer, tag, message, next, there, rfl⟩ | ⟨peer, tag, next, message, rest, there, found, rfl⟩
      · rcases inv.send there with ⟨later, pending, kept⟩
        refine ⟨_, _, kept, workLeft_lt (inv.lt_size there) ?_ fun other different => ?_⟩
        · simp [stepsLeft, pending]
        · exact ⟨rfl, Function.update_of_ne different _ _, rfl⟩
      · rcases inv.receive there found with ⟨later, pending, kept⟩
        refine ⟨_, _, kept, workLeft_lt (inv.lt_size there) ?_ fun other different => ?_⟩
        · simp [stepsLeft, pending]
        · exact ⟨rfl, rfl, Function.update_of_ne different _ _⟩
  | @call rank held holds early =>
      rcases (inv.follows rank _ holds).of_done with ⟨noneUnsent, noneUntaken, _⟩
      refine ⟨_, _, inv.call holds early,
        workLeft_lt (inv.lt_size holds) ?_ fun other different => ?_⟩
      · -- The messages of the call were counted with the call, which itself is a step.
        simp only [stepsLeft, Function.update_self, noneUnsent, noneUntaken, List.length_nil,
          Finset.sum_eq_sum_Ico_succ_bot early]
        omega
      · simp only [Function.update_of_ne different, and_self]

/-- Every state that members reach from the beginning satisfies the invariant. -/
theorem invariant_of_run
    (run : Callers.Run A.call A.count (.idle ((List.range A.size).map (A.state 0))) s) :
    ∃ unsent untaken, A.Invariant s unsent untaken := by
  -- What is pending depends on the state, so the induction is on its existence.
  induction run with
  | start => exact ⟨_, _, A.invariant_idle⟩
  | step _ moved ih =>
      rcases ih with ⟨_, _, inv⟩
      rcases inv.step moved with ⟨_, _, kept, _⟩
      exact ⟨_, _, kept⟩
  | aside _ aside ih =>
      rcases ih with ⟨_, _, inv⟩
      exact ⟨_, _, inv.aside aside⟩

/-! ## All members come to an end -/

/-- A member that waits while nobody is in an earlier round has its message, or the one it waits for
is still sending. -/
theorem Invariant.exists_step_of_waiting (inv : A.Invariant s unsent untaken) {rank peer tag : Nat}
    {next : Option (List β) → Exchange β α}
    (there : s.world.processes[rank]? = some (.receive peer tag next))
    (last : ∀ other < A.size, s.begun rank ≤ s.begun other) :
    ∃ after, Callers.Step A.call A.count s after := by
  obtain ⟨expected, later, rfl, _, pending, _⟩ := (inv.follows rank _ there).of_receive
  have receiver : rank < A.size := inv.lt_size there
  have sender : peer < A.size :=
    inv.source_lt rank receiver (peer, expected) (by rw [pending]; exact List.mem_cons_self)
  rcases inv.queues peer rank with ⟨past, sent, taken⟩
  rw [pending, dealtWith_cons_self] at taken
  by_cases waiting : s.world.mailbox.queue ⟨peer, rank, Member.gatherTag⟩ = []
  · -- In the rounds that the peer has begun there is one more message than in `past`.
    have more : past.length < (dealtBefore A.outgoing (s.begun peer) peer rank).length := by
      have begunSent : dealtBefore A.outgoing (s.begun rank) peer rank <+:
          dealtBefore A.outgoing (s.begun peer) peer rank :=
        dealtBefore_mono A.outgoing (last peer sender)
      have takenSent := A.taken_sent _ (inv.begun_le rank receiver) peer sender rank receiver
      have known := (takenSent.trans begunSent).length_le
      rw [taken, List.length_append, List.length_cons] at known
      omega
    have unsentLeft : unsent peer ≠ [] := by
      intro none
      rw [sent, waiting, none, dealtWith_nil, List.append_nil, List.append_nil] at more
      exact Nat.lt_irrefl _ more
    rcases inv.exists_process sender with ⟨e, process⟩
    have course := inv.follows peer e process
    cases e with
    | done held => exact absurd course.of_done.1 unsentLeft
    | send _ _ message next =>
        rcases World.exists_step_of_send process with ⟨_, moved⟩
        exact ⟨_, .deal moved⟩
    | receive _ _ next =>
        rcases course.of_receive with ⟨_, _, _, allSent, _⟩
        exact absurd allSent unsentLeft
  · rcases World.exists_step_of_receive there waiting with ⟨_, moved⟩
    exact ⟨_, .deal moved⟩

/-- As long as one member is not done with all of its calls, some member can go on. -/
theorem Invariant.exists_step (inv : A.Invariant s unsent untaken)
    (unfinished : ∃ rank < A.size, ¬ s.Finished A.count rank) :
    ∃ after, Callers.Step A.call A.count s after := by
  classical
  -- The member to look at is the one that has begun the fewest calls.
  rcases unfinished with ⟨late, lateInside, lateUnfinished⟩
  obtain ⟨rank, among, least⟩ := Finset.exists_min_image
    ((Finset.range A.size).filter fun rank => ¬ s.Finished A.count rank) s.begun
    ⟨late, Finset.mem_filter.mpr ⟨Finset.mem_range.mpr lateInside, lateUnfinished⟩⟩
  rcases Finset.mem_filter.mp among with ⟨inRange, rankUnfinished⟩
  have inside : rank < A.size := Finset.mem_range.mp inRange
  -- Whoever is done has begun all rounds, so nobody at all is in an earlier one.
  have last : ∀ other < A.size, s.begun rank ≤ s.begun other := by
    intro other below
    by_cases finished : s.Finished A.count other
    · exact finished.1 ▸ inv.begun_le rank inside
    · exact least other (Finset.mem_filter.mpr ⟨Finset.mem_range.mpr below, finished⟩)
  rcases inv.exists_process inside with ⟨e, there⟩
  cases e with
  | done held =>
      have different : s.begun rank ≠ A.count := fun same => rankUnfinished ⟨same, held, there⟩
      exact ⟨_, .call there (Nat.lt_of_le_of_ne (inv.begun_le rank inside) different)⟩
  | send peer tag message next =>
      rcases World.exists_step_of_send there with ⟨_, moved⟩
      exact ⟨_, .deal moved⟩
  | receive peer tag next => exact inv.exists_step_of_waiting there last

/-- All members come to the end of their calls, whatever order they take their steps in. -/
theorem Invariant.inevitable (inv : A.Invariant s unsent untaken) :
    Callers.Inevitable A.call A.count (fun s => ∀ rank < A.size, s.Finished A.count rank) s := by
  -- Other traffic leaves the work alone, and every step of a member lowers it.
  induction work : A.workLeft s.begun unsent untaken using Nat.strong_induction_on
    generalizing s unsent untaken with
  | _ work ih =>
      subst work
      by_cases finished : ∀ rank < A.size, s.Finished A.count rank
      · exact .now finished
      · have unfinished : ∃ rank < A.size, ¬ s.Finished A.count rank := by
          simpa using finished
        refine .later (inv.exists_step unfinished) fun middle after asides moved => ?_
        rcases inv.asides asides with ⟨between, sameBegun⟩
        rcases between.step moved with ⟨unsent', untaken', kept, less⟩
        rw [sameBegun] at less
        exact ih _ less kept rfl

/-- What was sent from one member to another and not taken in the end. -/
theorem Invariant.queue_of_finished (inv : A.Invariant s unsent untaken)
    (finished : ∀ rank < A.size, s.Finished A.count rank) {source destination : Nat}
    (sender : source < A.size) (receiver : destination < A.size) :
    s.world.mailbox.queue ⟨source, destination, Member.gatherTag⟩ =
      (dealtBefore A.outgoing A.count source destination).drop
        (dealtBefore A.incoming A.count destination source).length := by
  rcases finished source sender with ⟨sentAll, _, senderHolds⟩
  rcases finished destination receiver with ⟨tookAll, _, receiverHolds⟩
  rcases inv.queues source destination with ⟨past, sent, taken⟩
  have noneUnsent : unsent source = [] := (inv.follows source _ senderHolds).of_done.1
  have noneUntaken : untaken destination = [] :=
    (inv.follows destination _ receiverHolds).of_done.2.1
  rw [sentAll, noneUnsent, dealtWith_nil, List.append_nil] at sent
  rw [tookAll, noneUntaken, dealtWith_nil, List.append_nil] at taken
  rw [sent, taken, List.drop_left]

end Agenda
end FormAssembly
