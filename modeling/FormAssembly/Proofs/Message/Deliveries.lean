import FormAssembly.Message.Script
import FormAssembly.Message.World

/-!
# Deliveries

Any number of groups are at work, each process behind any number of handles, and the handles post
and take messages in whatever order. `Groups.Run history groups` says what they have done so far and
what has become of the groups. On every route of every group the messages that were posted are the
ones that were delivered, in the same order, followed by those that are still in the mailbox
(`Groups.Run.accounted`). So nothing is lost, doubled or overtaken, and nothing goes astray
(`Groups.deliveries_keep_order`).
-/

namespace FormAssembly

variable {β : Type}

/-! ## One handle at work -/

namespace Group

variable {g : Group β} {m : Member} {peer tag : Nat}

theorem run_send (inGroup : m.alone = false) (message : List β) :
    g.run m (m.send peer tag message) =
      (.done (), ⟨g.members, g.mailbox.post ⟨m.rank, peer, tag⟩ message⟩) := by
  simp [run, Member.send, inGroup, Exchange.advance]

/-- A receive is over at once if there is a message on its route. Else it waits and changes
nothing. -/
theorem run_receive (inGroup : m.alone = false) :
    g.run m (m.receive peer tag) =
      match g.mailbox.take? ⟨peer, m.rank, tag⟩ with
      | some (message, rest) => (.done (some message), ⟨g.members, rest⟩)
      | none => (.receive peer tag .done, g) := by
  unfold run Member.receive
  cases taken : g.mailbox.take? ⟨peer, m.rank, tag⟩ <;> simp [inGroup, Exchange.advance, taken]

/-- What comes of a receive, told from the queue of its route. -/
theorem run_receive_fst (inGroup : m.alone = false) :
    (g.run m (m.receive peer tag)).1 =
      match g.mailbox.queue ⟨peer, m.rank, tag⟩ with
      | [] => .receive peer tag .done
      | message :: _ => .done (some message) := by
  rw [run_receive inGroup]
  cases taken : g.mailbox.take? ⟨peer, m.rank, tag⟩ with
  | none => rw [Mailbox.take?_eq_none_iff.mp taken]
  | some found => rw [(Mailbox.queue_of_take? taken).1]

theorem alone_of_mem_ofSize {size : Nat} (among : m ∈ (ofSize size : Group β).members) :
    m.alone = false := by
  rcases List.mem_map.mp among with ⟨rank, _, rfl⟩
  rfl

end Group

/-! ## Many handles at work -/

/-- What a handle has done. -/
structure Act (β : Type) where
  /-- Number of its group. -/
  group : Nat
  /-- Rank of the process behind it. -/
  rank : Nat
  dealing : Dealing β

/-- The message that an act posts on a route of a group. -/
def Act.posted? (i : Nat) (route : Route) : Act β → Option (List β)
  | ⟨group, rank, .sent peer tag message⟩ =>
      if group = i ∧ (⟨rank, peer, tag⟩ : Route) = route then some message else none
  | ⟨_, _, .received ..⟩ => none

/-- The message that an act takes from a route of a group. -/
def Act.delivered? (i : Nat) (route : Route) : Act β → Option (List β)
  | ⟨group, rank, .received peer tag answer⟩ =>
      if group = i ∧ (⟨peer, rank, tag⟩ : Route) = route then answer else none
  | ⟨_, _, .sent ..⟩ => none

namespace Groups

/-- The messages that were posted on a route of a group, oldest first. -/
def posted (i : Nat) (route : Route) (history : List (Act β)) : List (List β) :=
  history.filterMap (Act.posted? i route)

/-- The messages that were delivered on a route of a group, oldest first. -/
def delivered (i : Nat) (route : Route) (history : List (Act β)) : List (List β) :=
  history.filterMap (Act.delivered? i route)

/-- What can happen next, with what handles do in it. -/
inductive Step : List (Group β) → List (Act β) → List (Group β) → Prop
  /-- A group is made. -/
  | found {groups : List (Group β)} (size : Nat) : Step groups [] (groups ++ [.ofSize size])
  /-- A process gets a further handle. -/
  | clone {groups : List (Group β)} {i : Nat} {g : Group β} {m : Member} :
      groups[i]? = some g → m ∈ g.members → Step groups [] (groups.set i (g.clone m))
  /-- A handle sends a message to any rank under any tag. -/
  | send {groups : List (Group β)} {i peer tag : Nat} {g after : Group β} {m : Member}
      {message : List β} :
      groups[i]? = some g → m ∈ g.members →
      g.run m (m.send peer tag message) = (.done (), after) →
      Step groups [⟨i, m.rank, .sent peer tag message⟩] (groups.set i after)
  /-- A handle waits for a message and gets an answer. The room it has for the message plays no
  part. -/
  | receive {groups : List (Group β)} {i peer tag : Nat} {g after : Group β} {m : Member}
      {answer : Option (List β)} :
      groups[i]? = some g → m ∈ g.members →
      g.run m (m.receive peer tag) = (.done answer, after) →
      Step groups [⟨i, m.rank, .received peer tag answer⟩] (groups.set i after)

/-- What has been done from the beginning, when there were no groups, and the groups now. -/
inductive Run : List (Act β) → List (Group β) → Prop
  | start : Run [] []
  | step {history acts : List (Act β)} {groups after : List (Group β)} :
      Run history groups → Step groups acts after → Run (history ++ acts) after

/-! ## The account of all messages -/

theorem posted_append (i : Nat) (route : Route) (earlier later : List (Act β)) :
    posted i route (earlier ++ later) = posted i route earlier ++ posted i route later :=
  List.filterMap_append

theorem delivered_append (i : Nat) (route : Route) (earlier later : List (Act β)) :
    delivered i route (earlier ++ later) = delivered i route earlier ++ delivered i route later :=
  List.filterMap_append

/-- What holds of a group that is number `i`, whatever was done. -/
structure Account (history : List (Act β)) (i : Nat) (g : Group β) : Prop where
  inGroup : ∀ m ∈ g.members, m.alone = false
  queues : ∀ route,
    posted i route history = delivered i route history ++ g.mailbox.queue route

/-- Every group is accounted for, and nothing was done in groups that are not there. -/
structure Accounted (history : List (Act β)) (groups : List (Group β)) : Prop where
  account : ∀ i g, groups[i]? = some g → Account history i g
  nothing : ∀ i, groups.length ≤ i → ∀ route,
    posted i route history = [] ∧ delivered i route history = []

/-- If one group has changed, and it is the only one in which something was done, it is enough to
account for that one. -/
theorem Accounted.set {history acts : List (Act β)} {groups : List (Group β)} {i : Nat}
    {g after : Group β} (kept : Accounted history groups) (there : groups[i]? = some g)
    (here : Account (history ++ acts) i after)
    (elsewhere : ∀ j, j ≠ i → ∀ route, posted j route acts = [] ∧ delivered j route acts = []) :
    Accounted (history ++ acts) (groups.set i after) := by
  rcases List.getElem?_eq_some_iff.mp there with ⟨inside, _⟩
  constructor
  · intro j other found
    by_cases same : j = i
    · subst same
      rw [List.getElem?_set_self inside] at found
      exact Option.some.inj found ▸ here
    · rw [List.getElem?_set_ne (Ne.symm same)] at found
      have before := kept.account j other found
      refine ⟨before.inGroup, fun route => ?_⟩
      rw [posted_append, delivered_append, (elsewhere j same route).1, (elsewhere j same route).2,
        List.append_nil, List.append_nil]
      exact before.queues route
  · intro j outside route
    rw [List.length_set] at outside
    have different : j ≠ i := fun same => absurd (same ▸ outside) (Nat.not_le.mpr inside)
    rw [posted_append, delivered_append, (elsewhere j different route).1,
      (elsewhere j different route).2, List.append_nil, List.append_nil]
    exact kept.nothing j outside route

theorem Account.send {history : List (Act β)} {i peer tag : Nat} {g : Group β} {m : Member}
    {message : List β} (before : Account history i g) :
    Account (history ++ [⟨i, m.rank, .sent peer tag message⟩]) i
      ⟨g.members, g.mailbox.post ⟨m.rank, peer, tag⟩ message⟩ := by
  refine ⟨before.inGroup, fun route => ?_⟩
  rw [posted_append, delivered_append, before.queues route, Mailbox.queue_post]
  by_cases onRoute : (⟨m.rank, peer, tag⟩ : Route) = route <;>
    simp [posted, delivered, Act.posted?, Act.delivered?, onRoute]

theorem Account.receive {history : List (Act β)} {i peer tag : Nat} {g : Group β} {m : Member}
    {message : List β} {rest : Mailbox β} (before : Account history i g)
    (taken : g.mailbox.take? ⟨peer, m.rank, tag⟩ = some (message, rest)) :
    Account (history ++ [⟨i, m.rank, .received peer tag (some message)⟩]) i ⟨g.members, rest⟩ := by
  rcases Mailbox.queue_of_take? taken with ⟨first, frame⟩
  refine ⟨before.inGroup, fun route => ?_⟩
  rw [posted_append, delivered_append, before.queues route]
  by_cases onRoute : (⟨peer, m.rank, tag⟩ : Route) = route
  · -- The message goes from the head of the queue to the end of what was delivered.
    subst onRoute
    rw [first]
    simp [posted, delivered, Act.posted?, Act.delivered?]
  · rw [frame route (Ne.symm onRoute)]
    simp [posted, delivered, Act.posted?, Act.delivered?, onRoute]

theorem Accounted.step {history acts : List (Act β)} {groups after : List (Group β)}
    (kept : Accounted history groups) (moved : Step groups acts after) :
    Accounted (history ++ acts) after := by
  cases moved with
  | found size =>
      rw [List.append_nil]
      constructor
      · intro i g found
        rcases Nat.lt_or_ge i groups.length with inside | outside
        · rw [List.getElem?_append_left inside] at found
          exact kept.account i g found
        · -- A new group has an empty mailbox, and nothing was done in it.
          rw [List.getElem?_append_right outside] at found
          rcases List.mem_singleton.mp (List.mem_of_getElem? found) with rfl
          refine ⟨fun m among => Group.alone_of_mem_ofSize among, fun route => ?_⟩
          rw [(kept.nothing i outside route).1, (kept.nothing i outside route).2]
          rfl
      · intro i outside route
        rw [List.length_append] at outside
        exact kept.nothing i (Nat.le_of_add_right_le outside) route
  | @clone i g m there among =>
      have before := kept.account i g there
      refine kept.set there ?_ fun _ _ _ => ⟨rfl, rfl⟩
      rw [List.append_nil]
      refine ⟨fun other listed => ?_, before.queues⟩
      rcases List.mem_append.mp listed with old | new
      · exact before.inGroup other old
      · rw [List.mem_singleton.mp new]
        exact before.inGroup m among
  | @send i peer tag g after m message there among sent =>
      have before := kept.account i g there
      rw [Group.run_send (before.inGroup m among)] at sent
      cases sent
      refine kept.set there before.send fun j different route => ?_
      simp [posted, delivered, Act.posted?, Act.delivered?, Ne.symm different]
  | @receive i peer tag g after m answer there among received =>
      have before := kept.account i g there
      rw [Group.run_receive (before.inGroup m among)] at received
      cases taken : g.mailbox.take? ⟨peer, m.rank, tag⟩ with
      | none =>
          rw [taken] at received
          cases received
      | some found =>
          rw [taken] at received
          cases received
          refine kept.set there (before.receive taken) fun j different route => ?_
          simp [posted, delivered, Act.posted?, Act.delivered?, Ne.symm different]

theorem Run.accounted {history : List (Act β)} {groups : List (Group β)}
    (run : Run history groups) : Accounted history groups := by
  induction run with
  | start => exact ⟨fun i g found => by simp at found, fun _ _ _ => ⟨rfl, rfl⟩⟩
  | step _ moved ih => exact ih.step moved

/-- On every route of every group, the messages that were delivered are the first of those that were
posted, whole and in order, and the others are in the mailbox. Whoever is at the end of the route
gets the oldest of these, and waits only if there is none. -/
theorem deliveries_keep_order {history : List (Act β)} {groups : List (Group β)}
    (run : Run history groups) {i : Nat} {g : Group β} (there : groups[i]? = some g)
    (route : Route) :
    posted i route history = delivered i route history ++ g.mailbox.queue route ∧
    delivered i route history <+: posted i route history ∧
    ∀ m ∈ g.members, m.rank = route.destination →
      (g.run m (m.receive route.source route.tag)).1 =
        match g.mailbox.queue route with
        | [] => .receive route.source route.tag .done
        | message :: _ => .done (some message) := by
  have account := run.accounted.account i g there
  have whole := account.queues route
  refine ⟨whole, ⟨g.mailbox.queue route, whole.symm⟩, ?_⟩
  rcases route with ⟨source, destination, tag⟩
  rintro m among rfl
  exact Group.run_receive_fst (account.inGroup m among)

/-- Two groups of two. In the first a message of rank 0 has been taken, one more and one of a second
handle on rank 0 are waiting; in the second there is a message on the same route. -/
theorem deliveries_keep_order_two_groups :
    ∃ (history : List (Act Nat)) (first second : Group Nat), Run history [first, second] ∧
      posted 0 ⟨0, 1, 7⟩ history = [[1, 2], [3], [9]] ∧
      delivered 0 ⟨0, 1, 7⟩ history = [[1, 2]] ∧
      first.mailbox.queue ⟨0, 1, 7⟩ = [[3], [9]] ∧ second.mailbox.queue ⟨0, 1, 7⟩ = [[4]] ∧
      ∃ m ∈ first.members, (first.run m (m.receive 0 7)).1 = .done (some [3]) := by
  let zero : Member := ⟨0, 2, false⟩
  let one : Member := ⟨1, 2, false⟩
  let history : List (Act Nat) :=
    [⟨0, 0, .sent 1 7 [1, 2]⟩, ⟨1, 0, .sent 1 7 [4]⟩, ⟨0, 0, .sent 1 7 [3]⟩,
      ⟨0, 1, .received 0 7 (some [1, 2])⟩, ⟨0, 0, .sent 1 7 [9]⟩]
  let first : Group Nat := ⟨[zero, one, zero], ⟨[⟨⟨0, 1, 7⟩, [3]⟩, ⟨⟨0, 1, 7⟩, [9]⟩]⟩⟩
  let second : Group Nat := ⟨[zero, one], ⟨[⟨⟨0, 1, 7⟩, [4]⟩]⟩⟩
  have handles : Run [] [(⟨[zero, one, zero], .empty⟩ : Group Nat), .ofSize 2] :=
    ((Run.start.step (.found 2)).step (.found 2)).step
      (@Step.clone _ _ 0 (.ofSize 2) zero rfl (by decide))
  have sent := ((handles.step (@Step.send _ _ 0 1 7 _ _ zero [1, 2] rfl (by decide) rfl)).step
    (@Step.send _ _ 1 1 7 _ _ zero [4] rfl (by decide) rfl)).step
    (@Step.send _ _ 0 1 7 _ _ zero [3] rfl (by decide) rfl)
  have run : Run history [first, second] :=
    (sent.step (@Step.receive _ _ 0 0 7 _ _ one _ rfl (by decide) rfl)).step
      (@Step.send _ _ 0 1 7 _ _ zero [9] rfl (by decide) rfl)
  rcases deliveries_keep_order run (i := 0) rfl ⟨0, 1, 7⟩ with ⟨inFirst, _, next⟩
  rcases deliveries_keep_order run (i := 1) rfl ⟨0, 1, 7⟩ with ⟨inSecond, _⟩
  have whole : [[1, 2], [3], [9]] = [[1, 2]] ++ first.mailbox.queue ⟨0, 1, 7⟩ := inFirst
  refine ⟨history, first, second, run, rfl, rfl, ?_, inSecond.symm, one, by decide, ?_⟩
  · exact (congrArg List.tail whole).symm
  · exact next one (by decide) rfl

end Groups
end FormAssembly
