import FormAssembly.Proofs.Message.Callers
import FormAssembly.Proofs.Message.RankOrder

/-!
# The course of a gathering

A gathering sends to all peers before it waits for any of them, so its course is settled by the
messages that come. `Exchange.Follows` says which messages an exchange sends, which it takes, and
how it ends. A gathering takes messages up to the first of another length than its own contribution
(`Member.heard`), puts them in their places (`Member.collected`) and leaves all later ones alone
(`Member.follows_gather`). If all are as long as they should be, it has everything in the end
(`Member.collected_place`).
-/

namespace FormAssembly

/-! ## Members and their peers -/

namespace Member

theorem mem_peers {m : Member} {peer : Nat} : peer ∈ m.peers ↔ peer < m.size ∧ peer ≠ m.rank := by
  simp [peers]

theorem nodup_peers (m : Member) : m.peers.Nodup :=
  List.nodup_range.filter _

/-- A gathering with a buffer of the right length sends to all peers, then reads from all. -/
theorem gather_eq {β : Type} {m : Member} {mine buffer : List β} (inGroup : m.alone = false)
    (room : buffer.length = m.size * mine.length) :
    m.gather mine buffer =
      .sendAll m.peers gatherTag mine
        (collect mine.length m.peers (place m.rank mine buffer)) := by
  simp [gather, inGroup, room]

/-- In a group of one a gathering is done at once. -/
theorem gather_of_one {β : Type} {mine buffer : List β} (room : buffer.length = mine.length) :
    (⟨0, 1, false⟩ : Member).gather mine buffer = .done (.ok (), mine) := by
  have fits : buffer.length = 1 * mine.length := by rw [room, Nat.one_mul]
  have nobody : (⟨0, 1, false⟩ : Member).peers = [] := rfl
  have whole : place 0 mine buffer = mine := by simp [place, room]
  rw [gather_eq rfl fits, nobody, whole]
  rfl

end Member

/-! ## Messages laid down -/

/-- The messages to or from one peer, out of messages that come with the ranks of peers. -/
def dealtWith {β : Type} (peer : Nat) (mail : List (Nat × List β)) : List (List β) :=
  (mail.filter fun entry => entry.1 = peer).map (·.2)

section DealtWith

variable {β : Type} {peer other : Nat} {message : List β} {mail later : List (Nat × List β)}

@[simp] theorem dealtWith_nil : dealtWith peer ([] : List (Nat × List β)) = [] :=
  rfl

@[simp] theorem dealtWith_cons_self :
    dealtWith peer ((peer, message) :: mail) = message :: dealtWith peer mail := by
  simp [dealtWith]

theorem dealtWith_cons_of_ne (different : other ≠ peer) :
    dealtWith peer ((other, message) :: mail) = dealtWith peer mail := by
  simp [dealtWith, different]

/-- If every peer appears once, what is dealt with one of them is a single message or nothing. -/
theorem dealtWith_map {message : Nat → List β} {peers : List Nat} (distinct : peers.Nodup) :
    dealtWith peer (peers.map fun other => (other, message other)) =
      if peer ∈ peers then [message peer] else [] := by
  induction peers with
  | nil => rfl
  | cons first others ih =>
      have apart := List.nodup_cons.mp distinct
      rw [List.map_cons]
      by_cases same : first = peer
      · subst same
        rw [dealtWith_cons_self, ih apart.2, if_neg apart.1, if_pos List.mem_cons_self]
      · have elsewhere : peer ∈ first :: others ↔ peer ∈ others := by
          simp [Ne.symm same]
        rw [dealtWith_cons_of_ne same, ih apart.2]
        simp only [elsewhere]

end DealtWith

namespace Exchange

variable {β α γ : Type} {e next : Exchange β α} {result held : α} {peer tag : Nat}
  {message : List β} {outgoing incoming : List (Nat × List β)}

/-- An exchange sends `outgoing` in gatherings and then, given `incoming`, ends with `result`. -/
inductive Follows : Exchange β α → (outgoing incoming : List (Nat × List β)) → α → Prop
  | done (result : α) : Follows (.done result) [] [] result
  | send {peer : Nat} {message : List β} {next : Exchange β α}
      {outgoing incoming : List (Nat × List β)} {result : α} :
      Follows next outgoing incoming result →
      Follows (.send peer Member.gatherTag message next) ((peer, message) :: outgoing) incoming
        result
  /-- Nothing is waited for before everything is sent. -/
  | receive {peer : Nat} {message : List β} {next : Option (List β) → Exchange β α}
      {incoming : List (Nat × List β)} {result : α} :
      Follows (next (some message)) [] incoming result →
      Follows (.receive peer Member.gatherTag next) [] ((peer, message) :: incoming) result

theorem Follows.of_done
    (course : (Exchange.done held : Exchange β α).Follows outgoing incoming result) :
    outgoing = [] ∧ incoming = [] ∧ held = result := by
  cases course
  exact ⟨rfl, rfl, rfl⟩

theorem Follows.of_send
    (course : (Exchange.send peer tag message next).Follows outgoing incoming result) :
    ∃ later, tag = Member.gatherTag ∧ outgoing = (peer, message) :: later ∧
      next.Follows later incoming result := by
  cases course with
  | send onward => exact ⟨_, rfl, rfl, onward⟩

theorem Follows.of_receive {next : Option (List β) → Exchange β α}
    (course : (Exchange.receive peer tag next).Follows outgoing incoming result) :
    ∃ message later, tag = Member.gatherTag ∧ outgoing = [] ∧
      incoming = (peer, message) :: later ∧ (next (some message)).Follows [] later result := by
  cases course with
  | receive onward => exact ⟨_, _, rfl, rfl, rfl, onward⟩

/-- What is made of the result in the end does not change the course. -/
theorem Follows.bind_done (course : e.Follows outgoing incoming result) (f : α → γ) :
    (e >>= fun result => .done (f result)).Follows outgoing incoming (f result) := by
  induction course with
  | done result => exact .done _
  | send _ ih => exact .send ih
  | receive _ ih => exact .receive ih

theorem Follows.sendAll (course : next.Follows [] incoming result) (peers : List Nat) :
    (Exchange.sendAll peers Member.gatherTag message next).Follows
      (peers.map fun peer => (peer, message)) incoming result := by
  induction peers with
  | nil => exact course
  | cons peer others ih => exact .send ih

end Exchange

/-! ## One gathering -/

namespace Member

variable {β : Type} {width size : Nat} {answer : Nat → List β} {peers : List Nat}
  {buffer mine : List β}

/-- The peers of which a gathering takes a message, if peer `p` answers with `answer p`: all up to
the first whose answer is of another length. -/
def heard (width : Nat) (answer : Nat → List β) : (peers : List Nat) → List Nat
  | [] => []
  | peer :: later =>
      peer :: if (answer peer).length = width then heard width answer later else []

/-- What comes of collecting the answers of some peers. -/
def collected (width : Nat) (answer : Nat → List β) :
    (peers : List Nat) → (buffer : List β) → Except Error Unit × List β
  | [], buffer => (.ok (), buffer)
  | peer :: later, buffer =>
      if (answer peer).length = width then
        collected width answer later (place peer (answer peer) buffer)
      else
        (.error (.communication (.unequal peer (answer peer).length width)), buffer)

theorem heard_sublist (width : Nat) (answer : Nat → List β) (peers : List Nat) :
    (heard width answer peers).Sublist peers := by
  induction peers with
  | nil => exact List.Sublist.slnil
  | cons peer later ih =>
      unfold heard
      split
      · exact ih.cons_cons peer
      · exact (List.nil_sublist later).cons_cons peer

theorem heard_of_equal (equal : ∀ peer ∈ peers, (answer peer).length = width) :
    heard width answer peers = peers := by
  induction peers with
  | nil => rfl
  | cons peer later ih =>
      have onward : heard width answer later = later :=
        ih fun p among => equal p (List.mem_cons_of_mem _ among)
      rw [heard, if_pos (equal peer List.mem_cons_self), onward]

theorem follows_collect (width : Nat) (answer : Nat → List β) (peers : List Nat)
    (buffer : List β) :
    (collect width peers buffer).Follows []
      ((heard width answer peers).map fun peer => (peer, answer peer))
      (collected width answer peers buffer) := by
  induction peers generalizing buffer with
  | nil => exact .done _
  | cons peer later ih =>
      by_cases fits : (answer peer).length = width
      · -- The gathering goes on with the next peer.
        simp only [heard, collected, fits, if_true, List.map_cons]
        refine .receive ?_
        simp only [fits, if_true]
        exact ih _
      · simp only [heard, collected, fits, if_false, List.map_cons, List.map_nil]
        refine .receive ?_
        simp only [fits, if_false]
        exact .done _

/-- The course of a gathering, given the answers of the peers. -/
theorem follows_gather {m : Member} (inGroup : m.alone = false)
    (room : buffer.length = m.size * mine.length) (answer : Nat → List β) :
    (m.gather mine buffer).Follows (m.peers.map fun peer => (peer, mine))
      ((heard mine.length answer m.peers).map fun peer => (peer, answer peer))
      (collected mine.length answer m.peers (place m.rank mine buffer)) := by
  rw [gather_eq inGroup room]
  exact (follows_collect _ _ _ _).sendAll m.peers

/-! ## How a gathering ends -/

/-- A gathering fails with the first peer whose answer is of another length. -/
theorem collected_fst (width : Nat) (answer : Nat → List β) (peers : List Nat)
    (buffer : List β) :
    (collected width answer peers buffer).1 =
      match peers.find? fun peer => (answer peer).length ≠ width with
      | none => .ok ()
      | some peer => .error (.communication (.unequal peer (answer peer).length width)) := by
  induction peers generalizing buffer with
  | nil => rfl
  | cons peer later ih =>
      by_cases fits : (answer peer).length = width
      · simpa [collected, fits] using ih _
      · simp [collected, fits]

/-- If all answers are as long as they should be, all of them end up in their places. -/
theorem collected_of_equal {chunk : Nat → List β}
    (inside : ∀ peer ∈ peers, peer < size)
    (room : ∀ rank < size, (chunk rank).length = width)
    (equal : ∀ peer ∈ peers, (answer peer).length = width) :
    collected width answer peers (inRankOrder size chunk) =
      (.ok (), inRankOrder size fun rank => if rank ∈ peers then answer rank else chunk rank) := by
  induction peers generalizing chunk with
  | nil => simp [collected]
  | cons peer later ih =>
      have fits : (answer peer).length = width := equal peer List.mem_cons_self
      have below : peer < size := inside peer List.mem_cons_self
      rw [collected, if_pos fits, place_inRankOrder below room fits,
        ih (fun p among => inside p (List.mem_cons_of_mem _ among)) (length_update room fits)
          fun p among => equal p (List.mem_cons_of_mem _ among)]
      refine congrArg _ (inRankOrder_congr fun rank _ => ?_)
      -- The chunk of the first peer is its answer now, and it does not matter if it comes again.
      by_cases now : rank = peer
      · subst now
        simp
      · simp [now]

/-- If all answers are as long as the own contribution, the buffer holds what everybody contributed
in the end, whatever was in it before. -/
theorem collected_place {m : Member} (inside : m.rank < m.size)
    (room : buffer.length = m.size * width) (own : mine.length = width)
    (equal : ∀ peer ∈ m.peers, (answer peer).length = width) :
    collected width answer m.peers (place m.rank mine buffer) =
      (.ok (), inRankOrder m.size (Function.update answer m.rank mine)) := by
  rcases exists_eq_inRankOrder room with ⟨chunk, chunked, rfl⟩
  rw [place_inRankOrder inside chunked own, collected_of_equal
    (fun peer among => (mem_peers.mp among).1) (length_update chunked own) equal]
  refine congrArg _ (inRankOrder_congr fun rank below => ?_)
  by_cases self : rank = m.rank
  · simp [mem_peers, self]
  · simp [mem_peers, self, below]

end Member
end FormAssembly
