import FormAssembly.Message.Script
import FormAssembly.Proofs.Message.Values

/-!
# Dealings

What one process deals with its peers, whoever they are. `Exchange.Deals` says what an exchange has
sent and heard so far and what is left of it; peers may answer anything at any time, or nothing. An
exchange that is run against a script is one case (`Exchange.exists_deals_perform`).

A gathering sends one message to each peer and listens only after that, to each peer at most once
(`Member.deals_gatherValues`).
-/

namespace FormAssembly

namespace Exchange

variable {β α γ : Type} {e next rest : Exchange β α} {dealings : List (Dealing β)}

/-- An exchange has come some way, and `rest` is left of it. -/
inductive Deals : Exchange β α → List (Dealing β) → Exchange β α → Prop
  | here (e : Exchange β α) : Deals e [] e
  | send {peer tag : Nat} {message : List β} {next rest : Exchange β α}
      {later : List (Dealing β)} :
      Deals next later rest →
      Deals (.send peer tag message next) (.sent peer tag message :: later) rest
  | receive {peer tag : Nat} {next : Option (List β) → Exchange β α} {rest : Exchange β α}
      {later : List (Dealing β)} (answer : Option (List β)) :
      Deals (next answer) later rest →
      Deals (.receive peer tag next) (.received peer tag answer :: later) rest

/-- Whether an exchange is about to send. -/
def sending : Exchange β α → Bool
  | .send .. => true
  | .receive .. | .done _ => false

theorem exists_deals_perform (e : Exchange β α) (s : Script β) :
    ∃ dealings, (e.perform s).2.transcript = s.transcript ++ dealings ∧
      e.Deals dealings (.done (e.perform s).1) := by
  induction e generalizing s with
  | done result => exact ⟨[], (List.append_nil _).symm, .here _⟩
  | send peer tag message next ih =>
      rcases ih (s.record (.sent peer tag message)) with ⟨later, written, onward⟩
      refine ⟨.sent peer tag message :: later, ?_, .send onward⟩
      rw [perform, written]
      simp [Script.record]
  | receive peer tag next ih =>
      rcases ih (s.next peer) ((s.consume peer).record (.received peer tag (s.next peer))) with
        ⟨later, written, onward⟩
      refine ⟨.received peer tag (s.next peer) :: later, ?_, .receive _ onward⟩
      rw [perform, written]
      simp [Script.record, Script.consume]

theorem Deals.of_done {result : α} (deals : (done result).Deals dealings rest) :
    dealings = [] ∧ rest = done result := by
  cases deals
  exact ⟨rfl, rfl⟩

/-- What is made of the result in the end makes no difference to the dealings. -/
theorem Deals.of_bind_done {f : α → γ} {rest : Exchange β γ}
    (deals : (e >>= fun result => done (f result)).Deals dealings rest) :
    ∃ before, e.Deals dealings before ∧ rest.sending = before.sending := by
  induction e generalizing dealings with
  | done result =>
      rcases deals.of_done with ⟨rfl, rfl⟩
      exact ⟨_, .here _, rfl⟩
  | send peer tag message next ih =>
      cases deals with
      | here => exact ⟨_, .here _, rfl⟩
      | send onward =>
          rcases ih onward with ⟨before, earlier, same⟩
          exact ⟨before, .send earlier, same⟩
  | receive peer tag next ih =>
      cases deals with
      | here => exact ⟨_, .here _, rfl⟩
      | receive answer onward =>
          rcases ih answer onward with ⟨before, earlier, same⟩
          exact ⟨before, .receive answer earlier, same⟩

theorem deals_bind_done_iff {f : α → γ} {result : γ} :
    (e >>= fun inner => done (f inner)).Deals dealings (done result) ↔
      ∃ inner, e.Deals dealings (done inner) ∧ f inner = result := by
  constructor
  · intro deals
    induction e generalizing dealings with
    | done inner =>
        rcases deals.of_done with ⟨rfl, ended⟩
        exact ⟨inner, .here _, (done.inj ended).symm⟩
    | send peer tag message next ih =>
        cases deals with
        | send onward =>
            rcases ih onward with ⟨inner, earlier, same⟩
            exact ⟨inner, .send earlier, same⟩
    | receive peer tag next ih =>
        cases deals with
        | receive answer onward =>
            rcases ih answer onward with ⟨inner, earlier, same⟩
            exact ⟨inner, .receive answer earlier, same⟩
  · rintro ⟨inner, deals, rfl⟩
    generalize ended : done inner = rest at deals
    induction deals with
    | here =>
        cases ended
        exact .here _
    | send _ ih => exact .send (ih ended)
    | receive answer _ ih => exact .receive answer (ih ended)

/-- While one message is sent to several peers, it has been sent to the first of them. -/
theorem Deals.of_sendAll {peers : List Nat} {tag : Nat} {message : List β}
    (deals : (sendAll peers tag message next).Deals dealings rest) :
    (rest.sending = true ∧ dealings <+: peers.map fun peer => .sent peer tag message) ∨
    ∃ later, next.Deals later rest ∧
      dealings = (peers.map fun peer => .sent peer tag message) ++ later := by
  induction peers generalizing dealings with
  | nil => exact .inr ⟨dealings, deals, rfl⟩
  | cons peer others ih =>
      cases deals with
      | here => exact .inl ⟨rfl, List.nil_prefix⟩
      | send onward =>
          rcases ih onward with ⟨busy, early⟩ | ⟨later, listening, rfl⟩
          · exact .inl ⟨busy, List.cons_prefix_cons.mpr ⟨rfl, early⟩⟩
          · exact .inr ⟨later, listening, rfl⟩

end Exchange

namespace Member

variable {β : Type} {m : Member} {mine buffer : List β} {dealings : List (Dealing β)}

/-! ## Peers -/

theorem length_peers (inside : m.rank < m.size) : m.peers.length = m.size - 1 := by
  have erased : m.peers = (List.range m.size).erase m.rank := by
    rw [List.nodup_range.erase_eq_filter]
    exact List.filter_congr fun peer _ => by simp [bne, beq_eq_decide]
  rw [erased, List.length_erase_of_mem (List.mem_range.mpr inside), List.length_range]

theorem pairwise_peers (m : Member) : m.peers.Pairwise (· < ·) :=
  List.pairwise_lt_range.filter _

/-! ## Dealings of a gathering -/

/-- One message to each peer, in the order of ranks. -/
def announcements (m : Member) (mine : List β) : List (Dealing β) :=
  m.peers.map fun peer => .sent peer gatherTag mine

/-- What is heard from the first peers, in the order of ranks: at most one message from each. -/
def answered (m : Member) (answers : List (Option (List β))) : List (Dealing β) :=
  (m.peers.zip answers).map fun (peer, answer) => .received peer gatherTag answer

/-- The dealings of one gathering, as far as it has come. As long as it is sending it has heard
nothing, and when it begins to listen it has sent everything. -/
structure OneGathering (m : Member) (mine : List β) (dealings : List (Dealing β))
    (sending : Bool) : Prop where
  early : sending = true → dealings <+: m.announcements mine
  late : sending = false → ∃ answers, answers.length ≤ m.peers.length ∧
    dealings = m.announcements mine ++ m.answered answers

/-- Collecting listens to the first peers, and to nobody after a failure. -/
theorem deals_collect {width : Nat} {peers : List Nat}
    {rest : Exchange β (Except Error Unit × List β)}
    (deals : (collect width peers buffer).Deals dealings rest) :
    rest.sending = false ∧ ∃ answers : List (Option (List β)), answers.length ≤ peers.length ∧
      dealings = (peers.zip answers).map fun (peer, answer) => .received peer gatherTag answer := by
  -- By induction on the peers. Whatever a peer answers, it is heard once.
  induction peers generalizing buffer dealings with
  | nil =>
      rcases deals.of_done with ⟨rfl, rfl⟩
      exact ⟨rfl, [], Nat.le_refl _, rfl⟩
  | cons peer others ih =>
      cases deals with
      | here => exact ⟨rfl, [], Nat.zero_le _, rfl⟩
      | @receive _ _ _ _ later answer onward =>
          have listening : rest.sending = false ∧ ∃ answers : List (Option (List β)),
              answers.length ≤ others.length ∧ later = (others.zip answers).map
                fun (peer, answer) => .received peer gatherTag answer := by
            cases answer with
            | none =>
                rcases onward.of_done with ⟨rfl, rfl⟩
                exact ⟨rfl, [], Nat.zero_le _, by simp⟩
            | some message =>
                by_cases fits : message.length = width
                · simp only [fits, if_true] at onward
                  exact ih onward
                · simp only [fits, if_false] at onward
                  rcases onward.of_done with ⟨rfl, rfl⟩
                  exact ⟨rfl, [], Nat.zero_le _, by simp⟩
          rcases listening with ⟨quiet, answers, few, rfl⟩
          exact ⟨quiet, answer :: answers, Nat.succ_le_succ few, rfl⟩

theorem deals_gather (inGroup : m.alone = false) (room : buffer.length = m.size * mine.length)
    {rest : Exchange β (Except Error Unit × List β)}
    (deals : (m.gather mine buffer).Deals dealings rest) :
    m.OneGathering mine dealings rest.sending := by
  rw [gather_eq inGroup room] at deals
  rcases deals.of_sendAll with ⟨busy, early⟩ | ⟨later, onward, rfl⟩
  · exact ⟨fun _ => early, fun quiet => absurd (busy.symm.trans quiet) (by decide)⟩
  · rcases deals_collect onward with ⟨quiet, answers, few, rfl⟩
    exact ⟨fun busy => absurd (busy.symm.trans quiet) (by decide), fun _ => ⟨answers, few, rfl⟩⟩

/-- A process that gathers values sends the codes of its own, all of them to each peer. -/
theorem deals_gatherValues {α γ : Type} [Zero α] [Code α β] {values : List α}
    {f : Except Error (List α) → γ} (inGroup : m.alone = false) {rest : Exchange β γ}
    (deals : (m.gatherValues values >>= fun gathered => .done (f gathered)).Deals dealings rest) :
    m.OneGathering (Code.encodeAll values) dealings rest.sending := by
  rcases deals.of_bind_done with ⟨read, gathering, same⟩
  rw [gatherValues_eq] at gathering
  rcases gathering.of_bind_done with ⟨before, exchanged, same'⟩
  rw [same, same']
  exact deals_gather inGroup (length_room m values) exchanged

end Member
end FormAssembly
