import FormAssembly.Proofs.Message.Course
import FormAssembly.Proofs.Message.Values

/-!
# Contributions of unequal lengths

Nothing keeps members from gathering contributions of different lengths. A gathering fails with the
first peer that differs (`Member.exists_gatherOutcome_of_unequal`), hears all peers up to that one
and leaves the messages of all later ones where they are (`Member.follows_gatherValues`).
-/

namespace FormAssembly
namespace Member

variable {α β : Type} {size : Nat}

/-! ## One gathering -/

theorem heard_congr {width width' : Nat} {answer : Nat → List α} {other : Nat → List β}
    (same : ∀ peer, (answer peer).length = width ↔ (other peer).length = width')
    (peers : List Nat) : heard width answer peers = heard width' other peers := by
  induction peers with
  | nil => rfl
  | cons peer later ih => simp only [heard, same, ih]

/-- All peers are heard iff all but the last answer with the right length. -/
theorem all_heard_iff {width : Nat} {answer : Nat → List α} {peers : List Nat}
    (distinct : peers.Nodup) :
    (∀ peer ∈ peers, peer ∈ heard width answer peers) ↔
      ∀ peer ∈ peers.dropLast, (answer peer).length = width := by
  induction peers with
  | nil => simp
  | cons peer later ih =>
      rcases List.nodup_cons.mp distinct with ⟨fresh, laterDistinct⟩
      cases later with
      | nil => simp [heard]
      | cons next last =>
          by_cases fits : (answer peer).length = width
          · have onward : (∀ p ∈ next :: last, p ∈ heard width answer (peer :: next :: last)) ↔
                ∀ p ∈ next :: last, p ∈ heard width answer (next :: last) := by
              refine forall₂_congr fun p among => ?_
              have other : p ≠ peer := fun same => fresh (same ▸ among)
              rw [heard, if_pos fits, List.mem_cons, or_iff_right other]
            rw [List.forall_mem_cons, onward, ih laterDistinct, List.dropLast_cons_cons,
              List.forall_mem_cons, heard, if_pos fits]
            simp [fits]
          · -- The next peer is not heard any more.
            have other : next ≠ peer := fun same => fresh (same ▸ List.mem_cons_self)
            have unheard : next ∉ heard width answer (peer :: next :: last) := by
              rw [heard, if_neg fits]
              simpa using other
            have missed :
                ¬ ∀ p ∈ peer :: next :: last, p ∈ heard width answer (peer :: next :: last) :=
              fun all => unheard (all next (by simp))
            have differs : ¬ ∀ p ∈ (peer :: next :: last).dropLast, (answer p).length = width :=
              fun all => fits (all peer (by simp))
            exact iff_of_false missed differs

variable [Code α β]

/-- What a gathering of values returns if peer `p` answers with the values `answer p`. -/
def gatherOutcome (m : Member) (mine : List α) (answer : Nat → List α) : Except Error (List α) :=
  match m.peers.find? fun peer => (answer peer).length ≠ mine.length with
  | none => .ok (inRankOrder m.size (Function.update answer m.rank mine))
  | some peer => .error (.communication (.unequal peer ((answer peer).length * Code.width α)
      (mine.length * Code.width α)))

theorem gatherOutcome_of_equal {m : Member} {mine : List α} {answer : Nat → List α}
    (equal : ∀ peer ∈ m.peers, (answer peer).length = mine.length) :
    m.gatherOutcome mine answer =
      .ok (inRankOrder m.size (Function.update answer m.rank mine)) := by
  have nobody : (m.peers.find? fun peer => (answer peer).length ≠ mine.length) = none := by
    simpa using equal
  rw [gatherOutcome, nobody]

theorem exists_gatherOutcome_of_unequal {m : Member} {mine : List α} {answer : Nat → List α}
    (unequal : ∃ peer ∈ m.peers, (answer peer).length ≠ mine.length) :
    ∃ peer < m.size, peer ≠ m.rank ∧ (answer peer).length ≠ mine.length ∧
      (∀ other < peer, other ≠ m.rank → (answer other).length = mine.length) ∧
      m.gatherOutcome mine answer = .error (.communication (.unequal peer
        ((answer peer).length * Code.width α) (mine.length * Code.width α))) := by
  cases first : m.peers.find? fun peer => (answer peer).length ≠ mine.length with
  | none =>
      rcases unequal with ⟨peer, among, differs⟩
      exact absurd differs (by simpa using List.find?_eq_none.mp first peer among)
  | some peer =>
      have found := first
      rw [peers, List.find?_filter, List.find?_range_eq_some] at found
      rcases found with ⟨differs, inRange, before⟩
      simp only [ne_eq, decide_not, Bool.not_eq_eq_eq_not, Bool.not_true, decide_eq_false_iff_not,
        decide_eq_true_eq] at differs
      refine ⟨peer, List.mem_range.mp inRange, differs.1, differs.2, ?_, ?_⟩
      · intro other below different
        simpa [different] using before other below
      · rw [gatherOutcome, first]

/-- If not all contributions are equally long, every member has a peer that differs from it. -/
theorem exists_peer_of_unequal {rank : Nat} {mine : Nat → List α}
    (unequal : ∃ p < size, ∃ q < size, (mine p).length ≠ (mine q).length) :
    ∃ peer ∈ (⟨rank, size, false⟩ : Member).peers, (mine peer).length ≠ (mine rank).length := by
  rcases unequal with ⟨p, pInside, q, qInside, differ⟩
  -- The member cannot agree with both of two that differ from each other.
  by_cases asFirst : (mine p).length = (mine rank).length
  · have notSecond : (mine q).length ≠ (mine rank).length :=
      fun same => differ (asFirst.trans same.symm)
    have other : q ≠ rank := fun same => notSecond (same ▸ rfl)
    exact ⟨q, mem_peers.mpr ⟨qInside, other⟩, notSecond⟩
  · have other : p ≠ rank := fun same => asFirst (same ▸ rfl)
    exact ⟨p, mem_peers.mpr ⟨pInside, other⟩, asFirst⟩

theorem message_unequal (peer got expected : Nat) :
    (Error.communication (.unequal peer got expected)).message =
      s!"Communication error: rank {peer} contributed {got} bytes, expected {expected}" := by
  unfold Error.message GatherFault.message
  simp only [toString, ← String.append_assoc, String.reduceAppend]

theorem length_encodeAll_eq_iff (wide : 0 < Code.width α) {values : List α} {count : Nat} :
    (Code.encodeAll values : List β).length = count * Code.width α ↔ values.length = count := by
  rw [Code.length_encodeAll]
  exact Nat.mul_left_inj (Nat.ne_of_gt wide)

/-- Messages that were collected, read back as values. -/
theorem decodeAll_collected {m : Member} (inside : m.rank < m.size) (wide : 0 < Code.width α)
    {mine : List α} {answer : Nat → List α} {room : List β}
    (fits : room.length = m.size * (mine.length * Code.width α)) :
    let outcome := collected (mine.length * Code.width α)
      (fun peer => (Code.encodeAll (answer peer) : List β)) m.peers
      (place m.rank (Code.encodeAll mine) room)
    outcome.1.map (fun _ => Code.decodeAll α (mine.length * m.size) outcome.2) =
      m.gatherOutcome mine answer := by
  intro outcome
  have own : (Code.encodeAll mine : List β).length = mine.length * Code.width α :=
    Code.length_encodeAll mine
  have verdict : outcome.1 = _ := collected_fst _ _ _ _
  simp only [ne_eq, length_encodeAll_eq_iff wide] at verdict
  unfold gatherOutcome
  cases first : m.peers.find? fun peer => decide ((answer peer).length ≠ mine.length) with
  | some peer =>
      have failed : outcome.1 = .error (.communication (.unequal peer
          ((answer peer).length * Code.width α) (mine.length * Code.width α))) := by
        rw [first] at verdict
        simpa using verdict
      rw [failed]
      rfl
  | none =>
      have equal : ∀ peer ∈ m.peers, (answer peer).length = mine.length := by
        simpa using List.find?_eq_none.mp first
      let all : Nat → List α := Function.update answer m.rank mine
      have gathered :
          outcome = (.ok (), inRankOrder m.size fun rank => Code.encodeAll (all rank)) := by
        have encoded : (fun rank => (Code.encodeAll (all rank) : List β)) =
            Function.update (fun peer => Code.encodeAll (answer peer)) m.rank
              (Code.encodeAll mine) :=
          Function.comp_update Code.encodeAll answer m.rank mine
        rw [encoded]
        exact collected_place inside fits own fun peer among =>
          (length_encodeAll_eq_iff wide).mpr (equal peer among)
      have sized : ∀ rank < m.size, (all rank).length = mine.length := by
        intro rank below
        by_cases mineOwn : rank = m.rank
        · simp [all, mineOwn]
        · simpa [all, mineOwn] using equal rank (mem_peers.mpr ⟨below, mineOwn⟩)
      rw [gathered, Nat.mul_comm]
      exact congrArg Except.ok (decodeAll_inRankOrder sized)

/-- The course of a gathering of values, given the answers of the peers. -/
theorem follows_gatherValues [Zero α] {m : Member} (inGroup : m.alone = false)
    (inside : m.rank < m.size) (wide : 0 < Code.width α) (mine : List α) (answer : Nat → List α) :
    (m.gatherValues mine : Exchange β (Except Error (List α))).Follows
      (m.peers.map fun peer => (peer, Code.encodeAll mine))
      ((heard mine.length answer m.peers).map fun peer => (peer, Code.encodeAll (answer peer)))
      (m.gatherOutcome mine answer) := by
  let width : Nat := mine.length * Code.width α
  let room : List β := Code.encodeAll (List.replicate (mine.length * m.size) (0 : α))
  have own : (Code.encodeAll mine : List β).length = width := Code.length_encodeAll mine
  have sized : room.length = m.size * (Code.encodeAll mine : List β).length := length_room m mine
  have fits : room.length = m.size * width := by rw [sized, own]
  have course := follows_gather inGroup sized fun peer => Code.encodeAll (answer peer)
  rw [own, heard_congr fun peer => length_encodeAll_eq_iff wide] at course
  rw [gatherValues_eq, ← decodeAll_collected inside wide fits]
  exact course.bind_done _

end Member
end FormAssembly
