import FormAssembly.Proofs.Message.Lockstep

/-!
# Gathering values

Values travel as their codes and are read back as they were. So members that gather values, equally
many in each round, gather contributions of one length (`Lockstep.ofValues`).
-/

namespace FormAssembly

variable {α β γ : Type} [Zero α] [Code α β]

namespace Member

/-- A gathering of values is a gathering of their codes. -/
theorem gatherValues_eq (m : Member) (mine : List α) :
    (m.gatherValues mine : Exchange β (Except Error (List α))) =
      (m.gather (Code.encodeAll mine)
          (Code.encodeAll (List.replicate (mine.length * m.size) (0 : α))) >>=
        fun outcome => .done (outcome.1.map fun _ =>
          Code.decodeAll α (mine.length * m.size) outcome.2)) :=
  rfl

/-- A gathering of values has room for the codes of all members. -/
theorem length_room (m : Member) (mine : List α) :
    (Code.encodeAll (List.replicate (mine.length * m.size) (0 : α)) : List β).length =
      m.size * (Code.encodeAll mine : List β).length := by
  simp [Nat.mul_comm mine.length, Nat.mul_assoc]

theorem gatherValues_of_one (mine : List α) :
    ((⟨0, 1, false⟩ : Member).gatherValues mine : Exchange β (Except Error (List α))) =
      .done (.ok mine) := by
  -- Room for one contribution, which is the own one.
  have room : (Code.encodeAll (List.replicate (mine.length * 1) (0 : α)) : List β).length =
      (Code.encodeAll mine : List β).length := by
    simp
  rw [gatherValues_eq, gather_of_one room, Exchange.bind_done, Nat.mul_one, Except.map,
    Code.decodeAll_encodeAll]

end Member

/-- Calls of the members of a group, each of which gathers `len` values from each of them. -/
def Lockstep.ofValues (size count len : Nat) (call : (round rank : Nat) → γ → Exchange β γ)
    (state : (round rank : Nat) → γ) (values : (round rank : Nat) → List α)
    (finish : (round rank : Nat) → Except Error (List α) → γ)
    (same : ∀ round < count, ∀ rank < size, (values round rank).length = len)
    (enters : ∀ round < count, ∀ rank < size, call round rank (state round rank) =
      ((⟨rank, size, false⟩ : Member).gatherValues (values round rank) >>=
        fun gathered => .done (finish round rank gathered)))
    (leaves : ∀ round < count, ∀ rank < size,
      finish round rank (.ok (inRankOrder size (values round))) = state (round + 1) rank) :
    Lockstep β γ where
  size := size
  count := count
  call := call
  state := state
  width _ := len * Code.width α
  contribution round rank := Code.encodeAll (values round rank)
  buffer _ _ := Code.encodeAll (List.replicate (len * size) (0 : α))
  conclude round rank outcome :=
    finish round rank (outcome.1.map fun _ => Code.decodeAll α (len * size) outcome.2)
  length_contribution round early rank inside := by
    rw [Code.length_encodeAll, same round early rank inside]
  length_buffer _ _ _ _ := by
    rw [Code.length_encodeAll, List.length_replicate, Nat.mul_comm len size, Nat.mul_assoc]
  call_state round early rank inside := by
    rw [enters round early rank inside, Member.gatherValues_eq, Exchange.bind_assoc,
      same round early rank inside]
    rfl
  conclude_gathered round early rank inside := by
    -- What was encoded rank by rank is read back as one list.
    have read : Code.decodeAll α (len * size)
        (inRankOrder size fun source => (Code.encodeAll (values round source) : List β)) =
        inRankOrder size (values round) := by
      rw [Nat.mul_comm]
      exact decodeAll_inRankOrder (same round early)
    rw [← leaves round early rank inside, ← read]
    rfl

end FormAssembly
