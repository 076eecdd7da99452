/-!
# Exchanges

An `Exchange β α` is what one process does with its peers until it has a result of type `α`: it
sends messages, sequences of units of type `β`, and asks for messages. It is data. Who answers is
decided by who runs it: a script (`Message.Script`) or the other processes of a group
(`Message.World`).
-/

namespace FormAssembly

/-- Dealings of one process with its peers. -/
inductive Exchange (β : Type) (α : Type) where
  /-- All is done. -/
  | done (result : α)
  /-- Send a message, which never blocks. -/
  | send (peer tag : Nat) (message : List β) (next : Exchange β α)
  /-- Wait for a message. A peer that will never send one answers `none`. -/
  | receive (peer tag : Nat) (next : Option (List β) → Exchange β α)

namespace Exchange

variable {β α γ δ : Type}

/-! ## Sequencing -/

/-- First one exchange, then another that depends on its result. -/
def bind : Exchange β α → (α → Exchange β γ) → Exchange β γ
  | done result, f => f result
  | send peer tag message next, f => .send peer tag message (next.bind f)
  | receive peer tag next, f => .receive peer tag fun answer => (next answer).bind f

instance : Monad (Exchange β) where
  pure := done
  bind := bind

@[simp] theorem pure_eq (result : α) : (pure result : Exchange β α) = done result :=
  rfl

@[simp] theorem bind_done (result : α) (f : α → Exchange β γ) : (done result >>= f) = f result :=
  rfl

@[simp] theorem bind_send (peer tag : Nat) (message : List β) (next : Exchange β α)
    (f : α → Exchange β γ) :
    (send peer tag message next >>= f) = send peer tag message (next >>= f) :=
  rfl

@[simp] theorem bind_receive (peer tag : Nat) (next : Option (List β) → Exchange β α)
    (f : α → Exchange β γ) :
    (receive peer tag next >>= f) = receive peer tag fun answer => next answer >>= f :=
  rfl

theorem bind_pure (e : Exchange β α) : (e >>= done) = e := by
  induction e with
  | done => rfl
  | send _ _ _ _ ih => simp [ih]
  | receive _ _ _ ih => simp [ih]

theorem bind_assoc (e : Exchange β α) (f : α → Exchange β γ) (g : γ → Exchange β δ) :
    (e >>= f >>= g) = e >>= fun result => f result >>= g := by
  induction e with
  | done => rfl
  | send _ _ _ _ ih => simp [ih]
  | receive _ _ _ ih => simp [ih]

instance : LawfulMonad (Exchange β) :=
  LawfulMonad.mk' (Exchange β) bind_pure (fun _ _ => rfl) bind_assoc

/-- Sends one message to several peers, then goes on. -/
def sendAll (peers : List Nat) (tag : Nat) (message : List β) (next : Exchange β α) :
    Exchange β α :=
  peers.foldr (fun peer rest => .send peer tag message rest) next

/-! ## Progress -/

/-- `Continues rest e` means that `rest` is what remains of `e` after its first dealing. -/
inductive Continues : Exchange β α → Exchange β α → Prop
  | send (peer tag : Nat) (message : List β) (next : Exchange β α) :
      Continues next (.send peer tag message next)
  | receive (peer tag : Nat) (next : Option (List β) → Exchange β α)
      (answer : Option (List β)) : Continues (next answer) (.receive peer tag next)

theorem acc_continues (e : Exchange β α) : Acc Continues e := by
  induction e with
  | done => exact ⟨_, fun _ h => nomatch h⟩
  | send _ _ _ _ ih =>
      refine ⟨_, fun rest h => ?_⟩
      cases h
      exact ih
  | receive _ _ _ ih =>
      refine ⟨_, fun rest h => ?_⟩
      cases h
      exact ih _

/-- No exchange goes on for ever. -/
theorem wellFounded_continues : WellFounded (@Continues β α) :=
  ⟨acc_continues⟩

end Exchange
end FormAssembly
