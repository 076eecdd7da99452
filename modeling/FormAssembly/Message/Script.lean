import FormAssembly.Message.Exchange

/-!
# Scripted peers

To see what one process does, its peers can be replaced by a script: for each peer the answers
that it will give in turn, whatever the tag. The run keeps a transcript of all dealings.
-/

namespace FormAssembly

/-- One dealing of a process with a peer. -/
inductive Dealing (β : Type) where
  | sent (peer tag : Nat) (message : List β)
  | received (peer tag : Nat) (answer : Option (List β))
  deriving DecidableEq

/-- Answers still to come, and the dealings so far. -/
structure Script (β : Type) where
  /-- For each peer, what it will answer in turn; after that it has nothing to say. -/
  answers : Nat → List (Option (List β))
  /-- Dealings so far, oldest first. -/
  transcript : List (Dealing β)

namespace Script

variable {β : Type}

/-- Peers that never send anything. -/
def silent : Script β :=
  ⟨fun _ => [], []⟩

/-- Adds a dealing at the end of the transcript. -/
def record (s : Script β) (dealing : Dealing β) : Script β :=
  { s with transcript := s.transcript ++ [dealing] }

/-- What a peer answers next. -/
def next (s : Script β) (peer : Nat) : Option (List β) :=
  (s.answers peer).head?.join

/-- Takes the next answer of a peer off the script. -/
def consume (s : Script β) (peer : Nat) : Script β :=
  { s with answers := fun p => if p = peer then (s.answers peer).tail else s.answers p }

/-- The messages sent so far, each with its receiver and its tag. -/
def sent (s : Script β) : List (Nat × Nat × List β) :=
  s.transcript.filterMap fun
    | .sent peer tag message => some (peer, tag, message)
    | .received .. => none

end Script

namespace Exchange

variable {β α γ : Type}

/-- Runs an exchange against a script. -/
def perform : Exchange β α → Script β → α × Script β
  | done result, s => (result, s)
  | send peer tag message next, s => next.perform (s.record (.sent peer tag message))
  | receive peer tag next, s =>
      (next (s.next peer)).perform ((s.consume peer).record (.received peer tag (s.next peer)))

theorem perform_bind (e : Exchange β α) (f : α → Exchange β γ) (s : Script β) :
    (e >>= f).perform s = (f (e.perform s).1).perform (e.perform s).2 := by
  induction e generalizing s with
  | done => rfl
  | send _ _ _ _ ih => simp [perform, ih]
  | receive _ _ _ ih => simp [perform, ih]

end Exchange
end FormAssembly
