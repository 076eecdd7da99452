import FormAssembly.Error
import FormAssembly.Message.Code
import FormAssembly.Message.Exchange

/-!
# Members of a group

A member knows its place in a group of processes, and with it how to deal with the others. The
collective operation that finalizes tensors is the gathering: every member contributes equally
many units, and every member ends up with all contributions in the order of ranks.
-/

namespace FormAssembly

/-- Place of a process in its group. -/
structure Member where
  rank : Nat
  /-- Number of processes of the group. -/
  size : Nat
  /-- Whether the process runs by itself and has no group to speak of. -/
  alone : Bool := false
  deriving DecidableEq, Repr

namespace Member

variable {β : Type}

/-- The one process of a serial run. -/
def serial : Member :=
  ⟨0, 1, true⟩

/-- The members of a group of processes, by rank. -/
def group (size : Nat) : List Member :=
  (List.range size).map fun rank => ⟨rank, size, false⟩

/-- Ranks of the other members, ascending. -/
def peers (m : Member) : List Nat :=
  (List.range m.size).filter (· ≠ m.rank)

/-! ## Single messages -/

/-- Sends a message. A process by itself has nobody to send to. -/
def send (m : Member) (peer tag : Nat) (message : List β) : Exchange β Unit :=
  if m.alone then pure () else .send peer tag message (.done ())

/-- Waits for a message, which is delivered whole. A process by itself gets none. -/
def receive (m : Member) (peer tag : Nat) : Exchange β (Option (List β)) :=
  if m.alone then pure none else .receive peer tag .done

/-! ## Gathering -/

/-- Tag of the messages of a gathering. -/
def gatherTag : Nat :=
  0xa11a

/-- Puts `chunk` in the place of rank `rank` in a buffer of equally long chunks. -/
def place (rank : Nat) (chunk buffer : List β) : List β :=
  buffer.take (rank * chunk.length) ++ chunk ++ buffer.drop ((rank + 1) * chunk.length)

/-- Takes one message of length `chunk` from each of some peers and puts it in its place. The
first peer whose message is missing or of another length ends the gathering; the messages of the
peers after it are left alone. -/
def collect (chunk : Nat) : (peers : List Nat) → (buffer : List β) →
    Exchange β (Except Error Unit × List β)
  | [], buffer => .done (.ok (), buffer)
  | peer :: rest, buffer =>
      .receive peer gatherTag fun answer =>
        match answer with
        | none => .done (.error (.communication (.silent peer)), buffer)
        | some message =>
            if message.length = chunk then collect chunk rest (place peer message buffer)
            else .done (.error (.communication (.unequal peer message.length chunk)), buffer)

/-- Gathers `mine` from all members into `buffer`, which must have room for all contributions. All
messages are sent before the first is waited for. On failure the buffer holds the contributions
that came in before. -/
def gather (m : Member) (mine buffer : List β) : Exchange β (Except Error Unit × List β) :=
  let expected := if m.alone then mine.length else m.size * mine.length
  if buffer.length ≠ expected then
    pure (.error (.communication (.room buffer.length expected)), buffer)
  else if m.alone then
    pure (.ok (), mine)
  else
    .sendAll m.peers gatherTag mine
      (collect mine.length m.peers (place m.rank mine buffer))

/-- Gathers values: the contributions of all members one after another. -/
def gatherValues {α : Type} [Code α β] [Zero α] (m : Member) (mine : List α) :
    Exchange β (Except Error (List α)) := do
  let count := mine.length * m.size
  let room := Code.encodeAll (List.replicate count (0 : α))
  let (outcome, buffer) ← m.gather (Code.encodeAll mine) room
  return outcome.map fun _ => Code.decodeAll α count buffer

end Member
end FormAssembly
