/-!
# Mailboxes

The processes of one group share a mailbox. A message lies there under its route, and messages of
one route are taken in the order in which they were posted.
-/

namespace FormAssembly

/-- Where a message goes: from one rank to another, under a tag. -/
structure Route where
  source : Nat
  destination : Nat
  tag : Nat
  deriving DecidableEq, Repr

/-- A message on its route. -/
structure Parcel (β : Type) where
  route : Route
  message : List β

/-- The parcels that have not been taken, in the order of posting. -/
structure Mailbox (β : Type) where
  parcels : List (Parcel β)

namespace Mailbox

variable {β : Type}

def empty : Mailbox β :=
  ⟨[]⟩

/-- Adds a message at the end of its route's queue. -/
def post (box : Mailbox β) (route : Route) (message : List β) : Mailbox β :=
  ⟨box.parcels ++ [⟨route, message⟩]⟩

/-- Messages waiting on a route, oldest first. -/
def queue (box : Mailbox β) (route : Route) : List (List β) :=
  (box.parcels.filter fun parcel => parcel.route = route).map (·.message)

/-- Takes the first parcel of a route out of a list. -/
def takeFrom (route : Route) : List (Parcel β) → Option (List β × List (Parcel β))
  | [] => none
  | parcel :: rest =>
      if parcel.route = route then some (parcel.message, rest)
      else (takeFrom route rest).map fun (message, others) => (message, parcel :: others)

/-- Takes the oldest message of a route. -/
def take? (box : Mailbox β) (route : Route) : Option (List β × Mailbox β) :=
  (takeFrom route box.parcels).map fun (message, rest) => (message, ⟨rest⟩)

@[simp] theorem queue_empty (route : Route) : (empty : Mailbox β).queue route = [] :=
  rfl

theorem queue_post (box : Mailbox β) (route other : Route) (message : List β) :
    (box.post route message).queue other =
      box.queue other ++ if route = other then [message] else [] := by
  by_cases h : route = other <;> simp [queue, post, h]

private theorem queueOf_takeFrom (route : Route) (parcels : List (Parcel β)) :
    match takeFrom route parcels with
    | none => (⟨parcels⟩ : Mailbox β).queue route = []
    | some (message, rest) =>
        (⟨parcels⟩ : Mailbox β).queue route = message :: (⟨rest⟩ : Mailbox β).queue route ∧
        ∀ other, other ≠ route →
          (⟨rest⟩ : Mailbox β).queue other = (⟨parcels⟩ : Mailbox β).queue other := by
  induction parcels with
  | nil => rfl
  | cons parcel rest ih =>
      simp only [takeFrom]
      by_cases h : parcel.route = route
      · simp only [h, if_true]
        refine ⟨by simp [queue, h], fun other different => ?_⟩
        have : ¬ route = other := fun same => different same.symm
        simp [queue, h, this]
      · simp only [h, if_false]
        cases taken : takeFrom route rest with
        | none =>
            rw [taken] at ih
            simpa [queue, h] using ih
        | some found =>
            obtain ⟨message, others⟩ := found
            rw [taken] at ih
            refine ⟨by simpa [queue, h] using ih.1, fun other different => ?_⟩
            have := ih.2 other different
            simp only [queue] at this
            by_cases ho : parcel.route = other <;> simp [queue, ho, this]

/-- Nothing can be taken iff the queue is empty. -/
theorem take?_eq_none_iff {box : Mailbox β} {route : Route} :
    box.take? route = none ↔ box.queue route = [] := by
  have := queueOf_takeFrom route box.parcels
  unfold take?
  cases h : takeFrom route box.parcels with
  | none =>
      rw [h] at this
      simpa using this
  | some found =>
      rw [h] at this
      obtain ⟨first, _⟩ := this
      simp [first]

/-- What is taken is the head of the queue, whose tail stays. -/
theorem queue_of_take? {box rest : Mailbox β} {route : Route} {message : List β}
    (taken : box.take? route = some (message, rest)) :
    box.queue route = message :: rest.queue route ∧
      ∀ other, other ≠ route → rest.queue other = box.queue other := by
  have := queueOf_takeFrom route box.parcels
  unfold take? at taken
  cases h : takeFrom route box.parcels with
  | none => simp [h] at taken
  | some found =>
      rw [h] at this taken
      simp only [Option.map_some, Option.some.injEq, Prod.mk.injEq] at taken
      obtain ⟨rfl, rfl⟩ := taken
      exact this

end Mailbox
end FormAssembly
