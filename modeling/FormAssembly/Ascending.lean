/-!
# Lists in strictly ascending order of a key

A finite map from a numeric key is kept as the list of its entries, sorted strictly by key. Two
such lists with the same lookups are equal, so the order in which entries arrived leaves no trace.

Main statements: `sorted_insert`, `find?_insert` and `ext_of_find?`.
-/

namespace FormAssembly
namespace Ascending

variable {ε : Type} (key : ε → Nat)

/-- Each entry has a smaller key than all entries after it. -/
def Sorted (entries : List ε) : Prop :=
  entries.Pairwise fun x y => key x < key y

/-- The entry with key `k`. -/
def find? (k : Nat) (entries : List ε) : Option ε :=
  entries.find? fun x => key x == k

/-- Puts `x` at its place; an entry with the same key gives way to it. -/
def insert (x : ε) : List ε → List ε
  | [] => [x]
  | y :: rest =>
      if key x < key y then x :: y :: rest
      else if key x = key y then x :: rest
      else y :: insert x rest

variable {key}

theorem mem_insert {x z : ε} {entries : List ε} (h : z ∈ insert key x entries) :
    z = x ∨ z ∈ entries := by
  induction entries with
  | nil => simpa [insert] using h
  | cons y rest ih =>
      simp only [insert] at h
      split at h
      · simpa using h
      · split at h
        · rcases List.mem_cons.mp h with rfl | hz
          · exact Or.inl rfl
          · exact Or.inr (List.mem_cons_of_mem _ hz)
        · rcases List.mem_cons.mp h with rfl | hz
          · exact Or.inr List.mem_cons_self
          · exact (ih hz).imp id (List.mem_cons_of_mem _)

theorem sorted_insert (x : ε) {entries : List ε} (sorted : Sorted key entries) :
    Sorted key (insert key x entries) := by
  induction entries with
  | nil => simp [insert, Sorted]
  | cons y rest ih =>
      obtain ⟨above, tail⟩ := List.pairwise_cons.mp sorted
      simp only [insert]
      split
      next less =>
        refine List.pairwise_cons.mpr ⟨fun z hz => ?_, sorted⟩
        rcases List.mem_cons.mp hz with rfl | hz
        · exact less
        · exact Nat.lt_trans less (above z hz)
      next notLess =>
        split
        next same =>
          exact List.pairwise_cons.mpr ⟨fun z hz => same ▸ above z hz, tail⟩
        next different =>
          refine List.pairwise_cons.mpr ⟨fun z hz => ?_, ih tail⟩
          rcases mem_insert hz with rfl | hz
          · omega
          · exact above z hz

theorem find?_insert (x : ε) (k : Nat) (entries : List ε) :
    find? key k (insert key x entries) =
      if key x = k then some x else find? key k entries := by
  induction entries with
  | nil => by_cases h : key x = k <;> simp [insert, find?, h]
  | cons y rest ih =>
      simp only [insert]
      split
      next => by_cases h : key x = k <;> simp [find?, h]
      next =>
        split
        next same =>
          by_cases h : key x = k
          · simp [find?, h]
          · simp [find?, h, same ▸ h]
        next different =>
          simp only [find?] at ih
          by_cases h : key x = k
          · have hy : ¬ key y = k := fun hy => different (h.trans hy.symm)
            simp [find?, hy, ih, h]
          · by_cases hy : key y = k <;> simp [find?, hy, ih, h]

theorem mem_of_find?_eq_some {k : Nat} {x : ε} {entries : List ε}
    (found : find? key k entries = some x) : x ∈ entries ∧ key x = k :=
  ⟨List.mem_of_find?_eq_some found, by simpa using List.find?_some found⟩

theorem find?_key_eq_some {x : ε} {entries : List ε} (sorted : Sorted key entries)
    (member : x ∈ entries) : find? key (key x) entries = some x := by
  induction entries with
  | nil => cases member
  | cons y rest ih =>
      obtain ⟨above, tail⟩ := List.pairwise_cons.mp sorted
      rcases List.mem_cons.mp member with rfl | later
      · simp [find?]
      · have : key y ≠ key x := Nat.ne_of_lt (above x later)
        have := ih tail later
        simp_all [find?]

/-- Sorted lists are determined by their lookups. -/
theorem ext_of_find? {left right : List ε} (hl : Sorted key left) (hr : Sorted key right)
    (same : ∀ k, find? key k left = find? key k right) : left = right := by
  have transfer : ∀ {x : ε} {a b : List ε}, Sorted key a →
      (∀ k, find? key k a = find? key k b) → x ∈ a → x ∈ b := by
    intro x a b ha agree hx
    exact (mem_of_find?_eq_some ((agree _).symm.trans (find?_key_eq_some ha hx))).1
  induction left generalizing right with
  | nil =>
      cases right with
      | nil => rfl
      | cons y rest =>
          exact absurd (transfer hr (fun k => (same k).symm) List.mem_cons_self) (by simp)
  | cons x xs ih =>
      cases right with
      | nil => exact absurd (transfer hl same List.mem_cons_self) (by simp)
      | cons y ys =>
          obtain ⟨aboveX, tailX⟩ := List.pairwise_cons.mp hl
          obtain ⟨aboveY, tailY⟩ := List.pairwise_cons.mp hr
          have headEq : x = y := by
            rcases List.mem_cons.mp (transfer hl same List.mem_cons_self) with h | h
            · exact h
            · rcases List.mem_cons.mp
                (transfer hr (fun k => (same k).symm) List.mem_cons_self) with h' | h'
              · exact h'.symm
              · exact absurd (aboveX y h') (Nat.lt_asymm (aboveY x h))
          subst headEq
          refine congrArg (x :: ·) (ih tailX tailY fun k => ?_)
          by_cases hk : key x = k
          · have none_of : ∀ {zs : List ε}, (∀ z ∈ zs, key x < key z) →
                find? key k zs = none := by
              intro zs above
              refine List.find?_eq_none.mpr fun z hz => ?_
              have := above z hz
              simp only [beq_iff_eq]
              omega
            rw [none_of aboveX, none_of aboveY]
          · simpa [find?, hk] using same k

end Ascending
end FormAssembly
