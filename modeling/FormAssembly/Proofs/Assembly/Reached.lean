import FormAssembly.Message.Script
import FormAssembly.Proofs.Assembly.SharedBuffers

/-!
# Entities that an assembly comes to

An assembly visits entities in order and ends at the first failure. `Assembly.Reaches` says that it
comes to a certain entity, and what it has done by then. If there is a failure at that entity, the
assembly ends with it (`Assembly.Reaches.assemble_of_error`); otherwise it goes on, and of the calls
made so far none is forgotten (`Assembly.Reaches.calls_prefix`).
-/

namespace FormAssembly
namespace Assembly

variable {τ α β γ δ ε : Type}

/-! ## Parts of an assembly -/

/-- Something that is done in an assembly, and more that is done around it: a failure of the part is
a failure of the whole, and the calls of the part come first in the whole. -/
structure Within (part : Except Error γ × Progress τ α) (whole : Except Error δ × Progress τ α) :
    Prop where
  fails : ∀ cause q, part = (.error cause, q) → whole = (.error cause, q)
  calls : part.2.calls <+: whole.2.calls

theorem Within.of_error (cause : Error) (q : Progress τ α) :
    Within ((.error cause, q) : Except Error γ × Progress τ α)
      ((.error cause, q) : Except Error δ × Progress τ α) := by
  refine ⟨fun _ _ failed => ?_, List.prefix_rfl⟩
  cases failed
  rfl

theorem Within.of_ok (value : γ) {q : Progress τ α} {whole : Except Error δ × Progress τ α}
    (calls : q.calls <+: whole.2.calls) : Within (.ok value, q) whole :=
  ⟨fun _ _ failed => (by cases failed), calls⟩

theorem Within.trans {first : Except Error γ × Progress τ α}
    {second : Except Error δ × Progress τ α} {third : Except Error ε × Progress τ α}
    (inner : Within first second) (outer : Within second third) : Within first third :=
  ⟨fun cause q failed => outer.fails cause q (inner.fails cause q failed),
    inner.calls.trans outer.calls⟩

variable [Zero α] [Tensor τ α β] {form : Form α} {mesh : Mesh α} {kind : IntegralKind}

omit [Zero α] in
theorem calls_addContribution (c : Contribution α) (p : Progress τ α) :
    (addContribution c p).2.calls = p.calls ++ [c.call] := by
  unfold addContribution
  cases Tensor.add p.tensor c.addend.block c.addend.rows <;> rfl

theorem calls_addVisit (form : Form α) (mesh : Mesh α) (visit : Visit) (p : Progress τ α) :
    p.calls <+: (addVisit form mesh visit p).2.calls := by
  unfold addVisit
  cases integralOn (form.integrals.integrals visit.kind) visit.marker with
  | none => exact List.prefix_rfl
  | some integral =>
      dsimp only
      cases contribution form mesh integral visit with
      | error cause => exact List.prefix_rfl
      | ok c =>
          dsimp only
          rw [calls_addContribution]
          exact List.prefix_append _ _

theorem calls_addVisits (visits : List Visit) (count : Nat) (p : Progress τ α) :
    p.calls <+: (addVisits form mesh visits count p).2.calls := by
  induction visits generalizing count p with
  | nil => exact List.prefix_rfl
  | cons visit later ih =>
      have first := calls_addVisit form mesh visit p
      unfold addVisits
      rcases visited : addVisit form mesh visit p with ⟨cause | added, q⟩
      · simpa [visited] using first
      · rw [visited] at first
        exact first.trans (ih _ q)

/-- The first of several entities. -/
theorem within_addVisits (visit : Visit) (later : List Visit) (count : Nat) (p : Progress τ α) :
    Within (addVisit form mesh visit p) (addVisits form mesh (visit :: later) count p) := by
  rcases visited : addVisit form mesh visit p with ⟨cause | added, q⟩
  · simpa only [addVisits, visited] using Within.of_error cause q
  · simp only [addVisits, visited]
    exact .of_ok added (calls_addVisits later _ q)

theorem addVisits_append {earlier later : List Visit} {count number : Nat} {start p : Progress τ α}
    (added : addVisits form mesh earlier count start = (.ok number, p)) :
    addVisits form mesh (earlier ++ later) count start = addVisits form mesh later number p := by
  induction earlier generalizing count start with
  | nil =>
      cases added
      rfl
  | cons visit others ih =>
      simp only [addVisits, List.cons_append] at added ⊢
      rcases visited : addVisit form mesh visit start with ⟨cause | whether, q⟩
      · simp [visited] at added
      · simp only [visited] at added ⊢
        exact ih added

theorem within_addKind (has : form.integrals.has kind = true) (known : form.mesh = .ok mesh)
    (p : Progress τ α) :
    Within (addVisits form mesh (Pass.visits form mesh kind) 0 p) (addKind form kind p) := by
  unfold addKind
  simp only [has, known, if_true]
  rcases addVisits form mesh (Pass.visits form mesh kind) 0 p with ⟨cause | count, q⟩
  · exact .of_error cause q
  · exact .of_ok count List.prefix_rfl

theorem calls_addKind (form : Form α) (kind : IntegralKind) (p : Progress τ α) :
    p.calls <+: (addKind form kind p).2.calls := by
  cases has : form.integrals.has kind with
  | false => simp [addKind, has]
  | true =>
      cases known : form.mesh with
      | error cause => simp [addKind, has, known]
      | ok mesh => exact (calls_addVisits _ 0 p).trans (within_addKind has known p).calls

theorem within_addKinds (form : Form α) (p : Progress τ α) :
    Within (addKind form .cell p) (addKinds form p) := by
  unfold addKinds
  rcases addKind form .cell p with ⟨cause | _, q⟩
  · exact .of_error cause q
  · exact .of_ok () (calls_addKind form .exteriorFacet q)

/-! ## Reached entities -/

/-- The assembly of a kind that starts from `start` comes to an entity of a mesh with progress
`p`. -/
structure KindReaches (form : Form α) (kind : IntegralKind) (start : Progress τ α) (mesh : Mesh α)
    (visit : Visit) (p : Progress τ α) : Prop where
  has : form.integrals.has kind = true
  known : form.mesh = .ok mesh
  added : ∃ earlier later count, Pass.visits form mesh kind = earlier ++ visit :: later ∧
    addVisits form mesh earlier 0 start = (.ok count, p)

/-- What an assembly starts from if there is no obstacle. -/
def outset (options : AssemblyOptions) (tensor : τ) : Progress τ α :=
  ⟨if options.reset then Tensor.zero tensor else tensor, [], []⟩

/-- The assembly of a form into a tensor comes to an entity of a mesh with progress `p`. -/
inductive Reaches (options : AssemblyOptions) (form : Form α) (tensor : τ) (mesh : Mesh α)
    (visit : Visit) (p : Progress τ α) : Prop
  | cell : obstacle? form (Tensor.rank tensor) = none →
      KindReaches form .cell (outset options tensor) mesh visit p →
      Reaches options form tensor mesh visit p
  | exteriorFacet {q : Progress τ α} : obstacle? form (Tensor.rank tensor) = none →
      addKind form .cell (outset options tensor) = (.ok (), q) →
      KindReaches form .exteriorFacet q mesh visit p → Reaches options form tensor mesh visit p

variable {start p q : Progress τ α} {visit : Visit} {options : AssemblyOptions} {tensor : τ}

theorem KindReaches.within (reached : KindReaches form kind start mesh visit p) :
    Within (addVisit form mesh visit p) (addKind form kind start) := by
  rcases reached.added with ⟨earlier, later, count, visits, added⟩
  have all := within_addKind reached.has reached.known start
  rw [visits, addVisits_append added] at all
  exact (within_addVisits visit later count p).trans all

theorem Reaches.within (reached : Reaches options form tensor mesh visit p) :
    Within (addVisit form mesh visit p) (addContributions options form tensor) := by
  cases reached with
  | cell free reached =>
      simp only [addContributions, free]
      exact reached.within.trans (within_addKinds form _)
  | exteriorFacet free cells reached =>
      simp only [addContributions, free]
      show Within _ (addKinds form (outset options tensor))
      rw [addKinds, cells]
      exact reached.within

/-- A failure at an entity is the end of the assembly. -/
theorem Reaches.assemble_of_error (reached : Reaches options form tensor mesh visit p)
    {cause : Error} (failed : addVisit form mesh visit p = (.error cause, q)) :
    (assemble options form tensor : Exchange β _) = .done (q.report (.error cause)) :=
  Assembly.assemble_of_error (reached.within.fails cause q failed)

/-- Whatever the peers answer, calls that have been made are reported. -/
theorem Reaches.calls_prefix (reached : Reaches options form tensor mesh visit p)
    (script : Script β) :
    (addVisit form mesh visit p).2.calls <+:
      ((assemble options form tensor : Exchange β _).perform script).1.calls := by
  have calls := reached.within.calls
  rcases added : addContributions options form tensor with ⟨cause | _, last⟩
  · rw [added] at calls
    rw [Assembly.assemble_of_error added]
    exact calls
  · rw [added] at calls
    rw [assemble_of_ok added]
    cases options.finalize with
    | false => exact calls
    | true =>
        simp only [if_true, Exchange.perform_bind]
        rcases ((Tensor.apply last.tensor options.mode : Exchange β _).perform script).1 with
          ⟨_ | _, events⟩ <;> exact calls

end Assembly
end FormAssembly
