import Mathlib.Data.List.Forall2
import FormAssembly.Proofs.Assembly.SharedBuffers

/-!
# Assembly of two forms

Two forms are assembled into one tensor. What is known of them entity by entity carries over to the
whole: if related progress stays related on every entity (`Assembly.Follows`), it does so over all
entities of a kind and over both kinds. Two assemblies that end alike (`Assembly.Ends`) show the
same to whoever looks at their reports in a certain way (`Assembly.Ends.assemble`).

What an entity does to an assembly comes from what it offers alone (`Assembly.addVisit_eq`).
-/

namespace FormAssembly
namespace Assembly

variable {τ α β γ ω : Type} [Zero α]

/-- A contribution depends on nothing of a form but its spaces and its coefficients. -/
theorem contribution_congr {form other : Form α} (spaces : form.spaces = other.spaces)
    (coefficients : form.coefficients = other.coefficients) :
    contribution form = contribution other := by
  funext mesh integral visit
  have at' : contributionAt form = contributionAt other := by
    funext integral visit coordinates
    unfold contributionAt Form.maxElementTensorSize Form.maxElementDofs
    rw [spaces, coefficients]
  unfold contribution
  rw [at']

/-- What an entity has to contribute: nothing if there is no integral for it. -/
def offer (form : Form α) (mesh : Mesh α) (visit : Visit) :
    Except Error (Option (Contribution α)) :=
  match integralOn (form.integrals.integrals visit.kind) visit.marker with
  | none => .ok none
  | some integral => (contribution form mesh integral visit).map some

omit [Zero α] in
theorem kind_of_mem_visits {form : Form α} {mesh : Mesh α} {kind : IntegralKind} {visit : Visit}
    (among : visit ∈ Pass.visits form mesh kind) : visit.kind = kind := by
  cases kind with
  | cell =>
      rcases List.mem_map.mp among with ⟨_, _, rfl⟩
      rfl
  | exteriorFacet =>
      rcases List.mem_map.mp among with ⟨_, _, rfl⟩
      rfl
  | interiorFacet => cases among
  | vertex => cases among

omit [Zero α] in
theorem mem_of_integralOn {integrals : List (Integral α)} {marker : Option Nat}
    {integral : Integral α} (found : integralOn integrals marker = some integral) :
    integral ∈ integrals := by
  unfold integralOn at found
  split at found
  · next marked =>
      obtain rfl : _ = integral := Option.some.inj found
      rcases Option.bind_eq_some_iff.mp marked with ⟨m, _, found⟩
      exact List.mem_of_find?_eq_some found
  · exact List.mem_of_find?_eq_some found

variable [Tensor τ α β]

/-- Adds what an entity offers. -/
def addOffer (offered : Except Error (Option (Contribution α))) (p : Progress τ α) :
    Except Error Bool × Progress τ α :=
  match offered with
  | .error cause => (.error cause, p)
  | .ok none => (.ok false, p)
  | .ok (some c) => ((addContribution c p).1.map fun _ => true, (addContribution c p).2)

theorem addVisit_eq (form : Form α) (mesh : Mesh α) (visit : Visit) (p : Progress τ α) :
    addVisit form mesh visit p = addOffer (offer form mesh visit) p := by
  unfold addVisit offer
  cases integralOn (form.integrals.integrals visit.kind) visit.marker with
  | none => rfl
  | some integral =>
      cases contributed : contribution form mesh integral visit <;>
        simp [contributed, addOffer, Except.map]

/-! ## Obstacles -/

section

omit [Zero α] [Tensor τ α β]

theorem map_find?_filterMap {ι κ : Type} {f : ι → Option κ} {wanted : κ → Bool} {g : κ → ω}
    (items : List ι) : ((items.filterMap f).find? wanted).map g =
      items.findSome? fun i => ((f i).filter wanted).map g := by
  induction items with
  | nil => rfl
  | cons i later ih =>
      cases there : f i with
      | none => simpa [there] using ih
      | some k =>
          by_cases hit : wanted k = true
          · simp [there, hit, Option.filter]
          · simpa [there, hit, Option.filter] using ih

/-- If there is a mesh, markers of the right dimension may as well not be there. -/
theorem misplacedMarkers?_eq {form : Form α} {mesh : Mesh α} (known : form.mesh = .ok mesh) :
    misplacedMarkers? form = IntegralKind.all.findSome? fun kind =>
      ((form.markers kind).filter fun m => m.dim ≠ kind.entityDim mesh.topologicalDim).map fun m =>
        .configuration (.markerDimension kind m.dim (kind.entityDim mesh.topologicalDim)) := by
  have whole : misplacedMarkers? form = ((installedMarkers form).find? fun entry =>
      entry.2 ≠ entry.1.entityDim mesh.topologicalDim).map fun entry =>
        .configuration (.markerDimension entry.1 entry.2
          (entry.1.entityDim mesh.topologicalDim)) := by
    unfold misplacedMarkers?
    rw [known]
    cases installedMarkers form <;> rfl
  rw [whole, installedMarkers, map_find?_filterMap]
  refine congrArg (List.findSome? · IntegralKind.all) (funext fun kind => ?_)
  rw [Option.filter_map, Option.map_map]
  rfl

theorem obstacle?_congr (form other : Form α) (ranks : form.rank = other.rank)
    (interior : form.integrals.has .interiorFacet = other.integrals.has .interiorFacet)
    (vertex : form.integrals.has .vertex = other.integrals.has .vertex)
    (unbound : form.coefficients.firstUnbound? = other.coefficients.firstUnbound?)
    (misplaced : misplacedMarkers? form = misplacedMarkers? other) (rank : Nat) :
    obstacle? form rank = obstacle? other rank := by
  simp only [obstacle?, ranks, interior, vertex, unbound, misplaced]

end

/-! ## Related progress -/

section

omit [Zero α] [Tensor τ α β]

variable {R : Progress τ α → Progress τ α → Prop}

/-- Two parts of assemblies have come to the same outcome and to related progress. -/
def Together (R : Progress τ α → Progress τ α → Prop)
    (left right : Except Error γ × Progress τ α) : Prop :=
  left.1 = right.1 ∧ R left.2 right.2

/-- From related progress, two parts of assemblies always end together. -/
def Follows (R : Progress τ α → Progress τ α → Prop)
    (f g : Progress τ α → Except Error γ × Progress τ α) : Prop :=
  ∀ p q, R p q → Together R (f p) (g q)

theorem Together.cases {left right : Except Error γ × Progress τ α} :
    Together R left right →
      (∃ cause p q, left = (.error cause, p) ∧ right = (.error cause, q) ∧ R p q) ∨
      ∃ value p q, left = (.ok value, p) ∧ right = (.ok value, q) ∧ R p q := by
  rcases left with ⟨outcome, p⟩
  rcases right with ⟨same, q⟩
  rintro ⟨rfl, related⟩
  cases outcome with
  | error cause => exact .inl ⟨cause, p, q, rfl, rfl, related⟩
  | ok value => exact .inr ⟨value, p, q, rfl, rfl, related⟩

end

section

variable {R : Progress τ α → Progress τ α → Prop} {form other : Form α}

theorem Follows.addVisits {mesh : Mesh α} {visits others : List Visit}
    (each : List.Forall₂ (fun v w => Follows R (addVisit form mesh v) (addVisit other mesh w))
      visits others) (count : Nat) :
    Follows R (addVisits form mesh visits count) (addVisits other mesh others count) := by
  -- By induction on the entities, which are visited in pairs.
  induction each generalizing count with
  | nil =>
      intro p q related
      exact ⟨rfl, related⟩
  | cons first _ ih =>
      intro p q related
      rcases (first p q related).cases with
        ⟨cause, p', q', left, right, after⟩ | ⟨added, p', q', left, right, after⟩
      · simp only [Assembly.addVisits, left, right]
        exact ⟨rfl, after⟩
      · simp only [Assembly.addVisits, left, right]
        exact ih _ p' q' after

/-- Both forms are assembled over one mesh, and what is reported at the end of a kind does not
matter for the relation. -/
theorem Follows.addKind {kind : IntegralKind}
    (has : form.integrals.has kind = other.integrals.has kind) (meshes : form.mesh = other.mesh)
    (each : ∀ mesh, form.mesh = .ok mesh →
      List.Forall₂ (fun v w => Follows R (addVisit form mesh v) (addVisit other mesh w))
        (Pass.visits form mesh kind) (Pass.visits other mesh kind))
    (reports : ∀ p q event, R p q → R { p with events := p.events ++ [event] }
      { q with events := q.events ++ [event] }) :
    Follows R (addKind form kind) (addKind other kind) := by
  intro p q related
  unfold Assembly.addKind
  rw [← has, ← meshes]
  cases form.integrals.has kind with
  | false => exact ⟨rfl, related⟩
  | true =>
      cases known : form.mesh with
      | error cause => exact ⟨rfl, related⟩
      | ok mesh =>
          rcases (Follows.addVisits (each mesh known) 0 p q related).cases with
            ⟨cause, p', q', left, right, after⟩ | ⟨count, p', q', left, right, after⟩
          · simp only [if_true, left, right]
            exact ⟨rfl, after⟩
          · simp only [if_true, left, right]
            exact ⟨rfl, reports p' q' _ after⟩

theorem Follows.addContributions (options : AssemblyOptions) {tensor : τ}
    (obstacles : obstacle? form (Tensor.rank tensor) = obstacle? other (Tensor.rank tensor))
    (cells : Follows R (Assembly.addKind form .cell) (Assembly.addKind other .cell))
    (facets : Follows R (Assembly.addKind form .exteriorFacet)
      (Assembly.addKind other .exteriorFacet))
    (start : ∀ t : τ, R ⟨t, [], []⟩ ⟨t, [], []⟩) :
    Together R (addContributions options form tensor) (addContributions options other tensor) := by
  unfold Assembly.addContributions
  rw [← obstacles]
  cases obstacle? form (Tensor.rank tensor) with
  | some cause => exact ⟨rfl, start tensor⟩
  | none =>
      let first : τ := if options.reset then Tensor.zero tensor else tensor
      show Together R (addKinds form ⟨first, [], []⟩) (addKinds other ⟨first, [], []⟩)
      rcases (cells _ _ (start first)).cases with
        ⟨cause, p, q, left, right, after⟩ | ⟨_, p, q, left, right, after⟩
      · simp only [addKinds, left, right]
        exact ⟨rfl, after⟩
      · simp only [addKinds, left, right]
        exact facets p q after

end

/-! ## Ends -/

/-- Two assemblies have come to the end of their contributions, and in a certain view of reports
there is no difference from there on. -/
inductive Ends (view : AssemblyReport τ α → ω) :
    Except Error Unit × Progress τ α → Except Error Unit × Progress τ α → Prop
  /-- Both have failed, maybe for different reasons. -/
  | error {p q : Progress τ α} {cause reason : Error} :
      view (p.report (.error cause)) = view (q.report (.error reason)) →
      Ends view (.error cause, p) (.error reason, q)
  /-- Both have the same tensor, whether it is finalized or not. -/
  | ok {p q : Progress τ α} : p.tensor = q.tensor →
      view (p.report (.ok ())) = view (q.report (.ok ())) →
      (∀ applied, view (p.conclude applied) = view (q.conclude applied)) →
      Ends view (.ok (), p) (.ok (), q)

theorem Ends.assemble {view : AssemblyReport τ α → ω} {options : AssemblyOptions}
    {form other : Form α} {tensor : τ}
    (ends : Ends view (addContributions options form tensor)
      (addContributions options other tensor)) :
    (assemble options form tensor >>= fun report => .done (view report) : Exchange β ω) =
      assemble options other tensor >>= fun report => .done (view report) := by
  generalize left : addContributions options form tensor = here at ends
  generalize right : addContributions options other tensor = there at ends
  cases ends with
  | error same =>
      rw [assemble_of_error left, assemble_of_error right]
      exact congrArg Exchange.done same
  | ok tensors unfinalized finalized =>
      rw [assemble_of_ok left, assemble_of_ok right, tensors]
      cases options.finalize with
      | false => exact congrArg Exchange.done unfinalized
      | true =>
          simp only [if_true, Exchange.bind_assoc, Exchange.bind_done]
          exact bind_congr fun applied => congrArg Exchange.done (finalized applied)

end Assembly
end FormAssembly
