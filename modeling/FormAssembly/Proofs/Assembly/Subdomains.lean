import FormAssembly.Message.Script
import FormAssembly.Proofs.Assembly.TwoForms
import FormAssembly.Tensor.Dense
import FormAssembly.Tensor.Scalar

/-!
# Integrals split over subdomains

An integral that is for no subdomain in particular may be split: copies of it are declared for some
subdomains, and it stays for the other entities or, if there are none, is dropped (`Form.Split`). If
the kernel ignores the marker that it is called with, each entity contributes what it did, so the
same blocks are added in the same order (`Assembly.assemble_split`).
-/

namespace FormAssembly

variable {τ α β : Type}

/-! ## Apart from markers -/

/-- A kernel that does the same in every subdomain. -/
def Kernel.IgnoresMarker (kernel : Kernel α) : Prop :=
  ∀ {n : Nat} (block : Vector α n) (coefficients : Array α) (geometry : Geometry α)
    (marker other : Option Nat),
    kernel.tabulate block coefficients geometry marker =
      kernel.tabulate block coefficients geometry other

/-- A call, apart from the marker that was passed on. -/
def KernelCall.unmarked (call : KernelCall α) : KernelCall α :=
  { call with marker := none }

/-- A contribution, apart from the marker that the kernel was called with. -/
def Contribution.unmarked (c : Contribution α) : Contribution α :=
  { c with call := c.call.unmarked }

/-- How an assembly ended, apart from the markers that kernels were called with and from what was
reported. -/
def AssemblyReport.unmarked (report : AssemblyReport τ α) : AssemblyReport τ α :=
  { report with calls := report.calls.map KernelCall.unmarked, events := [] }

/-- Two assemblies have come to one tensor, with the same calls apart from markers. -/
structure Progress.SameUnmarked (p q : Progress τ α) : Prop where
  tensor : p.tensor = q.tensor
  calls : p.calls.map KernelCall.unmarked = q.calls.map KernelCall.unmarked

namespace Progress.SameUnmarked

variable [Tensor τ α β] {p q : Progress τ α}

theorem report (same : p.SameUnmarked q) (outcome : Except Error Unit) :
    (p.report outcome).unmarked = (q.report outcome).unmarked := by
  cases outcome <;> simp [Progress.report, AssemblyReport.unmarked, same.tensor, same.calls]

theorem conclude (same : p.SameUnmarked q) (applied : Reported (Except Error τ)) :
    (p.conclude applied).unmarked = (q.conclude applied).unmarked := by
  rcases applied with ⟨_ | tensor, events⟩ <;>
    simp [Progress.conclude, Progress.report, AssemblyReport.unmarked, same.tensor, same.calls]

end Progress.SameUnmarked

/-! ## Forms -/

/-- An integral is the only one of its kind in a form, for no subdomain in particular. Another form
has copies of it instead, for distinct subdomains, and on every entity there is one to evaluate:
either there is a copy for no subdomain in particular, or each entity is in the subdomain of some
copy. Markers of the entities may be installed in either form, and are of the right dimension. For
the rest the forms have the same to assemble. -/
structure Form.Split (kind : IntegralKind) (whole : Integral α) (form split : Form α) : Prop where
  spaces : split.spaces = form.spaces
  ownMesh : split.ownMesh = form.ownMesh
  coefficients : split.coefficients = form.coefficients
  otherIntegrals : ∀ other ≠ kind,
    split.integrals.integrals other = form.integrals.integrals other
  otherMarkers : ∀ other ≠ kind, split.markers other = form.markers other
  unmarked : whole.subdomain = none
  only : form.integrals.integrals kind = [whole]
  copies : ∀ copy ∈ split.integrals.integrals kind,
    copy.kernel = whole.kernel ∧ copy.mask = whole.mask
  placed : ∀ markers, form.markers kind = some markers ∨ split.markers kind = some markers →
    ∃ mesh, form.mesh = .ok mesh ∧ markers.dim = kind.entityDim mesh.topologicalDim
  covered : (split.integrals.find? kind none).isSome ∨ ∃ mesh, form.mesh = .ok mesh ∧
    ∀ visit ∈ Pass.visits split mesh kind, ∃ m, visit.marker = some m ∧
      (split.integrals.find? kind (some m)).isSome

namespace Form.Split

variable {kind : IntegralKind} {whole : Integral α} {form split : Form α}

theorem mesh_eq (parts : Form.Split kind whole form split) : split.mesh = form.mesh := by
  simp only [Form.mesh, parts.spaces, parts.ownMesh]

theorem has_eq (parts : Form.Split kind whole form split) {other : IntegralKind}
    (apart : other ≠ kind) : split.integrals.has other = form.integrals.has other := by
  simp only [IntegralSet.has, parts.otherIntegrals other apart]

theorem misplacedMarkers?_eq (parts : Form.Split kind whole form split) :
    Assembly.misplacedMarkers? split = Assembly.misplacedMarkers? form := by
  cases known : form.mesh with
  | error cause =>
      -- Without a mesh there are no markers for the kind, so the forms have the same markers.
      have bare : ∀ markers, ¬ (form.markers kind = some markers ∨
          split.markers kind = some markers) := by
        intro markers installed
        rcases parts.placed markers installed with ⟨mesh, there, _⟩
        cases known.symm.trans there
      have markers : split.markers = form.markers := by
        funext other
        by_cases apart : other = kind
        · subst apart
          rw [Option.eq_none_iff_forall_ne_some.mpr fun m here => bare m (.inl here),
            Option.eq_none_iff_forall_ne_some.mpr fun m here => bare m (.inr here)]
        · exact parts.otherMarkers other apart
      simp only [Assembly.misplacedMarkers?, Assembly.installedMarkers, markers, parts.mesh_eq]
  | ok mesh =>
      have right : ∀ markers, form.markers kind = some markers ∨
          split.markers kind = some markers →
            ¬ (decide (markers.dim ≠ kind.entityDim mesh.topologicalDim)) = true := by
        intro markers installed
        rcases parts.placed markers installed with ⟨same, there, dim⟩
        cases known.symm.trans there
        simp [dim]
      rw [Assembly.misplacedMarkers?_eq known,
        Assembly.misplacedMarkers?_eq (parts.mesh_eq.trans known)]
      refine congrArg (List.findSome? · IntegralKind.all) (funext fun other => ?_)
      by_cases apart : other = kind
      · subst apart
        rw [Option.filter_eq_none_iff.mpr fun m here => right m (.inl here),
          Option.filter_eq_none_iff.mpr fun m here => right m (.inr here)]
      · rw [parts.otherMarkers other apart]

/-- On every entity of the kind some copy is to be evaluated. -/
theorem exists_copy (parts : Form.Split kind whole form split) {mesh : Mesh α}
    (known : form.mesh = .ok mesh) {visit : Visit} (among : visit ∈ Pass.visits split mesh kind) :
    ∃ copy ∈ split.integrals.integrals kind,
      Assembly.integralOn (split.integrals.integrals kind) visit.marker = some copy := by
  have chosen : (split.integrals.integralFor kind visit.marker).isSome := by
    unfold IntegralSet.integralFor
    rw [Option.isSome_or, IntegralSet.default?_eq_find?]
    rcases parts.covered with default | ⟨same, there, covered⟩
    · simp [default]
    · cases known.symm.trans there
      rcases covered visit among with ⟨m, marked, found⟩
      simp [marked, found]
  rcases Option.isSome_iff_exists.mp chosen with ⟨copy, found⟩
  rw [IntegralSet.integralFor_eq] at found
  exact ⟨copy, Assembly.mem_of_integralOn found, found⟩

end Form.Split

namespace Assembly

/-! ## Contributions -/

/-- Two visits to one entity, which may have a marker in one form and another or none in the
other. -/
structure SameEntity (v w : Visit) : Prop where
  kind : w.kind = v.kind
  cell : w.cell = v.cell
  localFacet : w.localFacet = v.localFacet

variable {kind : IntegralKind} {whole copy : Integral α} {form split : Form α} {mesh : Mesh α}
  {v w : Visit}

theorem enabledValues_of_copy (mask : copy.mask = whole.mask) (cell : PointId)
    (coordinates : Array α) (entries : List (CoefficientSlot α × Nat)) :
    enabledValues copy cell coordinates entries = enabledValues whole cell coordinates entries := by
  simp only [enabledValues, Integral.usesCoefficient, mask]

variable [Zero α]

theorem evaluate_of_copy (ignores : whole.kernel.IgnoresMarker)
    (kernel : copy.kernel = whole.kernel) (same : SameEntity v w)
    (coordinates coefficients : Array α) (rows : List (List Nat)) :
    (evaluate copy w coordinates coefficients rows).unmarked =
      (evaluate whole v coordinates coefficients rows).unmarked := by
  have block := ignores (.replicate (Block.size rows) 0) coefficients ⟨coordinates, v.localFacet⟩
    w.marker v.marker
  simp only [evaluate, Contribution.unmarked, KernelCall.unmarked, kernel, same.localFacet, block]

theorem contribution_of_copy (mesh : Mesh α) (parts : Form.Split kind whole form split)
    (ignores : whole.kernel.IgnoresMarker) (among : copy ∈ split.integrals.integrals kind)
    (same : SameEntity v w) :
    (contribution split mesh copy w).map Contribution.unmarked =
      (contribution form mesh whole v).map Contribution.unmarked := by
  rcases parts.copies copy among with ⟨kernel, mask⟩
  have evaluated := evaluate_of_copy ignores kernel same
  simp only [contribution, contributionAt, Form.maxElementTensorSize, Form.maxElementDofs,
    parts.spaces, parts.coefficients, same.cell, enabledValues_of_copy mask]
  cases mesh.cellCoordinates v.cell with
  | error cause => rfl
  | ok coordinates =>
      cases form.spaces.mapM fun space => space.cellDofs v.cell with
      | error cause => rfl
      | ok rows =>
          by_cases large : Block.volume (form.spaces.map (·.maxElementDofs)) < Block.size rows
          · simp [large, bind, Except.bind, throw, throwThe, MonadExceptOf.throw]
          · cases values : enabledValues whole v.cell coordinates form.coefficients.slots.zipIdx <;>
              simp [large, values, bind, Except.bind, pure, Except.pure, Except.map, evaluated]

/-- On an entity of the split kind the same is offered, apart from the marker. -/
theorem offer_of_copy (parts : Form.Split kind whole form split)
    (ignores : whole.kernel.IgnoresMarker) (known : form.mesh = .ok mesh)
    (ofKind : v.kind = kind) (among : w ∈ Pass.visits split mesh kind) (same : SameEntity v w) :
    (offer split mesh w).map (Option.map Contribution.unmarked) =
      (offer form mesh v).map (Option.map Contribution.unmarked) := by
  rcases parts.exists_copy known among with ⟨copy, ofSplit, chosen⟩
  have only : integralOn [whole] v.marker = some whole := by
    cases v.marker <;> simp [integralOn, parts.unmarked]
  have contributed := contribution_of_copy mesh parts ignores ofSplit same
  unfold offer
  rw [same.kind, ofKind, parts.only, only, chosen]
  dsimp only
  cases left : contribution split mesh copy w <;> cases right : contribution form mesh whole v <;>
    simp_all [Except.map]

/-- On an entity of another kind the same is offered. -/
theorem offer_of_otherKind (parts : Form.Split kind whole form split) (apart : v.kind ≠ kind) :
    offer split mesh v = offer form mesh v := by
  unfold offer
  rw [contribution_congr parts.spaces parts.coefficients, parts.otherIntegrals v.kind apart]

variable [Tensor τ α β]

omit [Zero α] in
/-- What is offered is added in the same way, whatever the markers are. -/
theorem follows_addOffer {offered other : Except Error (Option (Contribution α))}
    (same : other.map (Option.map Contribution.unmarked) =
      offered.map (Option.map Contribution.unmarked)) :
    Follows (Progress.SameUnmarked : Progress τ α → Progress τ α → Prop)
      (addOffer other) (addOffer offered) := by
  intro p q before
  cases offered with
  | error cause =>
      cases other with
      | ok _ => cases same
      | error reason =>
          cases same
          exact ⟨rfl, before⟩
  | ok offered =>
      cases other with
      | error _ => cases same
      | ok other =>
          have contributions : other.map Contribution.unmarked =
              offered.map Contribution.unmarked :=
            Except.ok.inj same
          cases offered with
          | none =>
              cases Option.map_eq_none_iff.mp contributions
              exact ⟨rfl, before⟩
          | some c =>
              rcases Option.map_eq_some_iff.mp contributions with ⟨d, rfl, twins⟩
              have addends : d.addend = c.addend := congrArg (fun e => e.addend) twins
              have calls : d.call.unmarked = c.call.unmarked := congrArg (fun e => e.call) twins
              have after : (p.calls ++ [d.call]).map KernelCall.unmarked =
                  (q.calls ++ [c.call]).map KernelCall.unmarked := by
                simp [before.calls, calls]
              simp only [addOffer, addContribution, addends, before.tensor]
              cases Tensor.add q.tensor c.addend.block c.addend.rows with
              | error cause => exact ⟨rfl, rfl, after⟩
              | ok sum => exact ⟨rfl, rfl, after⟩

/-! ## All entities -/

omit [Zero α] [Tensor τ α β] in
/-- The entities of a kind are visited in the same order, whatever their markers are. -/
theorem forall₂_visits (form split : Form α) (mesh : Mesh α) (kind : IntegralKind) :
    List.Forall₂ (fun w v => w ∈ Pass.visits split mesh kind ∧ v.kind = kind ∧ SameEntity v w)
      (Pass.visits split mesh kind) (Pass.visits form mesh kind) := by
  cases kind with
  | cell =>
      refine List.forall₂_map_left_iff.mpr (List.forall₂_map_right_iff.mpr ?_)
      exact List.forall₂_same.mpr fun cell among => ⟨List.mem_map_of_mem among, rfl, rfl, rfl, rfl⟩
  | exteriorFacet =>
      refine List.forall₂_map_left_iff.mpr (List.forall₂_map_right_iff.mpr ?_)
      exact List.forall₂_same.mpr fun f among => ⟨List.mem_map_of_mem among, rfl, rfl, rfl, rfl⟩
  | interiorFacet => exact .nil
  | vertex => exact .nil

theorem follows_addKind (parts : Form.Split kind whole form split)
    (ignores : whole.kernel.IgnoresMarker) :
    Follows (Progress.SameUnmarked : Progress τ α → Progress τ α → Prop)
      (addKind split kind) (addKind form kind) := by
  have formHas : form.integrals.has kind = true := by simp [IntegralSet.has, parts.only]
  cases splitHas : split.integrals.has kind with
  | true =>
      refine Follows.addKind (splitHas.trans formHas.symm) parts.mesh_eq ?_ fun _ _ _ same => ?_
      · intro mesh known
        refine (forall₂_visits form split mesh kind).imp fun w v => ?_
        rintro ⟨among, ofKind, same⟩ p q before
        rw [addVisit_eq, addVisit_eq]
        exact follows_addOffer (offer_of_copy parts ignores (parts.mesh_eq ▸ known) ofKind among
          same) p q before
      · exact ⟨same.tensor, same.calls⟩
  | false =>
      -- All entities are in the subdomain of some copy, but there is none: there are no entities.
      have noCopies : split.integrals.integrals kind = [] := by
        simpa [IntegralSet.has] using splitHas
      have noEntities : ∃ mesh, form.mesh = .ok mesh ∧ Pass.visits form mesh kind = [] := by
        rcases parts.covered with default | ⟨mesh, known, covered⟩
        · simp [IntegralSet.find?, noCopies, Ascending.find?] at default
        · refine ⟨mesh, known, ?_⟩
          have none : Pass.visits split mesh kind = [] := by
            refine List.eq_nil_iff_forall_not_mem.mpr fun visit among => ?_
            rcases covered visit among with ⟨m, _, found⟩
            simp [IntegralSet.find?, noCopies, Ascending.find?] at found
          have alike := (forall₂_visits form split mesh kind).length_eq
          rw [none] at alike
          exact List.length_eq_zero_iff.mp alike.symm
      rcases noEntities with ⟨mesh, known, none⟩
      intro p q before
      have here : addKind split kind p = (.ok (), p) := by simp [addKind, splitHas]
      have there : addKind form kind q =
          (.ok (), { q with events := q.events ++ [.assembled kind 0] }) := by
        simp [addKind, formHas, known, none, addVisits]
      rw [here, there]
      exact ⟨rfl, before.tensor, before.calls⟩

theorem follows_addOtherKind (parts : Form.Split kind whole form split) {other : IntegralKind}
    (apart : other ≠ kind) :
    Follows (Progress.SameUnmarked : Progress τ α → Progress τ α → Prop)
      (addKind split other) (addKind form other) := by
  have visits (mesh : Mesh α) : Pass.visits split mesh other = Pass.visits form mesh other := by
    have markers (entity : PointId) : split.marker other entity = form.marker other entity := by
      rw [Form.marker, Form.marker, parts.otherMarkers other apart]
    cases other <;> simp [Pass.visits, Pass.cellVisit, Pass.facetVisit, markers]
  refine Follows.addKind (parts.has_eq apart) parts.mesh_eq ?_ fun _ _ _ same => ?_
  · intro mesh known
    rw [visits mesh]
    refine List.forall₂_same.mpr fun visit among p q before => ?_
    have ofOther : visit.kind ≠ kind := kind_of_mem_visits among ▸ apart
    rw [addVisit_eq, addVisit_eq, offer_of_otherKind parts ofOther]
    exact follows_addOffer rfl p q before
  · exact ⟨same.tensor, same.calls⟩

/-- The same blocks are added in the same order to any tensor. -/
theorem assemble_split (options : AssemblyOptions) (tensor : τ)
    (runsOver : kind = .cell ∨ kind = .exteriorFacet)
    (parts : Form.Split kind whole form split) (ignores : whole.kernel.IgnoresMarker) :
    (assemble options split tensor >>= fun report => .done report.unmarked : Exchange β _) =
      assemble options form tensor >>= fun report => .done report.unmarked := by
  have interior : split.integrals.has .interiorFacet = form.integrals.has .interiorFacet :=
    parts.has_eq (by rcases runsOver with rfl | rfl <;> decide)
  have vertex : split.integrals.has .vertex = form.integrals.has .vertex :=
    parts.has_eq (by rcases runsOver with rfl | rfl <;> decide)
  have ranks : split.rank = form.rank := congrArg List.length parts.spaces
  have obstacles := obstacle?_congr split form ranks interior vertex
    (congrArg CoefficientSet.firstUnbound? parts.coefficients) parts.misplacedMarkers?_eq
    (Tensor.rank tensor)
  have follows (other : IntegralKind) :
      Follows (Progress.SameUnmarked : Progress τ α → Progress τ α → Prop)
        (addKind split other) (addKind form other) := by
    by_cases apart : other = kind
    · subst apart
      exact follows_addKind parts ignores
    · exact follows_addOtherKind parts apart
  have together := Follows.addContributions options obstacles (follows .cell)
    (follows .exteriorFacet) fun _ => ⟨rfl, rfl⟩
  have ends : Ends AssemblyReport.unmarked (addContributions options split tensor)
      (addContributions options form tensor) := by
    rcases together.cases with ⟨cause, p, q, left, right, same⟩ | ⟨_, p, q, left, right, same⟩
    · rw [left, right]
      exact .error (same.report _)
    · rw [left, right]
      exact .ok same.tensor (same.report _) same.conclude
  exact ends.assemble

/-- Three cells, of which the second is not marked. The integral stays for the cells without marker
and for those of an unknown subdomain, and has a copy for subdomain 4. On two marked facets it is
dropped. -/
theorem assemble_split_three_cells :
    let mesh : Mesh Binary64 := ⟨0, 1, 1, fun _ => 3, fun _ => .ok [0, 1], fun _ => .ok #[],
      [⟨.ofIndex 0, .ofIndex 0, 1⟩, ⟨.ofIndex 3, .ofIndex 2, 0⟩], ""⟩
    let space : ArgumentSpace Binary64 := ⟨1, 3, mesh, fun cell => .ok [cell.index], ""⟩
    let ones : Kernel Binary64 := ⟨fun block _ _ _ => block.map fun _ => ⟨5⟩⟩
    let form (markers : PerKind (Option Markers)) (integrals : IntegralSet Binary64) :
        Form Binary64 :=
      ⟨FormDeclaration.toDescriptor ⟨1, [], []⟩, [space], none, markers, .empty, integrals, none⟩
    let cellMarkers : Markers := .ofPairs 1 [(.ofIndex 0, 4), (.ofIndex 2, 9)]
    let facetMarkers : Markers := .ofPairs 0 [(.ofIndex 0, 2), (.ofIndex 3, 0)]
    let part (subdomain : Option Nat) : Integral Binary64 := ⟨subdomain, ones, some []⟩
    let t : DenseTensor Binary64 := .zero .serial [3]
    let result (form : Form Binary64) : Exchange UInt8 (AssemblyReport (DenseTensor Binary64) _) :=
      assemble {} form t >>= fun report => .done report.unmarked
    let calls (form : Form Binary64) : Nat := ((result form).perform .silent).1.calls.length
    let oneCell := form (.const none) (.put .empty .cell (part none))
    let cells := form ((PerKind.const none).set .cell (some cellMarkers))
      (.put (.put .empty .cell (part (some 4))) .cell (part none))
    let onFacets := (PerKind.const none).set .exteriorFacet (some facetMarkers)
    let oneFacet := form onFacets (.put .empty .exteriorFacet (part none))
    let facets := form onFacets
      (.put (.put .empty .exteriorFacet (part (some 2))) .exteriorFacet (part (some 0)))
    result cells = result oneCell ∧ calls cells = 3 ∧
      result facets = result oneFacet ∧ calls facets = 2 := by
  intro mesh space ones form cellMarkers facetMarkers part t result calls oneCell cells onFacets
    oneFacet facets
  have split : Form.Split .cell (part none) oneCell cells :=
    { spaces := rfl
      ownMesh := rfl
      coefficients := rfl
      otherIntegrals := by
        rintro (_ | _ | _ | _) apart
        · exact absurd rfl apart
        all_goals rfl
      otherMarkers := by
        rintro (_ | _ | _ | _) apart
        · exact absurd rfl apart
        all_goals rfl
      unmarked := rfl
      only := rfl
      copies := by
        intro copy among
        rcases List.mem_pair.mp among with rfl | rfl <;> exact ⟨rfl, rfl⟩
      placed := by
        rintro markers (none | installed)
        · cases none
        · cases installed
          exact ⟨mesh, rfl, rfl⟩
      covered := .inl rfl }
  have dropped : Form.Split .exteriorFacet (part none) oneFacet facets :=
    { spaces := rfl
      ownMesh := rfl
      coefficients := rfl
      otherIntegrals := by
        rintro (_ | _ | _ | _) apart
        · rfl
        · exact absurd rfl apart
        all_goals rfl
      otherMarkers := by
        rintro (_ | _ | _ | _) apart
        · rfl
        · exact absurd rfl apart
        all_goals rfl
      unmarked := rfl
      only := rfl
      copies := by
        intro copy among
        rcases List.mem_pair.mp among with rfl | rfl <;> exact ⟨rfl, rfl⟩
      placed := by
        rintro markers (installed | installed)
        all_goals
          cases installed
          exact ⟨mesh, rfl, rfl⟩
      covered := by
        refine .inr ⟨mesh, rfl, fun visit among => ?_⟩
        rcases List.mem_pair.mp among with rfl | rfl
        · exact ⟨2, rfl, rfl⟩
        · exact ⟨0, rfl, rfl⟩ }
  have ignores : ones.IgnoresMarker := fun _ _ _ _ _ => rfl
  exact ⟨assemble_split {} t (.inl rfl) split ignores, by decide +kernel,
    assemble_split {} t (.inr rfl) dropped ignores, by decide +kernel⟩

end Assembly
end FormAssembly
