import FormAssembly.Proofs.Assembly.FreshBuffers

/-!
# Assembly with shared buffers

Assembly proper keeps one workspace for all entities of a pass. `Pass.Simulates` says that a part of
a pass does what a function without workspace does, whatever the workspace holds. It holds for a
visit to an entity (`Pass.simulates_countVisit`), and from there for a pass and for the whole
(`assemble_eq_assembleFresh`).
-/

namespace FormAssembly

variable {τ α β γ δ : Type}

namespace IntegralSet

/-- Ranks stand for subdomains. -/
theorem find?_eq (set : IntegralSet α) (kind : IntegralKind) (subdomain : Option Nat) :
    set.find? kind subdomain =
      (set.integrals kind).find? fun integral => integral.subdomain = subdomain := by
  have sameTest : (fun integral : Integral α => integral.key == Integral.rank subdomain) =
      fun integral => decide (integral.subdomain = subdomain) := by
    funext integral
    by_cases same : integral.subdomain = subdomain
    · simp [Integral.key, same]
    · have apart : integral.key ≠ Integral.rank subdomain :=
        fun ranks => same (Integral.rank_injective ranks)
      simp [same, apart]
  rw [find?, Ascending.find?, sameTest]

theorem integralFor_eq (set : IntegralSet α) (kind : IntegralKind) (marker : Option Nat) :
    set.integralFor kind marker = Assembly.integralOn (set.integrals kind) marker := by
  simp only [integralFor, Assembly.integralOn, default?_eq_find?, find?_eq]
  cases marker.bind fun m =>
    (set.integrals kind).find? fun integral => integral.subdomain = some m <;> rfl

end IntegralSet

/-! ## Checks -/

namespace Assembly

/-- What a check yields, given the first thing that is wrong. -/
def verdict : Option Error → Except Error Unit
  | none => .ok ()
  | some cause => .error cause

theorem forM_markers_eq (expected : IntegralKind → Nat) (installed : List (IntegralKind × Nat)) :
    (installed.forM fun (kind, dim) =>
        if dim = expected kind then Except.ok ()
        else .error (Error.configuration (.markerDimension kind dim (expected kind)))) =
      verdict ((installed.find? fun (kind, dim) => dim ≠ expected kind).map fun (kind, dim) =>
        .configuration (.markerDimension kind dim (expected kind))) := by
  induction installed with
  | nil => rfl
  | cons entry later ih =>
      rcases entry with ⟨kind, dim⟩
      by_cases placed : dim = expected kind
      · simpa [List.forM, placed, bind, Except.bind] using ih
      · simp [List.forM, placed, bind, Except.bind, verdict]

theorem checkMarkerDims_eq (form : Form α) :
    checkMarkerDims form = verdict (misplacedMarkers? form) := by
  unfold checkMarkerDims misplacedMarkers?
  cases installedMarkers form with
  | nil => rfl
  | cons first others =>
      cases form.mesh with
      | error cause => rfl
      | ok mesh =>
          exact forM_markers_eq (fun kind => kind.entityDim mesh.topologicalDim) (first :: others)

/-- The checks end with the first obstacle. -/
theorem check_eq (form : Form α) (rank : Nat) :
    check form rank = verdict (obstacle? form rank) := by
  have slots : form.coefficients.checkAllSet =
      verdict (form.coefficients.firstUnbound?.map fun (i, name) =>
        .configuration (.unboundCoefficient i name)) := by
    unfold CoefficientSet.checkAllSet
    cases form.coefficients.firstUnbound? <;> rfl
  unfold check obstacle?
  rw [slots, checkMarkerDims_eq]
  by_cases ranks : rank = form.rank
  · subst ranks
    cases interior : form.integrals.has .interiorFacet with
    | true => simp [verdict, throw, throwThe, MonadExceptOf.throw, bind, Except.bind]
    | false =>
        cases vertex : form.integrals.has .vertex with
        | true => simp [verdict, throw, throwThe, MonadExceptOf.throw, bind, Except.bind]
        | false =>
            cases form.coefficients.firstUnbound? with
            | none => simp [verdict, bind, Except.bind]
            | some unbound => simp [verdict, bind, Except.bind]
  · simp [ranks, verdict, throw, throwThe, MonadExceptOf.throw, bind, Except.bind]

end Assembly

/-! ## Running a pass -/

/-- The state of a pass that has come so far, with some workspace. -/
def Progress.resume (p : Progress τ α) (ws : Workspace α) : PassState τ α :=
  ⟨p.tensor, ws, p.calls.reverse, p.events⟩

namespace Pass

/-- What a part of a pass does to a state. -/
def runFrom (e : Pass τ α γ) (s : PassState τ α) : Except Error γ × PassState τ α :=
  e.run s

@[simp] theorem runFrom_bind (e : Pass τ α γ) (f : γ → Pass τ α δ) (s : PassState τ α) :
    runFrom (e >>= f) s =
      match runFrom e s with
      | (.ok value, later) => runFrom (f value) later
      | (.error cause, later) => (.error cause, later) := by
  unfold runFrom ExceptT.run
  simp only [bind, ExceptT.bind, ExceptT.mk, StateT.bind, ExceptT.bindCont]
  rcases e s with ⟨_ | _, later⟩ <;> rfl

@[simp] theorem runFrom_throw (cause : Error) (s : PassState τ α) :
    runFrom (throw cause : Pass τ α γ) s = (.error cause, s) :=
  rfl

@[simp] theorem runFrom_get (s : PassState τ α) :
    runFrom (get : Pass τ α (PassState τ α)) s = (.ok s, s) :=
  rfl

@[simp] theorem runFrom_modify (f : PassState τ α → PassState τ α) (s : PassState τ α) :
    runFrom (modify f : Pass τ α PUnit) s = (.ok (), f s) :=
  rfl

@[simp] theorem runFrom_liftM (outcome : Except Error γ) (s : PassState τ α) :
    runFrom (liftM outcome : Pass τ α γ) s = (outcome, s) := by
  cases outcome <;> rfl

/-- Lifting the items one after another is lifting them all. -/
@[simp] theorem runFrom_mapM_liftM {ι : Type} (f : ι → Except Error γ) (items : List ι)
    (s : PassState τ α) :
    runFrom (items.mapM fun item => (liftM (f item) : Pass τ α γ)) s = (items.mapM f, s) := by
  induction items with
  | nil => rfl
  | cons item later ih =>
      rw [List.mapM_cons, List.mapM_cons, runFrom_bind, runFrom_liftM]
      cases f item with
      | error cause => rfl
      | ok value =>
          show runFrom (_ >>= _) s = _
          rw [runFrom_bind, ih]
          cases later.mapM f <;> rfl

@[simp] theorem runFrom_onWorkspace (f : Workspace α → Except Error Unit × Workspace α)
    (s : PassState τ α) :
    runFrom (onWorkspace f) s =
      ((f s.workspace).1, { s with workspace := (f s.workspace).2 }) := by
  unfold onWorkspace
  rw [runFrom_bind, runFrom_get]
  show runFrom (_ >>= _) s = _
  rw [runFrom_bind, runFrom_modify]
  exact runFrom_liftM _ _

/-! ## Coefficients -/

theorem enabledValues_cons (integral : Integral α) (cell : PointId) (coordinates : Array α)
    (entry : CoefficientSlot α × Nat) (later : List (CoefficientSlot α × Nat)) :
    Assembly.enabledValues integral cell coordinates (entry :: later) =
      if integral.usesCoefficient entry.2 then do
        let first ← Assembly.slotValues cell coordinates entry
        let others ← Assembly.enabledValues integral cell coordinates later
        return first ++ others
      else
        Assembly.enabledValues integral cell coordinates later := by
  unfold Assembly.enabledValues
  by_cases reads : integral.usesCoefficient entry.2
  · simp only [List.filter_cons, reads, if_true, List.mapM_cons]
    cases Assembly.slotValues cell coordinates entry with
    | error cause => rfl
    | ok first =>
        cases (later.filter fun entry => integral.usesCoefficient entry.2).mapM
            (Assembly.slotValues cell coordinates) with
        | error cause => rfl
        | ok others => simp [bind, Except.bind, pure, Except.pure]
  · simp [reads]

theorem gatherFrom_cons (integral : Integral α) (cell : PointId) (coordinates : Array α)
    (entry : CoefficientSlot α × Nat) (later : List (CoefficientSlot α × Nat)) (buffer : Array α) :
    gatherFrom integral cell coordinates (entry :: later) buffer =
      if integral.usesCoefficient entry.2 then
        match Assembly.slotValues cell coordinates entry with
        | .ok values => gatherFrom integral cell coordinates later (buffer ++ values)
        | .error cause => (.error cause, buffer)
      else
        gatherFrom integral cell coordinates later buffer := by
  rcases entry with ⟨slot, i⟩
  cases bound : slot.function with
  | none => simp [gatherFrom, Assembly.slotValues, bound]
  | some f =>
      cases answer : f.restrict cell coordinates with
      | error cause =>
          simp [gatherFrom, Assembly.slotValues, CoefficientFunction.appendTo, bound, answer]
      | ok values =>
          simp [gatherFrom, Assembly.slotValues, CoefficientFunction.appendTo, bound, answer]

/-- The values of the coefficients are put behind what the buffer holds. If one has no values, it
does not matter what is left in the buffer. -/
theorem gatherFrom_eq (integral : Integral α) (cell : PointId) (coordinates : Array α)
    (entries : List (CoefficientSlot α × Nat)) (buffer : Array α) :
    gatherFrom integral cell coordinates entries buffer =
      match Assembly.enabledValues integral cell coordinates entries with
      | .ok values => (.ok (), buffer ++ values)
      | .error cause =>
          (.error cause, (gatherFrom integral cell coordinates entries buffer).2) := by
  induction entries generalizing buffer with
  | nil => simp [gatherFrom, Assembly.enabledValues, pure, Except.pure, bind, Except.bind]
  | cons entry later ih =>
      rw [gatherFrom_cons, enabledValues_cons]
      -- A coefficient that the integral does not read adds nothing, bound or not.
      by_cases reads : integral.usesCoefficient entry.2
      · simp only [reads, if_true]
        cases Assembly.slotValues cell coordinates entry with
        | error cause => rfl
        | ok first =>
            have behind := ih (buffer ++ first)
            cases rest : Assembly.enabledValues integral cell coordinates later with
            | error cause =>
                rw [rest] at behind
                exact behind
            | ok others =>
                rw [rest] at behind
                simpa [bind, Except.bind, pure, Except.pure] using behind
      · simp only [reads, Bool.false_eq_true, if_false]
        exact ih buffer

/-- Gathering replaces the values in the workspace, whatever they were. -/
theorem exists_gather (coefficients : CoefficientSet α) (integral : Integral α) (cell : PointId)
    (ws : Workspace α) :
    ∃ buffer, gather coefficients integral cell ws =
        ((Assembly.enabledValues integral cell ws.coordinates coefficients.slots.zipIdx).map
          fun _ => (), { ws with coefficients := buffer }) ∧
      ∀ values, Assembly.enabledValues integral cell ws.coordinates coefficients.slots.zipIdx =
        .ok values → buffer = values := by
  let gathered := gatherFrom integral cell ws.coordinates coefficients.slots.zipIdx #[]
  have cleared : gather coefficients integral cell ws =
      (gathered.1, { ws with coefficients := gathered.2 }) := by
    simp [gather, gathered]
  have known := gatherFrom_eq integral cell ws.coordinates coefficients.slots.zipIdx #[]
  refine ⟨gathered.2, ?_, ?_⟩
  · rw [cleared]
    refine congrArg (·, _) ?_
    show (gatherFrom integral cell ws.coordinates coefficients.slots.zipIdx #[]).1 = _
    rw [known]
    cases Assembly.enabledValues integral cell ws.coordinates coefficients.slots.zipIdx <;> rfl
  · intro values outcome
    rw [outcome] at known
    simp [gathered, known]

/-! ## One entity -/

variable [Zero α] [Tensor τ α β]

theorem zeroedBlock_eq (ws : Workspace α) (n : Nat) : ws.zeroedBlock n = Vector.replicate n 0 := by
  refine Vector.toList_inj.mp ?_
  rw [ws.toList_zeroedBlock, Vector.toList_replicate]

/-- With the coordinates of the cell in the workspace, an entity gets the block that it would get
with fresh buffers. -/
theorem runFrom_addEntity (form : Form α) (integral : Integral α) (visit : Visit)
    (p : Progress τ α) (ws : Workspace α) (room : ws.room = form.maxElementTensorSize) :
    ∃ left : Workspace α, left.room = form.maxElementTensorSize ∧
      runFrom (addEntity form integral visit) (p.resume ws) =
        match Assembly.contributionAt form integral visit ws.coordinates with
        | .error cause => (.error cause, p.resume left)
        | .ok c =>
            ((Assembly.addContribution c p).1, (Assembly.addContribution c p).2.resume left) := by
  cases rowsOf : form.spaces.mapM fun space => space.cellDofs visit.cell with
  | error cause =>
      -- Without degrees of freedom nothing is touched.
      have fails : Assembly.contributionAt form integral visit ws.coordinates = .error cause := by
        simp [Assembly.contributionAt, rowsOf, bind, Except.bind]
      refine ⟨ws, room, ?_⟩
      simp [addEntity, rowsOf, fails]
  | ok rows =>
      by_cases large : form.maxElementTensorSize < Block.size rows
      · -- The room of the workspace is the bound that the form promises.
        have fails : Assembly.contributionAt form integral visit ws.coordinates =
            .error (.blockShape form.maxElementTensorSize (Block.size rows)) := by
          simp [Assembly.contributionAt, rowsOf, large, bind, Except.bind, throw, throwThe,
            MonadExceptOf.throw]
        refine ⟨ws, room, ?_⟩
        simp [addEntity, rowsOf, fails, Progress.resume, room, large]
      · have fits : ¬ ws.room < Block.size rows := room ▸ large
        rcases exists_gather form.coefficients integral visit.cell ws with
          ⟨buffer, gathered, whole⟩
        cases values : Assembly.enabledValues integral visit.cell ws.coordinates
            form.coefficients.slots.zipIdx with
        | error cause =>
            -- A restriction fails midway. What it leaves in the buffer is not looked at.
            have fails : Assembly.contributionAt form integral visit ws.coordinates =
                .error cause := by
              simp [Assembly.contributionAt, rowsOf, large, values, bind, Except.bind]
            refine ⟨{ ws with coefficients := buffer }, room, ?_⟩
            simp [addEntity, rowsOf, fails, Progress.resume, fits, gathered, values, Except.map]
        | ok coefficients =>
            obtain rfl : buffer = coefficients := whole coefficients values
            have evaluated : Assembly.contributionAt form integral visit ws.coordinates =
                .ok (Assembly.evaluate integral visit ws.coordinates buffer rows) := by
              simp [Assembly.contributionAt, rowsOf, large, values, bind, Except.bind, pure,
                Except.pure]
            -- The zeroed front of the block is a block of zeros, so the kernel sees the same.
            let block : Vector α (Block.size rows) := integral.kernel.tabulate (.replicate _ 0)
              buffer ⟨ws.coordinates, visit.localFacet⟩ visit.marker
            refine ⟨{ ws with coefficients := buffer }.storeBlock block, room, ?_⟩
            cases added : Tensor.add p.tensor block.toList rows <;>
              simp [addEntity, rowsOf, evaluated, Progress.resume, fits, gathered, values,
                Except.map, zeroedBlock_eq, Assembly.addContribution, Assembly.evaluate, added,
                block]

/-! ## A pass -/

/-- A part of a pass does what `f` does without workspace, whatever a workspace with enough room
holds. -/
def Simulates (form : Form α) (e : Pass τ α γ)
    (f : Progress τ α → Except Error γ × Progress τ α) : Prop :=
  ∀ (p : Progress τ α) (ws : Workspace α), ws.room = form.maxElementTensorSize →
    ∃ left : Workspace α, left.room = form.maxElementTensorSize ∧
      runFrom e (p.resume ws) = ((f p).1, (f p).2.resume left)

theorem simulates_visitEntity (form : Form α) (mesh : Mesh α) (visit : Visit) :
    Simulates form (visitEntity form mesh visit : Pass τ α Bool)
      (Assembly.addVisit form mesh visit) := by
  intro p ws room
  unfold visitEntity Assembly.addVisit
  rw [IntegralSet.integralFor_eq]
  cases Assembly.integralOn (form.integrals.integrals visit.kind) visit.marker with
  | none => exact ⟨ws, room, rfl⟩
  | some integral =>
      have read := mesh.readCoordinates_eq visit.cell ws.coordinates
      cases found : mesh.cellCoordinates visit.cell with
      | error cause =>
          rw [found] at read
          have fails : Assembly.contribution form mesh integral visit = .error cause := by
            simp [Assembly.contribution, found, bind, Except.bind]
          -- The coordinates of the entity before are gone nevertheless.
          refine ⟨{ ws with coordinates := #[] }, room, ?_⟩
          simp [Progress.resume, read, fails]
      | ok coordinates =>
          rw [found] at read
          have whole : Assembly.contribution form mesh integral visit =
              Assembly.contributionAt form integral visit coordinates := by
            simp [Assembly.contribution, found, bind, Except.bind]
          rcases runFrom_addEntity form integral visit p { ws with coordinates } room with
            ⟨left, leftRoom, added⟩
          refine ⟨left, leftRoom, ?_⟩
          simp only [Progress.resume, runFrom_bind, runFrom_onWorkspace, read, whole] at added ⊢
          rw [added]
          cases Assembly.contributionAt form integral visit coordinates with
          | error cause => rfl
          | ok c =>
              dsimp only
              rcases Assembly.addContribution c p with ⟨_ | _, q⟩ <;> rfl

theorem simulates_foldlM (form : Form α) (mesh : Mesh α) (visits : List Visit) (count : Nat) :
    Simulates form (visits.foldlM (countVisit form mesh) count : Pass τ α Nat)
      (Assembly.addVisits form mesh visits count) := by
  -- By induction on the entities. A visit leaves another workspace, but one with enough room.
  induction visits generalizing count with
  | nil =>
      intro p ws room
      exact ⟨ws, room, rfl⟩
  | cons visit later ih =>
      intro p ws room
      rcases simulates_visitEntity form mesh visit p ws room with ⟨middle, middleRoom, visited⟩
      simp only [List.foldlM_cons, countVisit, runFrom_bind, visited, Assembly.addVisits]
      rcases Assembly.addVisit form mesh visit p with ⟨cause | added, q⟩
      · exact ⟨middle, middleRoom, rfl⟩
      · exact ih _ q middle middleRoom

theorem simulates_assembleKind (form : Form α) (kind : IntegralKind) :
    Simulates form (assembleKind form kind : Pass τ α Unit) (Assembly.addKind form kind) := by
  intro p ws room
  unfold assembleKind Assembly.addKind
  cases form.integrals.has kind with
  | false => exact ⟨ws, room, rfl⟩
  | true =>
      cases form.mesh with
      | error cause => exact ⟨ws, room, rfl⟩
      | ok mesh =>
          rcases simulates_foldlM form mesh (visits form mesh kind) 0 p ws room with
            ⟨left, leftRoom, visited⟩
          refine ⟨left, leftRoom, ?_⟩
          simp only [visitAll_eq_foldlM, if_true, runFrom_bind, runFrom_liftM, visited]
          rcases Assembly.addVisits form mesh (visits form mesh kind) 0 p with ⟨cause | count, q⟩
          · rfl
          · rfl

theorem simulates_assembleKinds (form : Form α) :
    Simulates form
      (do assembleKind form .cell; assembleKind form .exteriorFacet : Pass τ α Unit)
      (Assembly.addKinds form) := by
  intro p ws room
  rcases simulates_assembleKind form .cell p ws room with ⟨middle, middleRoom, cells⟩
  simp only [runFrom_bind, cells, Assembly.addKinds]
  rcases Assembly.addKind form .cell p with ⟨cause | _, q⟩
  · exact ⟨middle, middleRoom, rfl⟩
  · exact simulates_assembleKind form .exteriorFacet q middle middleRoom

end Pass

namespace Assembly

variable [Zero α] [Tensor τ α β]

/-- The local part of an assembly is what it would be with fresh buffers. -/
theorem runFrom_contribute (options : AssemblyOptions) (form : Form α) (tensor : τ) :
    ∃ left : Workspace α,
      Pass.runFrom (contribute options form : Pass τ α Unit) ⟨tensor, .ofRoom 0, [], []⟩ =
        ((addContributions options form tensor).1,
          (addContributions options form tensor).2.resume left) := by
  unfold contribute addContributions
  simp only [Pass.runFrom_bind, Pass.runFrom_get, Pass.runFrom_liftM, check_eq]
  cases obstacle? form (Tensor.rank tensor) with
  | some cause => exact ⟨.ofRoom 0, rfl⟩
  | none =>
      -- The workspace is made anew with the room that the form asks for.
      have visited (first : τ) := Pass.simulates_assembleKinds form ⟨first, [], []⟩
        (.ofRoom form.maxElementTensorSize) rfl
      cases options.reset with
      | false =>
          rcases visited tensor with ⟨left, _, same⟩
          exact ⟨left, same⟩
      | true =>
          rcases visited (Tensor.zero tensor) with ⟨left, _, same⟩
          exact ⟨left, same⟩

/-- If a contribution fails, the assembly ends there. -/
theorem assemble_of_error {options : AssemblyOptions} {form : Form α} {tensor : τ} {cause : Error}
    {p : Progress τ α} (failed : addContributions options form tensor = (.error cause, p)) :
    (assemble options form tensor : Exchange β (AssemblyReport τ α)) =
      .done (p.report (.error cause)) := by
  rcases runFrom_contribute options form tensor with ⟨left, contributed⟩
  have run : (contribute options form : Pass τ α Unit).run ⟨tensor, .ofRoom 0, [], []⟩ =
      (.error cause, p.resume left) := by
    rw [failed] at contributed
    exact contributed
  simp [assemble, run, discard, Progress.report, Progress.resume]

/-- If all contributions are added, it is up to the options whether the tensor is finalized. -/
theorem assemble_of_ok {options : AssemblyOptions} {form : Form α} {tensor : τ}
    {p : Progress τ α} (added : addContributions options form tensor = (.ok (), p)) :
    (assemble options form tensor : Exchange β (AssemblyReport τ α)) =
      if options.finalize then
        Tensor.apply p.tensor options.mode >>= fun applied => .done (p.conclude applied)
      else
        .done (p.report (.ok ())) := by
  rcases runFrom_contribute options form tensor with ⟨left, contributed⟩
  have run : (contribute options form : Pass τ α Unit).run ⟨tensor, .ofRoom 0, [], []⟩ =
      (.ok (), p.resume left) := by
    rw [added] at contributed
    exact contributed
  cases whether : options.finalize with
  | false => simp [assemble, run, whether, accept, Progress.report, Progress.resume]
  | true =>
      simp only [assemble, run, whether, if_true]
      refine bind_congr fun applied => ?_
      rcases applied with ⟨_ | _, events⟩ <;>
        simp [discard, accept, Progress.conclude, Progress.report, Progress.resume]

/-- An assembly with shared buffers does to the tensor what an assembly with fresh buffers does, and
reports the same. The tensor may be of any kind, also of one that keeps a record of what is done to
it. -/
theorem assemble_eq_assembleFresh (options : AssemblyOptions) (form : Form α) (tensor : τ) :
    (assemble options form tensor : Exchange β (AssemblyReport τ α)) =
      assembleFresh options form tensor := by
  rcases runFrom_contribute options form tensor with ⟨left, contributed⟩
  unfold assemble assembleFresh
  have run : (contribute options form : Pass τ α Unit).run ⟨tensor, .ofRoom 0, [], []⟩ = _ :=
    contributed
  rw [run]
  rcases addContributions options form tensor with ⟨cause | _, p⟩
  · simp [discard, Progress.report, Progress.resume]
  · cases options.finalize with
    | false => simp [accept, Progress.report, Progress.resume]
    | true =>
        refine bind_congr fun applied => ?_
        rcases applied with ⟨_ | _, events⟩ <;>
          simp [discard, accept, Progress.report, Progress.resume]

end Assembly
end FormAssembly
