import FormAssembly.Proofs.Assembly.SharedBuffers

/-!
# Room of the workspace

All entities write to one workspace, whose room is fixed before the first. A space may have more
degrees of freedom on a cell than it promised, so each block is checked before its kernel is called.
Wherever a pass ends, it has therefore stayed within its room (`Pass.inRoom_contribute`).
-/

namespace FormAssembly

variable {τ α β γ : Type}

theorem Workspace.size_storeBlock {n : Nat} (ws : Workspace α) (block : Vector α n) :
    (ws.storeBlock block).block.size = max n ws.block.size := by
  simp only [storeBlock, Array.size_append, Array.drop, Array.size_extract, Vector.size_toArray]
  omega

namespace Pass

/-- A part of a pass keeps a property of states, also when it fails. -/
def Preserves (P : PassState τ α → Prop) (e : Pass τ α γ) : Prop :=
  ∀ s, P s → P (runFrom e s).2

/-- What has been written is within the room of the workspace, and no kernel was handed a block of
more than `bound` values. -/
structure InRoom (bound : Nat) (s : PassState τ α) : Prop where
  block : s.workspace.block.size ≤ s.workspace.room
  room : s.workspace.room ≤ bound
  calls : ∀ call ∈ s.calls, call.block.length ≤ bound

variable {P : PassState τ α → Prop} {δ : Type}

theorem Preserves.bind {e : Pass τ α γ} {f : γ → Pass τ α δ} (first : Preserves P e)
    (later : ∀ value, Preserves P (f value)) : Preserves P (e >>= f) := by
  intro s before
  have middle := first s before
  rw [runFrom_bind]
  rcases ran : runFrom e s with ⟨cause | value, t⟩
  · rw [ran] at middle
    exact middle
  · rw [ran] at middle
    exact later value t middle

theorem preserves_pure (value : γ) : Preserves P (pure value : Pass τ α γ) :=
  fun _ before => before

theorem preserves_liftM (outcome : Except Error γ) : Preserves P (liftM outcome : Pass τ α γ) := by
  intro s before
  rw [runFrom_liftM]
  exact before

theorem Preserves.foldlM {f : γ → Visit → Pass τ α γ}
    (each : ∀ value visit, Preserves P (f value visit)) (visits : List Visit) (value : γ) :
    Preserves P (visits.foldlM f value) := by
  induction visits generalizing value with
  | nil => exact preserves_pure value
  | cons visit later ih => exact (each value visit).bind ih

variable [Zero α] [Tensor τ α β] {bound : Nat}

/-- The check of a block is what keeps a kernel from writing behind the workspace. -/
theorem inRoom_addEntity (form : Form α) (integral : Integral α) (visit : Visit) :
    Preserves (InRoom bound) (addEntity form integral visit : Pass τ α Unit) := by
  intro s before
  cases rowsOf : form.spaces.mapM fun space => space.cellDofs visit.cell with
  | error cause => simpa [addEntity, rowsOf] using before
  | ok rows =>
      by_cases large : s.workspace.room < Block.size rows
      · simpa [addEntity, rowsOf, large] using before
      · have fits : Block.size rows ≤ s.workspace.room := Nat.le_of_not_lt large
        rcases exists_gather form.coefficients integral visit.cell s.workspace with
          ⟨buffer, gathered, _⟩
        cases values : Assembly.enabledValues integral visit.cell s.workspace.coordinates
            form.coefficients.slots.zipIdx with
        | error cause =>
            simp only [values, Except.map] at gathered
            have ran : runFrom (addEntity form integral visit : Pass τ α Unit) s = (.error cause,
                { s with workspace := { s.workspace with coefficients := buffer } }) := by
              simp [addEntity, rowsOf, large, gathered]
            rw [ran]
            exact ⟨before.block, before.room, before.calls⟩
        | ok coefficients =>
            simp only [values, Except.map] at gathered
            let ws : Workspace α := { s.workspace with coefficients := buffer }
            let block : Vector α (Block.size rows) := integral.kernel.tabulate
              (ws.zeroedBlock _) buffer ⟨ws.coordinates, visit.localFacet⟩ visit.marker
            let call : KernelCall α := ⟨(ws.zeroedBlock (Block.size rows)).toList, buffer.toList,
              ws.coordinates.toList, visit.localFacet, visit.marker⟩
            -- The tensor may refuse the block, but by then it has been written.
            have ran : ∃ outcome t, runFrom (addEntity form integral visit : Pass τ α Unit) s =
                (outcome, ⟨t, ws.storeBlock block, call :: s.calls, s.events⟩) := by
              cases added : Tensor.add s.tensor block.toList rows with
              | error cause =>
                  refine ⟨.error cause, s.tensor, ?_⟩
                  simp [addEntity, rowsOf, large, gathered, added, block, ws, call]
              | ok sum =>
                  refine ⟨.ok (), sum, ?_⟩
                  simp [addEntity, rowsOf, large, gathered, added, block, ws, call]
            rcases ran with ⟨outcome, t, ran⟩
            have length : call.block.length = Block.size rows := Vector.length_toList
            rw [ran]
            refine ⟨?_, before.room, ?_⟩
            · show (ws.storeBlock block).block.size ≤ s.workspace.room
              rw [Workspace.size_storeBlock]
              exact Nat.max_le.mpr ⟨fits, before.block⟩
            · intro other among
              rcases List.mem_cons.mp among with rfl | earlier
              · exact length ▸ Nat.le_trans fits before.room
              · exact before.calls other earlier

theorem inRoom_visitEntity (form : Form α) (mesh : Mesh α) (visit : Visit) :
    Preserves (InRoom bound) (visitEntity form mesh visit : Pass τ α Bool) := by
  unfold visitEntity
  cases form.integrals.integralFor visit.kind visit.marker with
  | none => exact preserves_pure false
  | some integral =>
      refine Preserves.bind ?_ fun _ =>
        (inRoom_addEntity form integral visit).bind fun _ => preserves_pure true
      intro s before
      rw [runFrom_onWorkspace]
      exact ⟨before.block, before.room, before.calls⟩

theorem inRoom_assembleKind (form : Form α) (kind : IntegralKind) :
    Preserves (InRoom bound) (assembleKind form kind : Pass τ α Unit) := by
  unfold assembleKind
  cases form.integrals.has kind with
  | false => exact preserves_pure ()
  | true =>
      refine Preserves.bind (preserves_liftM _) fun mesh => Preserves.bind ?_ fun count => ?_
      · rw [visitAll_eq_foldlM]
        exact Preserves.foldlM (fun count visit =>
          (inRoom_visitEntity form mesh visit).bind fun _ => preserves_pure _) _ 0
      · intro s before
        rw [runFrom_modify]
        exact ⟨before.block, before.room, before.calls⟩

/-- An assembly stays within a workspace that has room for the largest block, wherever it ends. -/
theorem inRoom_contribute (options : AssemblyOptions) (form : Form α) :
    Preserves (InRoom form.maxElementTensorSize)
      (Assembly.contribute options form : Pass τ α Unit) := by
  have local' : Preserves (InRoom form.maxElementTensorSize) (do
      modify fun s => { s with workspace := .ofRoom form.maxElementTensorSize }
      assembleKind form .cell
      assembleKind form .exteriorFacet : Pass τ α Unit) := by
    refine Preserves.bind (fun s before => ?_) fun _ =>
      (inRoom_assembleKind form .cell).bind fun _ => inRoom_assembleKind form .exteriorFacet
    rw [runFrom_modify]
    exact ⟨Nat.zero_le _, Nat.le_refl _, before.calls⟩
  unfold Assembly.contribute
  refine Preserves.bind (fun _ before => before) fun s =>
    Preserves.bind (preserves_liftM _) fun _ => ?_
  cases options.reset with
  | false => exact local'
  | true =>
      refine Preserves.bind (fun t before => ?_) fun _ => local'
      rw [runFrom_modify]
      exact ⟨before.block, before.room, before.calls⟩

end Pass

end FormAssembly
