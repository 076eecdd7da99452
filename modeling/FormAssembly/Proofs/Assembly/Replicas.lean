import FormAssembly.Proofs.Assembly.Discarded
import FormAssembly.Proofs.Tensor.Replica

/-!
# Assembly on the ranks of a group

An assembly has a local part, which is the same assembly without finalization. If it fails, or if
there is to be no finalization, the assembly is over after it. Else the tensor is finalized: nothing
happens to it in a group of one, and in a group of several its values are gathered
(`Replica.exists_localPart`).
-/

namespace FormAssembly

variable {τ σ α β : Type}

/-- The report with the tensor seen in another way. -/
def AssemblyReport.map (f : τ → σ) (report : AssemblyReport τ α) : AssemblyReport σ α :=
  ⟨f report.tensor, report.outcome, report.calls, report.events⟩

/-- An exchange that deals with nobody can be run to see its result. -/
theorem Exchange.eq_perform_of_done {e : Exchange β α} {result : α} (ended : e = .done result)
    (script : Script β) : result = (e.perform script).1 := by
  rw [ended]
  rfl

/-- Outcomes carry nothing if they are good, so it is enough to look whether they are. -/
theorem Assembly.eq_ok_of_isOk {outcome : Except Error Unit} (good : outcome.isOk = true) :
    outcome = .ok () := by
  cases outcome with
  | error cause => cases good
  | ok _ => rfl

/-! ## The local part -/

namespace Assembly

variable [Zero α] [Tensor τ α β] {options : AssemblyOptions} {form : Form α} {tensor : τ}
  {added : AssemblyReport τ α}

/-- The report of a finalization that follows on a local part. -/
def finish (added : AssemblyReport τ α) (applied : Reported (Except Error τ)) :
    AssemblyReport τ α :=
  Progress.conclude ⟨added.tensor, added.calls, added.events⟩ applied

/-- The local part of an assembly deals with nobody. If it succeeds, it is up to the options whether
finalization follows. -/
theorem exists_localPart (options : AssemblyOptions) (form : Form α) (tensor : τ) :
    ∃ added : AssemblyReport τ α,
      (assemble { options with finalize := false } form tensor : Exchange β _) = .done added ∧
      (added.outcome ≠ .ok () ∨ options.finalize = false →
        (assemble options form tensor : Exchange β _) = .done added) ∧
      (added.outcome = .ok () → options.finalize = true →
        (assemble options form tensor : Exchange β _) =
          Tensor.apply added.tensor options.mode >>= fun applied =>
            .done (finish added applied)) ∧
      ∀ P : τ → Prop, Kept P → P tensor → P added.tensor := by
  -- Finalization is no concern of the contributions.
  let local' : AssemblyOptions := { options with finalize := false }
  cases contributed : addContributions options form tensor with
  | mk outcome p =>
      have alike : addContributions local' form tensor = (outcome, p) := contributed
      have stopped : ∀ P : τ → Prop, Kept P → P tensor → P p.tensor := by
        intro P kept start
        have after := kept.addContributions options form start
        rwa [contributed] at after
      cases outcome with
      | error cause =>
          refine ⟨p.report (.error cause), assemble_of_error alike,
            fun _ => assemble_of_error contributed, ?_, ?_⟩
          · intro success
            cases success
          · intro P kept start
            exact kept.zero _ (stopped P kept start)
      | ok _ =>
          refine ⟨p.report (.ok ()), assemble_of_ok alike, ?_, ?_, stopped⟩
          · rintro (failed | without)
            · exact absurd rfl failed
            · rw [assemble_of_ok contributed, without]
              rfl
          · intro _ whole
            rw [assemble_of_ok contributed, whole]
            rfl

end Assembly

/-! ## On one rank -/

namespace Replica

variable [Zero α] [Add α] [SumStart α] [Code α β] [ScalarTensor.Display α]

/-- Assembles a form into what one rank holds of a tensor. -/
def assemble (options : AssemblyOptions) (form : Form α) :
    Replica α → Exchange β (AssemblyReport (Replica α) α)
  | scalar t => do
      let report ← Assembly.assemble options form t
      return report.map scalar
  | dense t => do
      let report ← Assembly.assemble options form t
      return report.map dense

/-- What an assembly is made of, given the report of its local part. -/
structure LocalPart (options : AssemblyOptions) (form : Form α) (t : Replica α)
    (added : AssemblyReport (Replica α) α) : Prop where
  unfinalized :
    (t.assemble { options with finalize := false } form : Exchange β _) = .done added
  /-- It is all that happens if it fails or if there is to be no more. -/
  stops : added.outcome ≠ .ok () ∨ options.finalize = false →
    (t.assemble options form : Exchange β _) = .done added
  /-- Only the values change. -/
  shape : ∀ f, added.tensor.tabulate f = t.tabulate f
  /-- In a group of one, finalization changes nothing. -/
  single : added.outcome = .ok () → options.finalize = true → t.member.size = 1 →
    ∃ report : AssemblyReport (Replica α) α,
      (t.assemble options form : Exchange β _) = .done report ∧
        report.outcome = .ok () ∧ report.tensor = added.tensor
  /-- In a group of several, it is a gathering of the values. -/
  gathers : added.outcome = .ok () → options.finalize = true →
    ∀ {rank size : Nat}, t.member = ⟨rank, size, false⟩ → size ≠ 1 →
      ∃ report : Except Error (List α) → AssemblyReport (Replica α) α,
        (t.assemble options form : Exchange β _) =
          ((⟨rank, size, false⟩ : Member).gatherValues added.tensor.values >>= fun gathered =>
            .done (report gathered)) ∧
        ∀ gathered, (report gathered).toCreation.outcome = gathered.map added.tensor.combine

/-- An assembly into a tensor is seen as one into a replica if finalization fits. -/
theorem exists_localPart_of [Tensor τ α β] (see : τ → Replica α) (sum : τ → List α → τ) {t : τ}
    (options : AssemblyOptions) (form : Form α)
    (seen : ∀ options' : AssemblyOptions, ((see t).assemble options' form : Exchange β _) =
      Assembly.assemble options' form t >>= fun report => .done (report.map see))
    (kept : Assembly.Kept fun u : τ => ∀ f, (see u).tabulate f = (see t).tabulate f)
    (summed : ∀ u all, see (sum u all) = (see u).combine all)
    (alone : ∀ u mode, (see u).member.size = 1 →
      ∃ events, Tensor.apply u mode = .done ⟨.ok u, events⟩)
    (together : ∀ u mode, ∀ {rank size : Nat}, (see u).member = ⟨rank, size, false⟩ → size ≠ 1 →
      ∃ events, Tensor.apply u mode =
        (⟨rank, size, false⟩ : Member).gatherValues (see u).values >>= fun gathered =>
          .done ⟨gathered.map (sum u), events⟩) :
    ∃ added, LocalPart options form (see t) added := by
  rcases Assembly.exists_localPart options form t with
    ⟨added, unfinalized, stops, finalizes, keeps⟩
  -- A local part only zeroes the tensor and adds blocks, so the shape stays.
  have shape := keeps _ kept fun _ => rfl
  have member : (see added.tensor).member = (see t).member := member_of_shape shape
  refine ⟨added.map see, ?_, ?_, shape, ?_, ?_⟩
  · rw [seen, unfinalized]
    rfl
  · intro early
    rw [seen, stops early]
    rfl
  · intro success whole one
    rcases alone added.tensor options.mode (member ▸ one) with ⟨events, applied⟩
    refine ⟨(Assembly.finish added ⟨.ok added.tensor, events⟩).map see, ?_, rfl, rfl⟩
    rw [seen, finalizes success whole, applied]
    rfl
  · intro success whole rank size place several
    rcases together added.tensor options.mode (member.trans place) several with
      ⟨events, applied⟩
    -- What is reported in the end depends on the peers only through what was gathered.
    let report (gathered : Except Error (List α)) : AssemblyReport (Replica α) α :=
      (Assembly.finish added ⟨gathered.map (sum added.tensor), events⟩).map see
    refine ⟨report, ?_, ?_⟩
    · rw [seen, finalizes success whole, applied, Exchange.bind_assoc, Exchange.bind_assoc]
      rfl
    · rintro (cause | all)
      · rfl
      · exact congrArg Except.ok (summed added.tensor all)

/-- Every assembly into what a rank holds of a tensor has a local part. -/
theorem exists_localPart (options : AssemblyOptions) (form : Form α) (t : Replica α) :
    ∃ added, LocalPart options form t added := by
  cases t with
  | scalar t =>
      refine exists_localPart_of scalar ScalarTensor.combine options form
        (fun _ => rfl) ?_ (fun _ _ => rfl) ?_ ?_
      · have kept := ScalarTensor.kept_member (α := α) ScalarTensor.apply
        refine ⟨fun u same f => same f, fun u block rows after same added f => ?_⟩
        have member := (kept u.member).add u block rows after rfl added
        rw [← same f, tabulate, tabulate, ScalarTensor.assign, ScalarTensor.assign, member]
      · intro u mode one
        exact ⟨_, ScalarTensor.apply_of_single mode (.inr one)⟩
      · intro u mode rank size place several
        exact ⟨_, ScalarTensor.apply_of_group mode place several⟩
  | dense t =>
      refine exists_localPart_of dense DenseTensor.combine options form
        (fun _ => rfl) ?_ (fun _ _ => rfl) ?_ ?_
      · have kept := DenseTensor.kept_shape (α := α) DenseTensor.apply
        refine ⟨fun u same f => ?_, fun u block rows after same added f => ?_⟩
        · rw [← same f]
          refine congrArg dense (DenseTensor.tabulate_of_shape ?_ ?_ f) <;> rfl
        · rcases (kept u.dims u.member).add u block rows after ⟨rfl, rfl⟩ added with
            ⟨dims, member⟩
          rw [← same f]
          exact congrArg dense (DenseTensor.tabulate_of_shape dims member f)
      · intro u mode one
        exact ⟨_, DenseTensor.apply_of_single mode (.inr one)⟩
      · intro u mode rank size place several
        exact ⟨_, DenseTensor.apply_of_group mode place several⟩

end Replica
end FormAssembly
