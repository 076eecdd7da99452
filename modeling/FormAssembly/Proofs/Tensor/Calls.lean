import FormAssembly.Proofs.Assembly.Transport
import FormAssembly.Proofs.Message.Dealings

/-!
# Calls on a tensor

What is done with a tensor is a sequence of calls. As an exchange with the peers
(`TensorCall.performAll`) it yields the answer to each call and the values after it. A session
(`TensorCall.Session`) also records what was dealt with the peers during each call; they may answer
anything at any time.

If each call on the tensor that corresponds to another does what the call on that one does, then
sequences of calls do the same (`TensorCall.performAll_map`, `TensorCall.session_map`).
-/

namespace FormAssembly

variable {σ τ α β : Type}

/-- A call that reads or changes the values of a tensor. -/
inductive TensorCall (α : Type) where
  | resize (rank : Nat) (dims : List Nat)
  | get (buffer : List α) (rows : List (List Nat))
  | set (block : List α) (rows : List (List Nat))
  | add (block : List α) (rows : List (List Nat))
  | addOwned (block : List α) (rows : List (List Nat))
  | addFlat (block : List α) (counts flat : List Nat)
  | zero
  | apply (mode : ApplyMode)
  | assemble (options : AssemblyOptions) (form : Form α)

/-- What a call answers, and the tensor that it leaves. -/
structure CallResult (τ α : Type) where
  /-- The values that were read, if the call reads any. -/
  answer : Except Error (List α)
  tensor : τ

/-- What is seen of a call. -/
structure CallRecord (α β : Type) where
  answer : Except Error (List α)
  /-- Values of the tensor after the call. -/
  values : List α
  dealings : List (Dealing β)

namespace CallResult

/-- The result of a call that makes another tensor or fails. -/
def ofChange (before : τ) : Except Error τ → CallResult τ α
  | .ok after => ⟨.ok [], after⟩
  | .error cause => ⟨.error cause, before⟩

def map (f : σ → τ) (result : CallResult σ α) : CallResult τ α :=
  ⟨result.answer, f result.tensor⟩

theorem ofChange_map {f : σ → τ} {before : σ} {changed : Except Error σ}
    {mapped : Except Error τ} :
    mapped = changed.map f →
      (ofChange (f before) mapped : CallResult τ α) = (ofChange before changed).map f := by
  rintro rfl
  cases changed <;> rfl

end CallResult

namespace TensorCall

variable [Zero α]

/-- Makes a call. One that fails leaves the tensor as it was, except that an assembly zeroes it. -/
def perform [Tensor τ α β] (t : τ) : TensorCall α → Exchange β (CallResult τ α)
  | resize rank dims => .done (.ofChange t (Tensor.resize t rank dims))
  | get buffer rows => .done ⟨Tensor.get t buffer rows, t⟩
  | set block rows => .done (.ofChange t (Tensor.set t block rows))
  | add block rows => .done (.ofChange t (Tensor.add t block rows))
  | addOwned block rows => .done (.ofChange t (Tensor.addOwned t block rows))
  | addFlat block counts flat => .done (.ofChange t (Tensor.addFlat t block counts flat))
  | zero => .done ⟨.ok [], Tensor.zero t⟩
  | apply mode => do
      let applied ← Tensor.apply t mode
      return .ofChange t applied.value
  | assemble options form => do
      let report ← Assembly.assemble options form t
      return ⟨report.outcome.map fun _ => [], report.tensor⟩

/-- Makes calls one after another. The result is the answer to each with the values after it. -/
def performAll [Tensor τ α β] (see : τ → List α) :
    List (TensorCall α) → τ → Exchange β (List (Except Error (List α) × List α))
  | [], _ => .done []
  | call :: later, t => do
      let result ← call.perform t
      let others ← performAll see later result.tensor
      return (result.answer, see result.tensor) :: others

/-- Calls that have been made one after another, with a record of each. -/
inductive Session [Tensor τ α β] (see : τ → List α) :
    τ → List (TensorCall α) → List (CallRecord α β) → Prop
  | nil (t : τ) : Session see t [] []
  | cons {t : τ} {call : TensorCall α} {later : List (TensorCall α)} {result : CallResult τ α}
      {dealings : List (Dealing β)} {records : List (CallRecord α β)} :
      (call.perform t).Deals dealings (.done result) → Session see result.tensor later records →
        Session see t (call :: later) (⟨result.answer, see result.tensor, dealings⟩ :: records)

/-! ## Corresponding tensors -/

variable [Tensor σ α β] [Tensor τ α β] {f : σ → τ} {calls : List (TensorCall α)}

/-- Whether it does not matter if a tensor is mapped before or after a call. -/
def Respects (f : σ → τ) (call : TensorCall α) : Prop :=
  ∀ t, (call.perform (f t) : Exchange β (CallResult τ α)) =
    call.perform t >>= fun result => .done (result.map f)

theorem respects_apply {fits : Addend α → Prop} (mirrors : Assembly.Mirrors fits f)
    (mode : ApplyMode) : Respects f (.apply mode) := by
  intro t
  calc ((apply mode).perform (f t) : Exchange β (CallResult τ α))
      = (Tensor.apply (f t) mode >>= fun applied => .done applied.value) >>= fun value =>
          .done (.ofChange (f t) value) := by
        simp [perform]
    _ = (Tensor.apply t mode >>= fun applied => .done (applied.value.map f)) >>= fun value =>
          .done (.ofChange (f t) value) := by
        simp only [mirrors.apply]
    _ = (apply mode).perform t >>= fun result => .done (result.map f) := by
        simp only [perform, Exchange.bind_assoc]
        refine bind_congr ?_
        intro applied
        exact congrArg Exchange.done (CallResult.ofChange_map rfl)

theorem respects_assemble {fits : Addend α → Prop} (mirrors : Assembly.Mirrors fits f)
    {form : Form α} (all : Assembly.Contributes form fits) (options : AssemblyOptions) :
    Respects f (.assemble options form) := by
  intro t
  -- Reports may differ in their events, which are no part of the result of a call.
  let finish (report : AssemblyReport τ α) : CallResult τ α :=
    ⟨report.outcome.map fun _ => [], report.tensor⟩
  calc ((assemble options form).perform (f t) : Exchange β (CallResult τ α))
      = (Assembly.assemble options form (f t) >>= fun report => .done report.unreported) >>=
          fun report => .done (finish report) := by
        simp only [Exchange.bind_assoc]
        rfl
    _ = (Assembly.assemble options form t >>= fun report => .done (report.map f).unreported) >>=
          fun report => .done (finish report) := by
        simp only [mirrors.assemble all]
    _ = (assemble options form).perform t >>= fun result => .done (result.map f) := by
        simp only [perform, Exchange.bind_assoc]
        rfl

/-! ## Sequences of calls -/

theorem performAll_map (see : τ → List α) (respected : ∀ call ∈ calls, Respects f call) (t : σ) :
    (performAll see calls (f t) : Exchange β _) = performAll (fun u => see (f u)) calls t := by
  induction calls generalizing t with
  | nil => rfl
  | cons call later ih =>
      have now : Respects f call := respected call List.mem_cons_self
      have others : ∀ u, (performAll see later (f u) : Exchange β _) =
          performAll (fun u => see (f u)) later u :=
        ih fun other among => respected other (List.mem_cons_of_mem call among)
      simp only [performAll, now t, Exchange.bind_assoc, Exchange.bind_done]
      refine bind_congr ?_
      intro result
      exact congrArg (· >>= _) (others result.tensor)

theorem session_map (see : τ → List α) (respected : ∀ call ∈ calls, Respects f call) {t : σ}
    {records : List (CallRecord α β)} :
    Session see (f t) calls records ↔ Session (fun u => see (f u)) t calls records := by
  -- By induction on the calls, each of which deals with the peers before the map or after it alike.
  induction calls generalizing t records with
  | nil =>
      constructor
      · rintro ⟨⟩
        exact .nil t
      · rintro ⟨⟩
        exact .nil (f t)
  | cons call later ih =>
      have now : Respects f call := respected call List.mem_cons_self
      have others : ∀ {u : σ} {records : List (CallRecord α β)},
          Session see (f u) later records ↔ Session (fun u => see (f u)) u later records :=
        ih fun other among => respected other (List.mem_cons_of_mem call among)
      constructor
      · -- The result of the mapped call is the mapped result of the call.
        rintro (_ | ⟨made, onward⟩)
        simp only [now t] at made
        rcases Exchange.deals_bind_done_iff.mp made with ⟨result, inner, rfl⟩
        exact .cons inner (others.mp onward)
      · rintro (_ | @⟨_, _, _, result, dealings, _, made, onward⟩)
        have mapped : (call.perform (f t) : Exchange β _).Deals dealings
            (.done (result.map f)) := by
          simpa only [now t] using Exchange.deals_bind_done_iff.mpr ⟨result, made, rfl⟩
        exact .cons mapped (others.mpr onward)

end TensorCall
end FormAssembly
