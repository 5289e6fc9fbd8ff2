import LookoutVision.InferenceClient

/-!
# The polling loop behind `StartModel`

Two facts settle a `StartModel` without following its clock: a wait during which
no poll shows the expected status fails, however long it takes, and a wait with
time left succeeds at once if its first poll shows it.  Where every model's
status is fixed (`Steady`), nothing else can happen.
-/

namespace LookoutVision
namespace LookoutVisionInferenceClient
variable {env : Environment} {c : LookoutVisionInferenceClient} {component : String}
  {expected : ModelStatus} {timeout : Int}

/-- A wait that never sees the expected status ends without it. -/
theorem waitLoop_of_never {start n now : Nat}
    (h : ∀ n now, getModelStatus
      (env.describeModel c.stub.channel.target ⟨component⟩ n now).1 ≠ some expected) :
    (c.waitLoop env component expected timeout start n now).reached = false := by
  fun_induction waitLoop c env component expected timeout start n now with
  | case1 n now hlt request answer poll hreached => exact absurd hreached (h n now)
  | case2 n now hlt request answer poll hnot rest ih => exact ih
  | case3 n now hlt => rfl

/-- A wait with time left that sees the expected status at once ends with it. -/
theorem waitLoop_of_first {start n now : Nat} (hlt : (now : Int) - start < timeout)
    (h : getModelStatus
      (env.describeModel c.stub.channel.target ⟨component⟩ n now).1 = some expected) :
    (c.waitLoop env component expected timeout start n now).reached = true := by
  rw [waitLoop]
  simp only [hlt, if_true, h]

/-- `StartModel` succeeds exactly when its wait saw `RUNNING`. -/
theorem startModel_status : (c.startModel env component timeout).status = .successful ↔
    (c.waitForModelStatusWithTimeout env component .running timeout).reached = true := by
  change (if (c.waitForModelStatusWithTimeout env component .running timeout).reached then
    OperationStatus.successful else OperationStatus.failed) = .successful ↔ _
  split <;> simp_all

/-- No poll ever shows `RUNNING`: `StartModel` fails. -/
theorem startModel_of_never
    (h : ∀ n now, getModelStatus
      (env.describeModel c.stub.channel.target ⟨component⟩ n now).1 ≠ some .running) :
    (c.startModel env component timeout).status ≠ .successful := by
  rw [Ne, startModel_status, waitForModelStatusWithTimeout, waitLoop_of_never h]
  exact Bool.false_ne_true

end LookoutVisionInferenceClient

/-- Every component's status is fixed at every address, as `running` says, and
`DescribeModel` answers at once. -/
structure Steady (running : String → String → Bool) (env : Environment) : Prop where
  status : ∀ socket component n now,
    LookoutVisionInferenceClient.getModelStatus
      (env.describeModel socket ⟨component⟩ n now).1 = some .running ↔
        running socket component = true
  at_once : ∀ socket component n now, (env.describeModel socket ⟨component⟩ n now).2 = 0

theorem steady_steady (running : String → String → Bool) :
    Steady running (.steady running) where
  status := by
    intro socket component n now
    simp only [Environment.steady]
    cases running socket component <;> decide
  at_once := fun _ _ _ _ => rfl

/-- **Where statuses are fixed**, `StartModel` succeeds exactly when there is any
time to poll and the model runs. -/
theorem Steady.startModel {running : String → String → Bool} {env : Environment}
    (h : Steady running env) (c : LookoutVisionInferenceClient) (component : String)
    (timeout : Int) :
    (c.startModel env component timeout).status = .successful ↔
      0 < timeout ∧ running c.stub.channel.target component = true := by
  constructor
  · intro hsucc
    have hrunning : running c.stub.channel.target component = true := by
      by_contra hnot
      exact LookoutVisionInferenceClient.startModel_of_never
        (fun n now hs => hnot ((h.status _ _ n now).mp hs)) hsucc
    refine ⟨?_, hrunning⟩
    by_contra hle
    rw [LookoutVisionInferenceClient.startModel_status,
      LookoutVisionInferenceClient.waitForModelStatusWithTimeout,
      LookoutVisionInferenceClient.waitLoop, if_neg (by omega)] at hsucc
    cases hsucc
  · rintro ⟨hpos, hrunning⟩
    exact LookoutVisionInferenceClient.startModel_status.mpr
      (LookoutVisionInferenceClient.waitLoop_of_first (by omega)
        ((h.status _ _ 0 env.clock).mpr hrunning))

end LookoutVision
