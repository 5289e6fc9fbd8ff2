import LookoutVision.PollingLoop
import Mathlib.Algebra.Order.Archimedean.Real.Basic

/-!
# A model that is up before the deadline

The agent's side of a wait is a timeline: at every instant, a real number, the
model has one status.  Where `DescribeModel` answers at once and truthfully
(`Truthful`), only the sleeps move the clock, so the loop sees the timeline at
`start`, `start + 5`, `start + 10` and so on, as long as that is before the
deadline.  It sleeps after its last look and leaves on the clock alone.

So a model that comes up for good before the deadline is reported as started
exactly if it is up at one of those instants (`up_in_time_iff`); for the last
stretch, which is up to five seconds long, `StartModel` says that the model did
not reach `RUNNING` within a time in which it did.
-/

namespace LookoutVision

/-- `DescribeModel` for this component answers at once with the status of the
instant it is asked.  The wait begins at the instant `start`, when the clock
reads `env.clock`. -/
def Truthful (timeline : ℝ → ModelStatus) (start : ℝ) (env : Environment)
    (socket component : String) : Prop :=
  ∀ n now, env.describeModel socket ⟨component⟩ n now =
    (.returned .success ⟨⟨timeline (start + ((now : ℝ) - env.clock))⟩⟩, 0)

namespace LookoutVisionInferenceClient
variable {env : Environment} {c : LookoutVisionInferenceClient} {component : String}
  {expected : ModelStatus} {timeout : Int}

/-- Where answers take no time, a wait sees what is there every five seconds. -/
theorem waitLoop_at_once {start n now : Nat}
    (h : ∀ n now, (env.describeModel c.stub.channel.target ⟨component⟩ n now).2 = 0) :
    (c.waitLoop env component expected timeout start n now).reached = true ↔
      ∃ k : Nat, ((now + 5 * k : Nat) : Int) - start < timeout ∧
        getModelStatus (env.describeModel c.stub.channel.target ⟨component⟩ (n + k)
          (now + 5 * k)).1 = some expected := by
  fun_induction waitLoop c env component expected timeout start n now with
  | case1 n now hlt request answer poll hreached =>
    exact ⟨fun _ => ⟨0, hlt, hreached⟩, fun _ => rfl⟩
  | case2 n now hlt request answer poll hnot rest ih =>
    have hlatency : answer.2 = 0 := h n now
    rw [ih]
    have hnow : now + answer.2 + pollingIntervalInSeconds = now + 5 := by
      rw [hlatency]
      rfl
    simp only [hnow]
    constructor
    · rintro ⟨k, hk, hsaw⟩
      have hn : n + (k + 1) = n + 1 + k := by omega
      have hnext : now + 5 * (k + 1) = now + 5 + 5 * k := by omega
      exact ⟨k + 1, by omega, by rw [hn, hnext]; exact hsaw⟩
    · rintro ⟨k, hk, hsaw⟩
      cases k with
      | zero => exact absurd hsaw hnot
      | succ k =>
        have hn : n + (k + 1) = n + 1 + k := by omega
        have hnext : now + 5 * (k + 1) = now + 5 + 5 * k := by omega
        exact ⟨k, by omega, by rw [← hn, ← hnext]; exact hsaw⟩
  | case3 n now hge =>
    constructor
    · intro hreached
      cases hreached
    · rintro ⟨k, hk, -⟩
      omega

/-- **What a truthful agent lets a `StartModel` see.** -/
theorem startModel_truthful {timeline : ℝ → ModelStatus} {start : ℝ}
    (h : Truthful timeline start env c.stub.channel.target component) :
    (c.startModel env component timeout).status = .successful ↔
      ∃ k : Nat, 5 * (k : Int) < timeout ∧ timeline (start + 5 * k) = .running := by
  have hat_once : ∀ n now,
      (env.describeModel c.stub.channel.target ⟨component⟩ n now).2 = 0 := fun n now => by
    rw [h n now]
  rw [startModel_status, waitForModelStatusWithTimeout, waitLoop_at_once hat_once]
  refine exists_congr fun k => ?_
  have hinstant : start + (((env.clock + 5 * k : Nat) : ℝ) - env.clock) = start + 5 * k := by
    push_cast
    ring
  rw [h (0 + k) (env.clock + 5 * k), hinstant]
  refine and_congr ?_ ?_
  · constructor <;> intro hlt <;> omega
  · show some (timeline (start + 5 * k)) = some .running ↔ _
    exact Option.some_inj

/-- The last look is five times `(timeout - 1) / 5` seconds after the first. -/
theorem last_look {k : Nat} : 5 * (k : Int) < timeout ↔ (k : Int) ≤ (timeout - 1) / 5 := by
  omega

/-- **A model that is up in time** is reported as started exactly if it is up at
one of the looks; if it comes up once, exactly if that is not after the last
look. -/
theorem up_in_time_iff {timeline : ℝ → ModelStatus} {start up : ℝ}
    (h : Truthful timeline start env c.stub.channel.target component) (hpos : 0 < timeout)
    (hup : ∀ t, up ≤ t → timeline t = .running) :
    ((c.startModel env component timeout).status = .successful ↔
      ∃ k : Nat, 5 * (k : Int) < timeout ∧ timeline (start + 5 * k) = .running) ∧
    ((∀ t, t < up → timeline t ≠ .running) →
      ((c.startModel env component timeout).status = .successful ↔
        up ≤ start + 5 * (((timeout - 1) / 5 : Int) : ℝ))) := by
  refine ⟨startModel_truthful h, fun hfirst => ?_⟩
  rw [startModel_truthful h]
  constructor
  · rintro ⟨k, hk, hrunning⟩
    have hle : up ≤ start + 5 * k := by
      by_contra hnot
      exact hfirst _ (not_le.mp hnot) hrunning
    have hlast : (k : ℝ) ≤ (((timeout - 1) / 5 : Int) : ℝ) := by
      exact_mod_cast last_look.mp hk
    linarith
  · intro hle
    obtain ⟨k, hk⟩ := Int.eq_ofNat_of_zero_le (show 0 ≤ (timeout - 1) / 5 by omega)
    refine ⟨k, last_look.mpr (Int.le_of_eq hk.symm), hup _ ?_⟩
    rw [hk] at hle
    exact_mod_cast hle

end LookoutVisionInferenceClient

/-! ## A model that comes up after the last look -/

/-- Stopped, and running from the instant 1 on. -/
noncomputable def upAtOne (t : ℝ) : ModelStatus := if 1 ≤ t then .running else .stopped

/-- An agent on which every model comes up at the instant 1. -/
def agentUpAtOne : Environment :=
  { Environment.steady fun _ _ => true with
    describeModel := fun _ _ _ now =>
      (.returned .success ⟨⟨if 1 ≤ now then .running else .stopped⟩⟩, 0) }

def lateClient : LookoutVisionInferenceClient :=
  ⟨"0.0.0.0:50051", ⟨"0.0.0.0:50051"⟩, ⟨⟨"0.0.0.0:50051"⟩⟩, none⟩

theorem agentUpAtOne_truthful (socket component : String) :
    Truthful upAtOne 0 agentUpAtOne socket component := by
  intro n now
  have hinstant : (0 : ℝ) + ((now : ℝ) - agentUpAtOne.clock) = now := by
    simp [agentUpAtOne, Environment.steady]
  have hsame : upAtOne (now : ℝ) = if 1 ≤ now then .running else .stopped := by
    simp only [upAtOne, Nat.one_le_cast]
  rw [hinstant, hsame]
  rfl

theorem upAtOne_running {t : ℝ} (h : 1 ≤ t) : upAtOne t = .running := if_pos h

theorem up_in_time_iff_sample :
    ((lateClient.startModel agentUpAtOne "SampleModel" 10).status = .successful ↔
      ∃ k : Nat, 5 * (k : Int) < 10 ∧ upAtOne (0 + 5 * k) = .running) ∧
    ((∀ t, t < 1 → upAtOne t ≠ .running) →
      ((lateClient.startModel agentUpAtOne "SampleModel" 10).status = .successful ↔
        1 ≤ 0 + 5 * ((((10 : Int) - 1) / 5 : Int) : ℝ))) :=
  LookoutVisionInferenceClient.up_in_time_iff
    (agentUpAtOne_truthful lateClient.stub.channel.target "SampleModel") (by decide)
    (fun _ => upAtOne_running)

/-- **Up after one second, and reported as not up within three.** -/
theorem up_but_reported_late :
    Truthful upAtOne 0 agentUpAtOne lateClient.stub.channel.target "SampleModel" ∧
      (1 : ℝ) < 0 + ((3 : Int) : ℝ) ∧ (∀ t, 1 ≤ t → upAtOne t = .running) ∧
      (lateClient.startModel agentUpAtOne "SampleModel" 3).status = .failed := by
  have htruthful := agentUpAtOne_truthful lateClient.stub.channel.target "SampleModel"
  refine ⟨htruthful, by norm_num, fun _ => upAtOne_running, ?_⟩
  have hnot : (lateClient.startModel agentUpAtOne "SampleModel" 3).status ≠ .successful := by
    rw [Ne, LookoutVisionInferenceClient.startModel_truthful htruthful]
    rintro ⟨k, hk, hrunning⟩
    obtain rfl : k = 0 := by omega
    simp [upAtOne] at hrunning
  cases hs : (lateClient.startModel agentUpAtOne "SampleModel" 3).status with
  | successful => exact absurd hs hnot
  | failed => rfl

end LookoutVision
