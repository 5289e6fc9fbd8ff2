import LookoutVision.PollingLoop

/-!
# How much time a start needs

`StartModel` looks, and sleeps five seconds between two looks; a look takes as long
as its `DescribeModel`.  Say a model is up `up` seconds after the wait began and each
answer takes `latency` seconds at most.  The last look before the model is up can then
be no later than `lastLook`, and the next one comes at most `latency + 5` seconds
after it.  A timeout beyond that is enough for every such agent, and no smaller one
is: an agent can spread its answers so that the look before comes as late as it can
(`slowAgent`).  So `start_succeeds_iff` is exact.
-/

namespace LookoutVision

/-- The model is up from `up` seconds after the wait began, and no answer takes more
than `latency` seconds. -/
structure ComesUp (up latency : Nat) (env : Environment) (socket component : String) :
    Prop where
  running : ∀ n now, env.clock + up ≤ now → LookoutVisionInferenceClient.getModelStatus
    (env.describeModel socket ⟨component⟩ n now).1 = some .running
  answered : ∀ n now, (env.describeModel socket ⟨component⟩ n now).2 ≤ latency

/-- The latest second before `up` at which a look can begin: with `k` looks before it,
it begins between `5 * k` and `(5 + latency) * k`. -/
def lastLook (up latency : Nat) : Nat := min ((5 + latency) * ((up - 1) / 5)) (up - 1)

/-- The latest second at which a model that is up after `up` seconds is first seen
running. -/
def lastFirstSight (up latency : Nat) : Nat :=
  if up = 0 then 0 else lastLook up latency + 5 + latency

/-- An agent that answers as late as it may, as long as that does not bring a look to
where the model is up; then the last look before it takes as long as it may. -/
def slowAgent (up latency : Nat) : Environment :=
  { Environment.steady fun _ _ => true with
    describeModel := fun _ _ n now =>
      (.returned .success ⟨⟨if up ≤ now then .running else .starting⟩⟩,
        if n < (up - 1) / 5 then
          min latency (lastLook up latency - 5 * ((up - 1) / 5) - n * latency)
        else latency) }

/-- When the looks of a wait on a slow agent begin, and when the one after them would. -/
def slowLook (up latency n : Nat) : Nat :=
  if n ≤ (up - 1) / 5 then
    5 * n + min (lastLook up latency - 5 * ((up - 1) / 5)) (n * latency)
  else lastFirstSight up latency

section
variable {up latency n t : Nat}

theorem lastLook_bounds (up latency : Nat) :
    5 * ((up - 1) / 5) ≤ lastLook up latency ∧ lastLook up latency ≤ up - 1 ∧
      lastLook up latency ≤ 5 * ((up - 1) / 5) + (up - 1) / 5 * latency := by
  have hmul : (5 + latency) * ((up - 1) / 5) =
      5 * ((up - 1) / 5) + (up - 1) / 5 * latency := by
    rw [Nat.add_mul, Nat.mul_comm latency]
  unfold lastLook
  rw [hmul]
  omega

/-- Looks that begin before the model is up begin by `lastLook`. -/
theorem le_lastLook (hlow : 5 * n ≤ t) (hhigh : t ≤ (5 + latency) * n) (ht : t < up) :
    t ≤ lastLook up latency := by
  have hn : n ≤ (up - 1) / 5 := by omega
  have hmul : (5 + latency) * n ≤ (5 + latency) * ((up - 1) / 5) := Nat.mul_le_mul_left _ hn
  unfold lastLook
  omega

/-- A slow agent's looks all come before the model is up. -/
theorem slowLook_lt (hup : 0 < up) (hn : n ≤ (up - 1) / 5) : slowLook up latency n < up := by
  obtain ⟨hlow, hhigh, -⟩ := lastLook_bounds up latency
  unfold slowLook
  rw [if_pos hn]
  omega

/-- From one look to the next. -/
theorem slowLook_succ (hup : 0 < up) (hn : n ≤ (up - 1) / 5) :
    slowLook up latency (n + 1) = slowLook up latency n + (if n < (up - 1) / 5 then
      min latency (lastLook up latency - 5 * ((up - 1) / 5) - n * latency) else latency) + 5 := by
  obtain ⟨hlow, -, hspread⟩ := lastLook_bounds up latency
  unfold slowLook
  rw [if_pos hn]
  by_cases hlast : n < (up - 1) / 5
  · rw [if_pos (by omega), if_pos hlast, Nat.add_one_mul n latency]
    omega
  · -- The last look has spent all the time the answers may take.
    have hsame : n = (up - 1) / 5 := by omega
    rw [if_neg (by omega), if_neg hlast, hsame, Nat.min_eq_left (by omega), lastFirstSight,
      if_neg (by omega)]
    omega

theorem slowAgent_comesUp (up latency : Nat) (socket component : String) :
    ComesUp up latency (slowAgent up latency) socket component where
  running := by
    intro n now h
    have hup : up ≤ now := by
      have hclock : (slowAgent up latency).clock = 0 := rfl
      omega
    simp only [slowAgent, hup, if_true]
    rfl
  answered := by
    intro n now
    simp only [slowAgent]
    split
    · exact Nat.min_le_left ..
    · exact Nat.le_refl _

end

namespace LookoutVisionInferenceClient
variable {env : Environment} {c : LookoutVisionInferenceClient} {component : String}
  {timeout : Int} {up latency : Nat}

/-- **A wait with time enough**, by induction on its looks: after `n` of them, the next
one begins between `5 * n` and `(5 + latency) * n` seconds after the wait began. -/
theorem waitLoop_of_comesUp (h : ComesUp up latency env c.stub.channel.target component)
    (htime : (lastFirstSight up latency : Int) < timeout) (n now : Nat) :
    ∀ t, now = env.clock + t → 5 * n ≤ t → t ≤ (5 + latency) * n → (t : Int) < timeout →
      (c.waitLoop env component .running timeout env.clock n now).reached = true := by
  fun_induction waitLoop c env component .running timeout env.clock n now with
  | case1 n now hlt request answer poll hreached =>
    intro t hnow hlow hhigh ht
    rfl
  | case2 n now hlt request answer poll hnot rest ih =>
    intro t hnow hlow hhigh ht
    have hbefore : t < up := by
      by_contra hle
      exact hnot (h.running n now (by omega))
    have hanswered : answer.2 ≤ latency := h.answered n now
    have hlook : t ≤ lastLook up latency := le_lastLook hlow hhigh hbefore
    have hsight : lastFirstSight up latency = lastLook up latency + 5 + latency :=
      if_neg (by omega)
    refine ih (t + answer.2 + 5) ?_ (by omega) ?_ (by omega)
    · rw [hnow, pollingIntervalInSeconds]
      omega
    · rw [Nat.mul_add]
      omega
  | case3 n now hge =>
    intro t hnow hlow hhigh ht
    omega

/-- **A wait on a slow agent**, by induction on its looks: each begins before the model
is up, and there is no time for another. -/
theorem waitLoop_of_slowAgent (hup : 0 < up)
    (htime : timeout ≤ (lastFirstSight up latency : Int)) (n now : Nat) :
    n ≤ (up - 1) / 5 + 1 → now = slowLook up latency n →
      (c.waitLoop (slowAgent up latency) component .running timeout 0 n now).reached = false := by
  fun_induction waitLoop c (slowAgent up latency) component .running timeout 0 n now with
  | case1 n now hlt request answer poll hreached =>
    intro hn hnow
    by_cases hlast : n ≤ (up - 1) / 5
    · have hbefore : now < up := hnow ▸ slowLook_lt hup hlast
      have hstatus : getModelStatus answer.1 = some .starting := by
        simp only [answer, slowAgent, if_neg (Nat.not_le.mpr hbefore)]
        rfl
      rw [hstatus] at hreached
      cases hreached
    · rw [slowLook, if_neg hlast] at hnow
      omega
  | case2 n now hlt request answer poll hnot rest ih =>
    intro hn hnow
    have hlast : n ≤ (up - 1) / 5 := by
      by_contra hafter
      rw [slowLook, if_neg hafter] at hnow
      omega
    refine ih (by omega) ?_
    rw [slowLook_succ hup hlast, hnow]
    rfl
  | case3 n now hge => exact fun _ _ => rfl

/-- **How long a timeout must be**, exactly: beyond the second at which the model is
first seen running at the latest. -/
theorem start_succeeds_iff (up latency : Nat) (timeout : Int) :
    (∀ env c component, ComesUp up latency env c.stub.channel.target component →
      (startModel c env component timeout).status = .successful) ↔
      (lastFirstSight up latency : Int) < timeout := by
  constructor
  · intro hall
    by_contra hle
    let c : LookoutVisionInferenceClient := ⟨"", ⟨""⟩, ⟨⟨""⟩⟩, none⟩
    have hreached := startModel_status.mp
      (hall (slowAgent up latency) c "" (slowAgent_comesUp up latency _ _))
    have hnot : (c.waitLoop (slowAgent up latency) "" .running timeout 0 0 0).reached = false := by
      by_cases hup : up = 0
      · -- No time for a single look.
        rw [lastFirstSight, if_pos hup] at hle
        rw [waitLoop, if_neg (by omega)]
      · refine waitLoop_of_slowAgent (by omega) (by omega) 0 0 (Nat.zero_le _) ?_
        simp [slowLook]
    exact absurd (hreached.symm.trans hnot) Bool.noConfusion
  · intro htime env c component h
    rw [startModel_status, waitForModelStatusWithTimeout]
    exact waitLoop_of_comesUp h htime 0 env.clock 0 rfl (Nat.zero_le _) (Nat.zero_le _)
      (by omega)

end LookoutVisionInferenceClient
end LookoutVision
