import LookoutVision.OwnedHeap
import LookoutVision.PollingLoop

/-!
# The statuses a wait allocates

`getModelStatus` returns a `ModelStatus` it has created with `new`, or `NULL`, and
`waitForModelStatusWithTimeout` has to look at it and delete it in every round,
the one that ends the wait included.  `InferenceClient` has the statuses by
value; here they are objects, and the loop can read through `NULL`, leak one or
delete one twice.

It does none of this (`startModel_frees`, by induction on the rounds of the loop
by value): the loop on the heap returns what the loop by value does, and leaves
the heap as it found it, one address older for every poll that returned OK.
-/

namespace LookoutVision

/-- A `DescribeModel` that returned OK. -/
def Call.described : Call → Bool
  | ⟨_, .describeModel _ _ (.returned status _) _⟩ => status.ok
  | _ => false

namespace OnHeap
variable (env : Environment) (c : LookoutVisionInferenceClient) (component : String)

/-- `getModelStatus`: the heap afterwards, and the pointer. -/
def getModelStatus (statuses : OwnedHeap ModelStatus) :
    RpcOutcome DescribeModelResponse → OwnedHeap ModelStatus × Option Nat
  | .returned status reply =>
      if status.ok then
        ((statuses.new reply.modelDescription.status).1,
          some (statuses.new reply.modelDescription.status).2)
      else (statuses, none)
  | .threw _ => (statuses, none)

/-- `model_status && *model_status == expected_status`. -/
def isStatus (statuses : OwnedHeap ModelStatus) (expectedStatus : ModelStatus) :
    Option Nat → Except OwnedHeap.Fault Bool
  | none => .ok false
  | some a =>
      match statuses.read (some a) with
      | .error fault => .error fault
      | .ok status => .ok (status == expectedStatus)

/-- The polling loop of `waitForModelStatusWithTimeout`.  Both ways on from the
comparison begin with `delete model_status`. -/
def waitLoop (expectedStatus : ModelStatus) (timeoutInSeconds : Int) (start n now : Nat)
    (statuses : OwnedHeap ModelStatus) :
    Except OwnedHeap.Fault (OwnedHeap ModelStatus × LookoutVisionInferenceClient.Wait) :=
  if (now : Int) - start < timeoutInSeconds then
    let request : DescribeModelRequest := ⟨component⟩
    let answer := env.describeModel c.stub.channel.target request n now
    let poll : Call :=
      ⟨c.stub.channel.target, .describeModel request now answer.1 answer.2⟩
    let modelStatus := getModelStatus statuses answer.1
    match isStatus modelStatus.1 expectedStatus modelStatus.2 with
    | .error fault => .error fault
    | .ok reached =>
        match modelStatus.1.delete modelStatus.2 with
        | .error fault => .error fault
        | .ok statuses' =>
            if reached then .ok (statuses', ⟨true, [poll], now + answer.2⟩)
            else
              match waitLoop expectedStatus timeoutInSeconds start (n + 1)
                (now + answer.2 + pollingIntervalInSeconds) statuses' with
              | .error fault => .error fault
              | .ok (statuses'', rest) =>
                  .ok (statuses'', ⟨rest.reached, poll :: rest.polls, rest.finished⟩)
  else .ok (statuses, ⟨false, [], now⟩)
termination_by (start + timeoutInSeconds - now).toNat
decreasing_by
  simp only [pollingIntervalInSeconds]
  omega

/-- `StartModel`, with the statuses its wait creates. -/
def startModel (modelStatusTimeout : Int) (statuses : OwnedHeap ModelStatus) :
    Except OwnedHeap.Fault (OwnedHeap ModelStatus × LookoutVisionInferenceClient.Start) :=
  let request : StartModelRequest := ⟨component⟩
  let call : Call := ⟨c.stub.channel.target,
    .startModel request (env.startModel c.stub.channel.target request)⟩
  match waitLoop env c component .running modelStatusTimeout env.clock 0 env.clock statuses with
  | .error fault => .error fault
  | .ok (statuses', wait) =>
      .ok (statuses',
        ⟨if wait.reached then .successful else .failed, call :: wait.polls, wait.finished⟩)

/-- **One round**: what it creates it looks at and deletes. -/
theorem round_frees (statuses : OwnedHeap ModelStatus) (expected : ModelStatus)
    (outcome : RpcOutcome DescribeModelResponse) (target : String)
    (request : DescribeModelRequest) (begun latency : Nat) :
    ∃ statuses', isStatus (getModelStatus statuses outcome).1 expected
        (getModelStatus statuses outcome).2 =
          .ok (decide (LookoutVisionInferenceClient.getModelStatus outcome = some expected)) ∧
      (getModelStatus statuses outcome).1.delete (getModelStatus statuses outcome).2 =
        .ok statuses' ∧
      statuses'.object = statuses.object ∧ statuses'.next = statuses.next +
        ([Call.mk target (.describeModel request begun outcome latency)].countP
          Call.described) := by
  cases outcome with
  | threw what => exact ⟨statuses, rfl, rfl, rfl, rfl⟩
  | returned status reply =>
    by_cases hok : status.ok = true
    · have hnew : (statuses.new reply.modelDescription.status).1.object statuses.next =
          some reply.modelDescription.status := OwnedHeap.object_new_self
      obtain ⟨hlt, hdelete⟩ := OwnedHeap.delete_of_object hnew
      simp only [getModelStatus, LookoutVisionInferenceClient.getModelStatus, hok, if_true,
        List.countP_singleton, Call.described]
      refine ⟨_, ?_, hdelete, ?_, rfl⟩
      · have hread := OwnedHeap.read_of_object hnew
        simp only [isStatus, OwnedHeap.new] at hread ⊢
        rw [hread]
        simp only [Option.some.injEq]
        rfl
      · -- Everything but the new address is as it was, and that one is free again.
        funext b
        by_cases hb : b = statuses.next
        · rw [hb, OwnedHeap.object_put_self, statuses.unused _ (Nat.le_refl _)]
        · rw [OwnedHeap.object_put_of_ne _ _ hb, OwnedHeap.object_new_of_ne hb]
    · simp only [getModelStatus, LookoutVisionInferenceClient.getModelStatus, hok,
        Bool.false_eq_true, if_false, List.countP_singleton, Call.described]
      exact ⟨statuses, rfl, rfl, rfl, rfl⟩

/-- A round whose objects behave, and the rounds after it. -/
theorem waitLoop_round {expected : ModelStatus} {timeout : Int} {start n now : Nat}
    {reached : Bool} {statuses' : OwnedHeap ModelStatus}
    {outcome : RpcOutcome DescribeModelResponse} {latency : Nat}
    {statuses : OwnedHeap ModelStatus} (hlt : (now : Int) - start < timeout)
    (hanswer : env.describeModel c.stub.channel.target ⟨component⟩ n now = (outcome, latency))
    (his : isStatus (getModelStatus statuses outcome).1 expected
      (getModelStatus statuses outcome).2 = .ok reached)
    (hdelete : (getModelStatus statuses outcome).1.delete (getModelStatus statuses outcome).2 =
      .ok statuses') :
    waitLoop env c component expected timeout start n now statuses =
      if reached then .ok (statuses', ⟨true,
        [⟨c.stub.channel.target, .describeModel ⟨component⟩ now outcome latency⟩],
        now + latency⟩)
      else
        match waitLoop env c component expected timeout start (n + 1)
          (now + latency + pollingIntervalInSeconds) statuses' with
        | .error fault => .error fault
        | .ok (statuses'', rest) => .ok (statuses'', ⟨rest.reached,
            ⟨c.stub.channel.target, .describeModel ⟨component⟩ now outcome latency⟩ :: rest.polls,
            rest.finished⟩) := by
  rw [waitLoop, if_pos hlt]
  simp only [hanswer, his, hdelete]

/-- **Every wait**, by induction on its rounds. -/
theorem waitLoop_frees (expected : ModelStatus) (timeout : Int) (start n now : Nat) :
    ∀ statuses, ∃ statuses',
      waitLoop env c component expected timeout start n now statuses =
        .ok (statuses', c.waitLoop env component expected timeout start n now) ∧
      statuses'.object = statuses.object ∧ statuses'.next = statuses.next +
        (c.waitLoop env component expected timeout start n now).polls.countP Call.described := by
  fun_induction LookoutVisionInferenceClient.waitLoop c env component expected timeout start n
    now with
  | case1 n now hlt request answer poll hreached =>
    intro statuses
    obtain ⟨statuses', his, hdelete, hobject, hnext⟩ := round_frees statuses expected
      answer.1 c.stub.channel.target request now answer.2
    refine ⟨statuses', ?_, hobject, hnext⟩
    rw [waitLoop_round env c component hlt rfl his hdelete, decide_eq_true hreached, if_pos rfl]
  | case2 n now hlt request answer poll hnot rest ih =>
    intro statuses
    obtain ⟨statuses₁, his, hdelete, hobject₁, hnext₁⟩ := round_frees statuses expected
      answer.1 c.stub.channel.target request now answer.2
    obtain ⟨statuses', hrest, hobject, hnext⟩ := ih statuses₁
    refine ⟨statuses', ?_, hobject.trans hobject₁, ?_⟩
    · rw [waitLoop_round env c component hlt rfl his hdelete, decide_eq_false hnot,
        if_neg Bool.false_ne_true]
      rw [hrest]
    · rw [hnext, hnext₁, Nat.add_assoc, ← List.countP_append]
      rfl
  | case3 n now hlt =>
    intro statuses
    refine ⟨statuses, ?_, rfl, rfl⟩
    rw [waitLoop, if_neg hlt]

/-- A `StartModel` with a wait that returns as it does by value returns so itself. -/
theorem startModel_of_wait {timeout : Int} {statuses statuses' : OwnedHeap ModelStatus}
    (hwait : waitLoop env c component .running timeout env.clock 0 env.clock statuses =
      .ok (statuses', c.waitLoop env component .running timeout env.clock 0 env.clock)) :
    startModel env c component timeout statuses =
      .ok (statuses', c.startModel env component timeout) := by
  simp only [startModel, hwait]
  rfl

/-- **A `StartModel` frees what it allocates.**  Whatever the agent answers and
however long the wait, it returns as it does by value; no status is left, none is
read through `NULL` or deleted twice; and it created one for each poll that
returned OK. -/
theorem startModel_frees (timeout : Int) (statuses : OwnedHeap ModelStatus) :
    ∃ statuses', startModel env c component timeout statuses =
        .ok (statuses', c.startModel env component timeout) ∧
      statuses'.object = statuses.object ∧ statuses'.next = statuses.next +
        (c.startModel env component timeout).calls.countP Call.described := by
  obtain ⟨statuses', hwait, hobject, hnext⟩ :=
    waitLoop_frees env c component .running timeout env.clock 0 env.clock statuses
  refine ⟨statuses', startModel_of_wait env c component hwait, hobject, ?_⟩
  rw [hnext]
  congr 1

end OnHeap
end LookoutVision
