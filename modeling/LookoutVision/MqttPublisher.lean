import LookoutVision.FloatText
import LookoutVision.LatestVerdict

/-!
# The `mqttpublisher` element

`mqtt-publish-sample`: `GreengrassClient::PublishToIoTMQTT`, and the element that
reads a frame's result, publishes it to a topic and pushes the frame.

Of the AWS SDK: a publish attempt times out, succeeds, or ends with an operation
error, whose message is optional, or with an RPC error; `value()` of an absent
message is an error.
-/

namespace LookoutVision

/-! ## The Greengrass client -/

inductive Qos
  | atMostOnce
  | atLeastOnce
deriving DecidableEq, Repr

structure PublishToIoTCoreRequest where
  topicName : String
  payload : List UInt8
  qos : Qos
deriving DecidableEq, Repr

/-- How a publish attempt ends. -/
inductive PublishOutcome
  | timedOut
  | success
  | operationError (message : Option String)
  | rpcError (text : String)
deriving DecidableEq, Repr

/-- `GetMessage().value()`. -/
def optionalValue : Option String → Except Fault String
  | none => .error (.uncaught "value() of an absent optional")
  | some text => .ok text

/-- The request for a topic and a payload. -/
def publishRequest (topic payload : String) : PublishToIoTCoreRequest :=
  ⟨topic, payload.toUTF8.toList, .atLeastOnce⟩

/-- `PublishToIoTMQTT`: the request of its one attempt, and its status. -/
def publishToIoTMQTT (outcome : PublishOutcome) (topic payload : String) :
    Except Fault (PublishToIoTCoreRequest × OperationStatus) :=
  match outcome with
  | .timedOut => .ok (publishRequest topic payload, .failed)
  | .success => .ok (publishRequest topic payload, .successful)
  | .operationError message =>
      -- The message is printed whether there is one or not.
      match optionalValue message with
      | .error fault => .error fault
      | .ok _ => .ok (publishRequest topic payload, .failed)
  | .rpcError _ => .ok (publishRequest topic payload, .failed)

/-! ## The element -/

/-- `GstMqttPublisher`.  Its `publish_topic` is `none` when it is `NULL`. -/
structure GstMqttPublisher where
  publishTopic : Option String
deriving DecidableEq, Repr

def gstMqttPublisherInit : GstMqttPublisher := ⟨some "lookoutvision/anomalydetection/result"⟩

/-- `set_property` of `publish-topic`: `g_strdup` hands `NULL` on. -/
def gstMqttPublisherSetProperty (filter : GstMqttPublisher) (publishTopic : Option String) :
    GstMqttPublisher :=
  { filter with publishTopic := publishTopic }

/-- `result_message`. -/
def resultMessage (isAnomalous : Bool) (confidence : FloatBits) : String :=
  "Detect Anomaly Result - Is Anomalous? " ++ (if isAnomalous then "1" else "0") ++
    ", Confidence: " ++ Binary32.toText confidence

/-- What a run of the publisher's chain function leaves: the publish attempts it
made and the buffers it pushed. -/
structure Published where
  attempts : List PublishToIoTCoreRequest
  pushed : List GstBuffer
deriving DecidableEq, Repr

/-- `gst_mqtt_publisher_chain`; a publish attempt, if it makes one, ends as
`outcome` says.  What `PublishToIoTMQTT` returns is not looked at. -/
def gstMqttPublisherChain (outcome : PublishOutcome) (registered : Bool)
    (filter : GstMqttPublisher) (buf : GstBuffer) : Except Fault Published :=
  match gstBufferGetLookoutVisionMeta registered buf with
  | .error fault => .error fault
  | .ok none => .ok ⟨[], [buf]⟩
  | .ok (some ⟨none⟩) => .ok ⟨[], [buf]⟩
  | .ok (some ⟨some result⟩) =>
      if result.resultStatus = .successful then
        match stdString filter.publishTopic with
        | .error fault => .error fault
        | .ok topic =>
            match publishToIoTMQTT outcome topic
                (resultMessage result.isAnomalous result.confidence) with
            | .error fault => .error fault
            | .ok (request, _) => .ok ⟨[request], [buf]⟩
      else .ok ⟨[], [buf]⟩

/-! ## What a payload states -/

/-- Two labelled texts are the same only with the same two values, where the first
values are equally long. -/
theorem labelled_inj {label middle value value' last last' : String}
    (hlen : value.toList.length = value'.toList.length)
    (h : label ++ value ++ middle ++ last = label ++ value' ++ middle ++ last') :
    value = value' ∧ last = last' := by
  have hchars := congrArg String.toList h
  simp only [String.toList_append, List.append_assoc] at hchars
  obtain ⟨hvalue, hrest⟩ := List.append_inj (List.append_cancel_left hchars) hlen
  exact ⟨String.toList_injective hvalue, String.toList_injective (List.append_cancel_left hrest)⟩

/-- **A payload states the verdict**: whether it is anomalous, and its confidence
to the printed millionths. -/
theorem resultMessage_inj {isAnomalous isAnomalous' : Bool} {confidence confidence' : FloatBits}
    (h : resultMessage isAnomalous confidence = resultMessage isAnomalous' confidence') :
    isAnomalous = isAnomalous' ∧ Binary32.toText confidence = Binary32.toText confidence' := by
  have hlen : (if isAnomalous then "1" else "0").toList.length =
      (if isAnomalous' then "1" else "0").toList.length := by
    cases isAnomalous <;> cases isAnomalous' <;> rfl
  obtain ⟨hflag, htext⟩ := labelled_inj hlen h
  refine ⟨?_, htext⟩
  cases isAnomalous <;> cases isAnomalous'
  · rfl
  · exact absurd hflag (by decide)
  · exact absurd hflag (by decide)
  · rfl

/-! ## What the element does with a frame -/

/-- An attempt that ends so is survived. -/
def PublishOutcome.Survived (outcome : PublishOutcome) : Prop := outcome ≠ .operationError none

instance : DecidablePred PublishOutcome.Survived :=
  fun outcome => inferInstanceAs (Decidable (outcome ≠ .operationError none))

section
variable {outcome : PublishOutcome} {topic payload : String}

/-- An attempt returns, with its request, exactly when it is survived. -/
theorem publishToIoTMQTT_ok_iff :
    (∃ status, publishToIoTMQTT outcome topic payload =
      .ok (publishRequest topic payload, status)) ↔ outcome.Survived := by
  constructor
  · rintro ⟨status, h⟩ rfl
    cases h
  · intro hsurvived
    unfold publishToIoTMQTT
    split
    · exact ⟨_, rfl⟩
    · exact ⟨_, rfl⟩
    · rename_i message
      cases message with
      | none => exact absurd rfl hsurvived
      | some text => exact ⟨_, rfl⟩
    · exact ⟨_, rfl⟩

theorem publishToIoTMQTT_request {request : PublishToIoTCoreRequest} {status : OperationStatus}
    (h : publishToIoTMQTT outcome topic payload = .ok (request, status)) :
    request = publishRequest topic payload ∧ outcome.Survived := by
  have hsurvived : outcome.Survived := by
    rintro rfl
    cases h
  obtain ⟨status', hok⟩ := publishToIoTMQTT_ok_iff.mpr hsurvived
  rw [hok] at h
  exact ⟨(Prod.mk.inj (Except.ok.inj h)).1.symm, hsurvived⟩

end

section
variable (outcome : PublishOutcome) (filter : GstMqttPublisher) {buf : GstBuffer}
  {result : GstLookoutVisionResult}

theorem read_of_metas (h : buf.lookoutVisionMetas = [metaWith result]) :
    gstBufferGetLookoutVisionMeta true buf = .ok (some ⟨some result⟩) := by
  simp only [gstBufferGetLookoutVisionMeta, if_true, getMeta_eq_head?, h]
  rfl

/-- A frame without a successful result is pushed, and nothing is published. -/
theorem publisherChain_failed (h : buf.lookoutVisionMetas = [metaWith result])
    (hfailed : result.resultStatus = .failed) :
    gstMqttPublisherChain outcome true filter buf = .ok ⟨[], [buf]⟩ := by
  simp only [gstMqttPublisherChain, read_of_metas h, hfailed]
  rfl

/-- **A frame with a successful result** is published and pushed exactly when
there is a topic and the attempt is survived; otherwise the frame is lost with
the process. -/
theorem publisherChain_successful (h : buf.lookoutVisionMetas = [metaWith result])
    (hsuccessful : result.resultStatus = .successful) (p : Published) :
    gstMqttPublisherChain outcome true filter buf = .ok p ↔
      outcome.Survived ∧ ∃ topic, filter.publishTopic = some topic ∧
        p = ⟨[publishRequest topic (resultMessage result.isAnomalous result.confidence)],
          [buf]⟩ := by
  simp only [gstMqttPublisherChain, read_of_metas h, hsuccessful, if_true]
  cases htopic : filter.publishTopic with
  | none =>
    refine ⟨fun hok => ?_, ?_⟩
    · cases hok
    · rintro ⟨-, topic, hnone, -⟩
      cases hnone
  | some topic =>
    simp only [stdString]
    cases hpublish : publishToIoTMQTT outcome topic
        (resultMessage result.isAnomalous result.confidence) with
    | error fault =>
      refine ⟨fun hok => ?_, ?_⟩
      · cases hok
      · rintro ⟨hsurvived, -⟩
        obtain ⟨status, hok⟩ := publishToIoTMQTT_ok_iff.mpr hsurvived
        rw [hpublish] at hok
        cases hok
    | ok r =>
      obtain ⟨request, status⟩ := r
      obtain ⟨rfl, hsurvived⟩ := publishToIoTMQTT_request hpublish
      constructor
      · intro hok
        exact ⟨hsurvived, topic, rfl, (Except.ok.inj hok).symm⟩
      · rintro ⟨-, topic', hsome, rfl⟩
        obtain rfl := Option.some.inj hsome
        rfl

/-- A frame whose report ends without a message is lost. -/
theorem publisherChain_lost (h : buf.lookoutVisionMetas = [metaWith result])
    (hsuccessful : result.resultStatus = .successful) {topic : String}
    (htopic : filter.publishTopic = some topic) :
    gstMqttPublisherChain (.operationError none) true filter buf =
      .error (.uncaught "value() of an absent optional") := by
  simp only [gstMqttPublisherChain, read_of_metas h, hsuccessful, if_true, htopic, stdString]
  rfl

end
end LookoutVision
