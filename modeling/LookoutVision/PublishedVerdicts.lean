import LookoutVision.PublishedReports
import LookoutVision.SignificantDigits

/-!
# What the subscribers learn

A subscriber sees the publish attempts and nothing of the frames, the agent or the way in
between.  A payload is a flag and the text of a float, so it tells the verdict, and the
confidence to a millionth (`sameReport_of_request`).

A run that completes has attempted every report that was due, in order, and nothing else:
a frame the agent accepted is otherwise the end of the process (`run_faithful`).  Runs that
make the same attempts, in whatever builds, through whatever copies and however their
attempts ended, have therefore had as many frames accepted, to the same topics and with
the same verdicts (`attempts_tell_reports`).
-/

namespace LookoutVision

/-! ## One request -/

/-- Two reports, each with its topic, that a subscriber does not tell apart. -/
structure SameReport (report report' : Option String × DetectAnomalyResult) : Prop where
  topic : report.1 = report'.1
  verdict : report.2.isAnomalous = report'.2.isAnomalous
  confidence : StreamText.Alike StreamText.sixDecimals report.2.confidence
    report'.2.confidence

theorem toList_loop (bytes : ByteArray) (i : Nat) (read : List UInt8) :
    ByteArray.toList.loop bytes i read = read.reverse ++ bytes.data.toList.drop i := by
  induction i, read using ByteArray.toList.loop.induct bytes with
  | case1 i read hlt ih =>
    have hi : i < bytes.data.toList.length := hlt
    rw [ByteArray.toList.loop, if_pos hlt, ih, List.drop_eq_getElem_cons hi, List.reverse_cons,
      List.append_assoc, List.singleton_append]
    congr 2
    exact getElem!_pos bytes.data i hi
  | case2 i read hge =>
    rw [ByteArray.toList.loop, if_neg hge, List.drop_eq_nil_of_le (Nat.le_of_not_lt hge),
      List.append_nil]

/-- The bytes of a text tell it. -/
theorem toUTF8_toList_inj {text text' : String}
    (h : text.toUTF8.toList = text'.toUTF8.toList) : text = text' := by
  have hdata : ∀ bytes : ByteArray, bytes.toList = bytes.data.toList := fun bytes =>
    toList_loop bytes 0 []
  rw [hdata, hdata] at h
  exact String.toByteArray_inj.mp (ByteArray.ext (Array.toList_inj.mp h))

theorem publishRequest_inj {topic topic' payload payload' : String}
    (h : publishRequest topic payload = publishRequest topic' payload') :
    topic = topic' ∧ payload = payload' := by
  obtain ⟨htopic, hbytes, -⟩ := PublishToIoTCoreRequest.mk.inj h
  exact ⟨htopic, toUTF8_toList_inj hbytes⟩

/-- **A request tells its report.** -/
theorem sameReport_of_request {report report' : Option String × DetectAnomalyResult}
    {request : PublishToIoTCoreRequest} (h : Reports report request)
    (h' : Reports report' request) : SameReport report report' := by
  obtain ⟨topic, htopic, rfl⟩ := h
  obtain ⟨topic', htopic', hrequest⟩ := h'
  obtain ⟨rfl, hpayload⟩ := publishRequest_inj hrequest
  obtain ⟨hverdict, htext⟩ := resultMessage_inj hpayload
  exact ⟨htopic.trans htopic'.symm, hverdict, StreamText.alike_of_toText htext⟩

/-- Reports of the same requests. -/
theorem sameReports {reports reports' : List (Option String × DetectAnomalyResult)}
    {requests : List PublishToIoTCoreRequest} (h : List.Forall₂ Reports reports requests)
    (h' : List.Forall₂ Reports reports' requests) :
    List.Forall₂ SameReport reports reports' := by
  induction h generalizing reports' with
  | nil =>
    cases h'
    exact List.Forall₂.nil
  | cons hreport _ ih =>
    cases h' with
    | cons hreport' hrest' =>
      exact List.Forall₂.cons (sameReport_of_request hreport hreport') (ih hrest')

/-! ## Completed runs -/

section
variable {build : Build} {s t : Pipeline} {h : PipelineHistory} {i : PipelineInput} {o : Passed}
  {is : List PipelineInput}

/-- **A frame that comes out was spared**: the publisher's chain function does not return
from a report without a topic, nor from an attempt that is not survived. -/
theorem spares_of_step (hj : InForce build h s) (hadm : i.Admissible build)
    (hstep : pipeline.step s i = .ok (t, o)) : Spares s i := by
  cases i with
  | setProperty assignment env => exact trivial
  | sinkEvent event env => exact trivial
  | setTopic publishTopic => exact trivial
  | frame buf env copies outcome =>
    intro reply haccepted
    obtain ⟨hs, hw, hnone⟩ := hadm
    obtain ⟨config, hr⟩ := hj.element
    obtain ⟨e, -, calls, arrived, -, harrives, -, hmetas, -⟩ :=
      frameStep_arrives hr copies outcome hs hw hnone
    have hverdict := verdict_of_accepted haccepted
    have hchain := publisherChain_successful outcome s.publisher hmetas (by rw [hverdict])
    have hok : publishStep outcome { s with element := e } calls arrived = .ok (t, o) :=
      harrives.symm.trans hstep
    cases hpublished : gstMqttPublisherChain outcome true s.publisher arrived with
    | error fault =>
      simp only [publishStep, hpublished] at hok
      cases hok
    | ok published =>
      obtain ⟨hsurvived, topic, hsome, -⟩ := (hchain published).mp hpublished
      rw [hsome]
      exact ⟨Option.some_ne_none topic, hsurvived⟩

theorem faithful_step (hj : InForce build h s) (hf : Faithful h) (hadm : i.Admissible build)
    (hstep : pipeline.step s i = .ok (t, o)) : Faithful (h ++ [(i, o)]) := by
  obtain ⟨t', o', hstep', hf'⟩ := (spares_step_iff hj hf hadm).mp (spares_of_step hj hadm hstep)
  obtain ⟨-, rfl⟩ := Prod.mk.inj (Except.ok.inj (hstep'.symm.trans hstep))
  exact hf'

/-- **A run that completes is faithful.** -/
theorem run_faithful {os : Posix.Outcomes} {k : Kernel} {e₀ : Element} (hos : Served build os)
    (hinit : gstLookoutVisionInit build os k = .ok e₀)
    (hadm : ∀ i ∈ is, i.Admissible build)
    (hrun : pipeline.run ⟨e₀, gstMqttPublisherInit⟩ is = .ok (t, h)) : Faithful h := by
  obtain ⟨e₁, hinit₁, hr, -⟩ := init_represents hos k
  obtain rfl := Except.ok.inj (hinit₁.symm.trans hinit)
  have hnone : InForce build [] ⟨e₁, gstMqttPublisherInit⟩ ∧ Faithful [] :=
    ⟨⟨⟨_, hr⟩, rfl⟩, ⟨List.Forall₂.nil, rfl⟩⟩
  have hstep : ∀ h s i t o, InForce build h s ∧ Faithful h → i.Admissible build →
      pipeline.step s i = .ok (t, o) →
      InForce build (h ++ [(i, o)]) t ∧ Faithful (h ++ [(i, o)]) :=
    fun _ _ _ _ _ hjf hi hstep =>
      ⟨inForce_step hjf.1 hi hstep, faithful_step hjf.1 hjf.2 hi hstep⟩
  exact (Machine.run_preserves hnone hstep hadm hrun).2

end

/-- **The attempts tell the verdicts.**  Two runs from fresh pipelines that complete and
make the same publish attempts have had as many frames accepted; and one by one these had
the same topic in force, the same verdict, and confidences a millionth apart at most. -/
theorem attempts_tell_reports {build build' : Build} {os os' : Posix.Outcomes} {k k' : Kernel}
    {e e' : Element} {is is' : List PipelineInput} {t t' : Pipeline} {h h' : PipelineHistory}
    (hos : Served build os) (hos' : Served build' os')
    (hinit : gstLookoutVisionInit build os k = .ok e)
    (hinit' : gstLookoutVisionInit build' os' k' = .ok e')
    (hadm : ∀ i ∈ is, i.Admissible build) (hadm' : ∀ i ∈ is', i.Admissible build')
    (hrun : pipeline.run ⟨e, gstMqttPublisherInit⟩ is = .ok (t, h))
    (hrun' : pipeline.run ⟨e', gstMqttPublisherInit⟩ is' = .ok (t', h'))
    (hsame : attempts h = attempts h') :
    List.Forall₂ SameReport (reported h).reports (reported h').reports := by
  have hf := run_faithful hos hinit hadm hrun
  have hf' := run_faithful hos' hinit' hadm' hrun'
  exact sameReports hf.reports (hsame ▸ hf'.reports)

/-- One report is attempted, however the attempt ends, if it is survived. -/
theorem run_oneReport (outcome : PublishOutcome) (hsurvived : outcome.Survived) :
    ∃ (e : Element) (t : Pipeline) (h : PipelineHistory),
      gstLookoutVisionInit .default .allSucceed Posix.Kernel.empty = .ok e ∧
      pipeline.run ⟨e, gstMqttPublisherInit⟩ (oneReport outcome) = .ok (t, h) ∧
      attempts h = [publishRequest "lookoutvision/anomalydetection/result"
        (resultMessage false 0)] := by
  have hserved : Served .default (Environment.steady fun _ _ => true).os := served_default
  obtain ⟨e₀, hinit, hrep₀, -⟩ := init_represents served_default Posix.Kernel.empty
  obtain ⟨e₁, effects, hassign, hrep₁⟩ := assign_represents hrep₀ (steady_steady _) hserved
    (a := .modelComponent (some "SampleModel")) (Option.some_ne_none _)
  have hset : pipeline.step ⟨e₀, gstMqttPublisherInit⟩
      (.setProperty (.modelComponent (some "SampleModel")) (.steady fun _ _ => true)) =
        .ok (⟨e₁, gstMqttPublisherInit⟩, .nothing) := by
    have hassign' : elementStep e₀ ⟨.setProperty (.modelComponent (some "SampleModel")),
        .steady fun _ _ => true⟩ = .ok (e₁, effects) := hassign
    show configureStep _ _ = _
    simp only [configureStep, hassign']
  have haccepted : (agentAnswer (.steady fun _ _ => true) e₁.filter [1, 2, 3]).bind
      RpcOutcome.accepted = some ⟨false, 0⟩ := by
    have hkept : e₁.filter.modelComponent = some "SampleModel" := hrep₁.component
    unfold agentAnswer
    rw [hkept]
    rfl
  have hverdict := verdict_of_accepted haccepted
  obtain ⟨e₂, -, calls, arrived, -, harrives, -, hmetas, -⟩ :=
    frameStep_arrives (s := ⟨e₁, gstMqttPublisherInit⟩) hrep₁ [fun _ => true] outcome hserved
      (show GstBuffer.Writable ⟨[1, 2, 3], 1, []⟩ from rfl) fun _ => List.not_mem_nil
  rw [hverdict] at hmetas
  have hchain := (publisherChain_successful outcome gstMqttPublisherInit hmetas rfl _).mpr
    ⟨hsurvived, "lookoutvision/anomalydetection/result", rfl, rfl⟩
  have hframe : pipeline.step ⟨e₁, gstMqttPublisherInit⟩
      (.frame ⟨[1, 2, 3], 1, []⟩ (.steady fun _ _ => true) [fun _ => true] outcome) =
        .ok (⟨e₂, gstMqttPublisherInit⟩, ⟨calls,
          ⟨[publishRequest "lookoutvision/anomalydetection/result" (resultMessage false 0)],
            [arrived]⟩⟩) := by
    show frameStep _ _ _ _ _ = _
    rw [harrives]
    simp only [publishStep, hchain]
  exact ⟨e₀, _, _, hinit, Machine.run_snoc_ok (Machine.run_one hset) hframe, rfl⟩

/-- A publish that succeeds and one that times out. -/
theorem attempts_tell_reports_sample :
    ∃ (e e' : Element) (t t' : Pipeline) (h h' : PipelineHistory),
      pipeline.run ⟨e, gstMqttPublisherInit⟩ (oneReport .success) = .ok (t, h) ∧
      pipeline.run ⟨e', gstMqttPublisherInit⟩ (oneReport .timedOut) = .ok (t', h') ∧
      attempts h = attempts h' ∧
      List.Forall₂ SameReport (reported h).reports (reported h').reports := by
  obtain ⟨e, t, h, hinit, hrun, hattempts⟩ := run_oneReport .success (by decide)
  obtain ⟨e', t', h', hinit', hrun', hattempts'⟩ := run_oneReport .timedOut (by decide)
  have hsame : attempts h = attempts h' := hattempts.trans hattempts'.symm
  exact ⟨e, e', t, t', h, h', hrun, hrun', hsame,
    attempts_tell_reports served_default served_default hinit hinit' (oneReport_admissible _)
      (oneReport_admissible _) hrun hrun' hsame⟩

end LookoutVision
