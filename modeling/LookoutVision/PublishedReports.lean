import LookoutVision.AssignmentOrder
import LookoutVision.MqttPublisher

/-!
# The published reports and the frames that leave

`pipeline` is the machine of a `lookoutvision` element, copies of the buffers it
pushes, and an `mqttpublisher` behind them.  What the publisher ought to have done
is read off a history alone (`reported`): a report for each frame the agent
answered with an OK reply, of what the reply says, to the topic in force, and
every frame, in order.

A report is an attempt, and most of the ways one can end are survived.  A topic
that is `NULL` and an operation error without a message are not: the process is
gone before the frame is pushed.  They are all that can go wrong
(`published_reports_iff`).
-/

namespace LookoutVision

/-! ## The machine -/

structure Pipeline where
  element : Element
  publisher : GstMqttPublisher

/-- A property assignment, a sink-pad event, an assignment of the topic, or a
frame, with the copies made of it on its way and how an attempt to publish would
end. -/
inductive PipelineInput
  | setProperty (assignment : Assignment) (env : Environment)
  | sinkEvent (event : GstEvent) (env : Environment)
  | setTopic (publishTopic : Option String)
  | frame (buf : GstBuffer) (env : Environment) (copies : List (String → Bool))
      (outcome : PublishOutcome)

/-- What a step does outwards: the RPCs of a frame, and what the publisher did. -/
structure Passed where
  calls : List Call
  published : Published

def Passed.nothing : Passed := ⟨[], [], []⟩

/-- An entry into the `lookoutvision` element that passes no frame. -/
def configureStep (s : Pipeline) (i : Input) : Except Fault (Pipeline × Passed) :=
  match elementStep s.element i with
  | .error fault => .error fault
  | .ok (e, _) => .ok ({ s with element := e }, .nothing)

/-- Copies of copies. -/
def copyAll (copies : List (String → Bool)) (buf : GstBuffer) : Except Fault GstBuffer :=
  copies.foldlM (fun buf carried => gstBufferCopy carried buf) buf

/-- A buffer reaches the publisher, in a process where the element before it has
registered the plugin's meta. -/
def publishStep (outcome : PublishOutcome) (s : Pipeline) (calls : List Call)
    (arrived : GstBuffer) : Except Fault (Pipeline × Passed) :=
  match gstMqttPublisherChain outcome true s.publisher arrived with
  | .error fault => .error fault
  | .ok published => .ok (s, ⟨calls, published⟩)

def frameStep (s : Pipeline) (buf : GstBuffer) (env : Environment)
    (copies : List (String → Bool)) (outcome : PublishOutcome) :
    Except Fault (Pipeline × Passed) :=
  match gstLookoutVisionChain env s.element buf with
  | .error fault => .error fault
  | .ok c =>
      match c.pushed with
      | [] => .ok ({ s with element := c.element }, { Passed.nothing with calls := c.calls })
      | out :: _ =>
          match copyAll copies out with
          | .error fault => .error fault
          | .ok arrived => publishStep outcome { s with element := c.element } c.calls arrived

def pipelineStep (s : Pipeline) : PipelineInput → Except Fault (Pipeline × Passed)
  | .setProperty assignment env => configureStep s ⟨.setProperty assignment, env⟩
  | .sinkEvent event env => configureStep s ⟨.sinkEvent event, env⟩
  | .setTopic publishTopic =>
      .ok ({ s with publisher := gstMqttPublisherSetProperty s.publisher publishTopic }, .nothing)
  | .frame buf env copies outcome => frameStep s buf env copies outcome

/-- **The pipeline as a machine.** -/
def pipeline : Machine Pipeline PipelineInput Passed Fault := ⟨pipelineStep⟩

abbrev PipelineHistory := List (PipelineInput × Passed)

/-- Assignments the specifications admit, `NULL` excepted, to the element, any
topic, and frames that arrive writable and without a result. -/
def PipelineInput.Admissible (build : Build) : PipelineInput → Prop
  | .setProperty assignment env => Input.Admissible build ⟨.setProperty assignment, env⟩
  | .sinkEvent event env => Input.Admissible build ⟨.sinkEvent event, env⟩
  | .setTopic _ => True
  | .frame buf env _ _ =>
      Served build env.os ∧ buf.Writable ∧ ∀ m, GstMeta.lookoutVision m ∉ buf.metas

/-! ## What ought to happen -/

/-- What the agent has said of a frame, by the calls made for it. -/
def acceptedReplies (calls : List Call) : List DetectAnomalyResult :=
  (calls.filterMap Call.detection?).filterMap RpcOutcome.accepted

/-- The topic in force, the reports due, each with its topic, and the images of
the frames so far. -/
structure Reported where
  topic : Option String
  reports : List (Option String × DetectAnomalyResult)
  frames : List (List UInt8)

def Reported.initial : Reported := ⟨gstMqttPublisherInit.publishTopic, [], []⟩

def Reported.after (x : Reported) (r : PipelineInput × Passed) : Reported :=
  match r.1 with
  | .setTopic publishTopic => { x with topic := publishTopic }
  | .frame buf _ _ _ => { x with
      reports := x.reports ++ (acceptedReplies r.2.calls).map fun reply => (x.topic, reply)
      frames := x.frames ++ [buf.data] }
  | _ => x

/-- **What ought to have been reported** along a history. -/
def reported (h : PipelineHistory) : Reported := h.foldl Reported.after .initial

/-- The publish attempts made along a history. -/
def attempts (h : PipelineHistory) : List PublishToIoTCoreRequest :=
  h.flatMap fun r => r.2.published.attempts

/-- The buffers that left the pipeline along a history. -/
def pushedFrames (h : PipelineHistory) : List GstBuffer :=
  h.flatMap fun r => r.2.published.pushed

/-- The request states the report, to its topic. -/
def Reports (report : Option String × DetectAnomalyResult) (request : PublishToIoTCoreRequest) :
    Prop :=
  ∃ topic, report.1 = some topic ∧ request =
    publishRequest topic (resultMessage report.2.isAnomalous report.2.confidence)

/-- **Every report was attempted once, in order, and nothing else was; and every
frame has left once, in order.** -/
structure Faithful (h : PipelineHistory) : Prop where
  reports : List.Forall₂ Reports (reported h).reports (attempts h)
  frames : (pushedFrames h).map GstBuffer.data = (reported h).frames

/-- The condition on one step: where the agent answers a frame with an OK reply,
there is a topic, and the attempt to publish is survived. -/
def Spares (s : Pipeline) : PipelineInput → Prop
  | .frame buf env _ outcome => ∀ reply,
      (agentAnswer env s.element.filter buf.data).bind RpcOutcome.accepted = some reply →
        s.publisher.publishTopic ≠ none ∧ outcome.Survived
  | _ => True

/-! ## One step -/

section
variable {h : PipelineHistory} {i : PipelineInput} {o : Passed}

theorem reported_snoc : reported (h ++ [(i, o)]) = (reported h).after (i, o) := by
  simp only [reported, List.foldl_append, List.foldl_cons, List.foldl_nil]

theorem attempts_snoc : attempts (h ++ [(i, o)]) = attempts h ++ o.published.attempts := by
  simp only [attempts, List.flatMap_append, List.flatMap_singleton]

theorem pushedFrames_snoc :
    pushedFrames (h ++ [(i, o)]) = pushedFrames h ++ o.published.pushed := by
  simp only [pushedFrames, List.flatMap_append, List.flatMap_singleton]

/-- A step that passes no frame asks for nothing and does nothing. -/
theorem Faithful.nothing (hf : Faithful h)
    (hreports : (reported (h ++ [(i, .nothing)])).reports = (reported h).reports)
    (hframes : (reported (h ++ [(i, .nothing)])).frames = (reported h).frames) :
    Faithful (h ++ [(i, .nothing)]) := by
  refine ⟨?_, ?_⟩
  · rw [hreports, attempts_snoc]
    simp only [Passed.nothing, List.append_nil]
    exact hf.reports
  · rw [hframes, pushedFrames_snoc]
    simp only [Passed.nothing, List.append_nil]
    exact hf.frames

/-- A frame asks for itself, and for a report if the agent accepted it. -/
theorem Faithful.frame (hf : Faithful h) {buf : GstBuffer} {env : Environment}
    {copies : List (String → Bool)} {outcome : PublishOutcome}
    (hreports : List.Forall₂ Reports
      ((acceptedReplies o.calls).map fun reply => ((reported h).topic, reply))
      o.published.attempts)
    (hframes : o.published.pushed.map GstBuffer.data = [buf.data]) :
    Faithful (h ++ [(.frame buf env copies outcome, o)]) := by
  refine ⟨?_, ?_⟩
  · rw [reported_snoc, attempts_snoc]
    exact List.rel_append hf.reports hreports
  · rw [reported_snoc, pushedFrames_snoc, List.map_append, hframes, hf.frames]
    rfl

end

/-- Copies change nothing a reader can see. -/
theorem copyAll_ok {buf : GstBuffer} (copies : List (String → Bool))
    (h : ∀ value ∈ buf.lookoutVisionMetas, value.result ≠ none) :
    ∃ arrived, copyAll copies buf = .ok arrived ∧ arrived.data = buf.data ∧
      arrived.lookoutVisionMetas = buf.lookoutVisionMetas := by
  refine Machine.foldlM_invariant (J := fun _ (arrived : GstBuffer) =>
    arrived.data = buf.data ∧ arrived.lookoutVisionMetas = buf.lookoutVisionMetas) ?_ ⟨rfl, rfl⟩
  rintro - arrived carried ⟨hdata, hmetas⟩ -
  obtain ⟨copied, hcopy, -, hdata', hmetas'⟩ :=
    copy_ok carried fun value hv => h value (hmetas ▸ hv)
  exact ⟨copied, hcopy, hdata'.trans hdata, hmetas'.trans hmetas⟩

section
variable {build : Build} {s : Pipeline}

/-- The entries that pass no frame complete, and keep the element in order. -/
theorem configureStep_ok {config : Configuration} {i : Input}
    (hr : Represents build config s.element) (hi : i.Admissible build) :
    ∃ e config', configureStep s i = .ok ({ s with element := e }, .nothing) ∧
      Represents build config' e := by
  obtain ⟨e, effects, hstep, hr'⟩ := step_represents hr hi
  refine ⟨e, _, ?_, hr'⟩
  have hstep' : elementStep s.element i = .ok (e, effects) := hstep
  simp only [configureStep, hstep']

/-- **A frame reaches the publisher** with its bytes and its one result. -/
theorem frameStep_arrives {config : Configuration} (hr : Represents build config s.element)
    {buf : GstBuffer} {env : Environment} (copies : List (String → Bool))
    (outcome : PublishOutcome) (hs : Served build env.os) (hw : buf.Writable)
    (hnone : ∀ m, GstMeta.lookoutVision m ∉ buf.metas) :
    ∃ e config' calls arrived, Represents build config' e ∧
      frameStep s buf env copies outcome =
        publishStep outcome { s with element := e } calls arrived ∧
      arrived.data = buf.data ∧
      arrived.lookoutVisionMetas = [metaWith (verdict env s.element.filter buf.data)] ∧
      acceptedReplies calls =
        ((agentAnswer env s.element.filter buf.data).bind RpcOutcome.accepted).toList := by
  obtain ⟨c, hchain, -⟩ := chain_ready hs hr.ready buf
  obtain ⟨⟨hresult, hcalls⟩, hpushed⟩ := chain_pushes hchain
  have hmetas : (gstBufferAddLookoutVisionMeta buf c.result).1.lookoutVisionMetas =
      [metaWith c.result] := by
    rw [lookoutVisionMetas_addMeta hw, lookoutVisionMetas_eq_nil hnone]
    rfl
  have hresults : ∀ value ∈ (gstBufferAddLookoutVisionMeta buf c.result).1.lookoutVisionMetas,
      value.result ≠ none := by
    rw [hmetas]
    intro value hv
    rw [List.mem_singleton.mp hv]
    exact Option.some_ne_none _
  obtain ⟨arrived, hcopies, hdata, harrived⟩ := copyAll_ok copies hresults
  have hentry : Input.Admissible build ⟨.chain buf, env⟩ := ⟨trivial, hs⟩
  obtain ⟨e, effects, hstep, hr'⟩ := step_represents hr hentry
  have he : e = c.element := by
    have hstep' : elementStep s.element ⟨.chain buf, env⟩ = .ok (e, effects) := hstep
    simp only [elementStep, hchain] at hstep'
    exact (Prod.mk.inj (Except.ok.inj hstep')).1.symm
  refine ⟨c.element, _, c.calls, arrived, he ▸ hr', ?_, hdata.trans addMeta_data, ?_, ?_⟩
  · simp only [frameStep, hchain, hpushed, hcopies]
  · rw [harrived, hmetas, hresult]
  · unfold acceptedReplies
    rw [hcalls, frameCalls_detection]
    cases agentAnswer env s.element.filter buf.data with
    | none => rfl
    | some outcome =>
      show List.filterMap RpcOutcome.accepted [outcome] = outcome.accepted.toList
      rw [List.filterMap_cons]
      cases outcome.accepted <;> rfl

/-- What completed steps always keep: the element is in order, and the topic is
the one in force. -/
structure InForce (build : Build) (h : PipelineHistory) (s : Pipeline) : Prop where
  element : ∃ config, Represents build config s.element
  topic : s.publisher.publishTopic = (reported h).topic

/-- **One frame** is reported and pushed as it ought to be exactly when it is
spared. -/
theorem spares_frame_iff {h : PipelineHistory} (hj : InForce build h s) (hf : Faithful h)
    {buf : GstBuffer} {env : Environment} {copies : List (String → Bool)}
    {outcome : PublishOutcome}
    (hadm : (PipelineInput.frame buf env copies outcome).Admissible build) :
    Spares s (.frame buf env copies outcome) ↔ ∃ s' o,
      pipelineStep s (.frame buf env copies outcome) = .ok (s', o) ∧
        Faithful (h ++ [(.frame buf env copies outcome, o)]) := by
  obtain ⟨hs, hw, hnone⟩ := hadm
  obtain ⟨config, hr⟩ := hj.element
  obtain ⟨e, -, calls, arrived, -, hstep, hdata, hmetas, hcalls⟩ :=
    frameStep_arrives hr copies outcome hs hw hnone
  have hstep' : pipelineStep s (.frame buf env copies outcome) =
      publishStep outcome { s with element := e } calls arrived := hstep
  rw [hstep']
  cases haccepted : (agentAnswer env s.element.filter buf.data).bind RpcOutcome.accepted with
  | none =>
    have hchain := publisherChain_failed outcome s.publisher hmetas
      (verdict_of_not_accepted haccepted)
    refine ⟨fun _ => ⟨_, _, by simp only [publishStep, hchain]; rfl, ?_⟩, ?_⟩
    · refine hf.frame ?_ (congrArg (fun data => [data]) hdata)
      show List.Forall₂ Reports ((acceptedReplies calls).map _) []
      rw [hcalls, haccepted]
      exact List.Forall₂.nil
    · intro _ reply h
      rw [haccepted] at h
      cases h
  | some reply =>
    have hverdict := verdict_of_accepted haccepted
    have hchain := publisherChain_successful outcome s.publisher hmetas
      (by rw [hverdict])
    rw [hverdict] at hchain
    constructor
    · intro hspares
      obtain ⟨htopic, hsurvived⟩ := hspares reply haccepted
      obtain ⟨topic, hsome⟩ := Option.ne_none_iff_exists'.mp htopic
      have hok := (hchain _).mpr ⟨hsurvived, topic, hsome, rfl⟩
      refine ⟨_, _, by simp only [publishStep, hok]; rfl, ?_⟩
      refine hf.frame ?_ (congrArg (fun data => [data]) hdata)
      show List.Forall₂ Reports ((acceptedReplies calls).map _) [_]
      rw [hcalls, haccepted, ← hj.topic, hsome]
      exact List.Forall₂.cons ⟨topic, rfl, rfl⟩ List.Forall₂.nil
    · rintro ⟨s', o, hok, -⟩ reply' -
      -- A step that completes has had a run of the publisher's chain complete.
      cases hpublished : gstMqttPublisherChain outcome true s.publisher arrived with
      | error fault =>
        simp only [publishStep, hpublished] at hok
        cases hok
      | ok published =>
        obtain ⟨hsurvived, topic, hsome, -⟩ := (hchain published).mp hpublished
        refine ⟨?_, hsurvived⟩
        rw [hsome]
        exact Option.some_ne_none topic

/-- **A frame whose report ends without a message is lost**, whatever its way. -/
theorem frame_lost {config : Configuration} (hr : Represents build config s.element)
    {buf : GstBuffer} {env : Environment} (copies : List (String → Bool))
    (hs : Served build env.os) (hw : buf.Writable)
    (hnone : ∀ m, GstMeta.lookoutVision m ∉ buf.metas) {reply : DetectAnomalyResult}
    (haccepted : (agentAnswer env s.element.filter buf.data).bind RpcOutcome.accepted = some reply)
    {topic : String} (htopic : s.publisher.publishTopic = some topic) :
    pipeline.step s (.frame buf env copies (.operationError none)) =
      .error (.uncaught "value() of an absent optional") := by
  obtain ⟨e, -, calls, arrived, -, hstep, -, hmetas, -⟩ :=
    frameStep_arrives hr copies (.operationError none) hs hw hnone
  have hchain := publisherChain_lost s.publisher hmetas
    (by rw [verdict_of_accepted haccepted]) htopic
  show frameStep s buf env copies (.operationError none) = _
  rw [hstep]
  simp only [publishStep, hchain]

/-- The entries that pass no frame are made as they ought to be, always. -/
theorem configure_faithful {h : PipelineHistory} (hj : InForce build h s) (hf : Faithful h)
    {i : PipelineInput} {entry : Input} (hi : entry.Admissible build)
    (hstep : pipelineStep s i = configureStep s entry)
    (hquiet : reported (h ++ [(i, .nothing)]) = reported h) :
    ∃ s' o, pipelineStep s i = .ok (s', o) ∧ Faithful (h ++ [(i, o)]) := by
  obtain ⟨config, hr⟩ := hj.element
  obtain ⟨e, config', hok, -⟩ := configureStep_ok hr hi
  exact ⟨_, _, hstep.trans hok, hf.nothing (by rw [hquiet]) (by rw [hquiet])⟩

/-- **One step** does what it ought to do exactly when its frame, if it passes
one, is spared. -/
theorem spares_step_iff {h : PipelineHistory} (hj : InForce build h s) (hf : Faithful h)
    {i : PipelineInput} (hadm : i.Admissible build) :
    Spares s i ↔ ∃ s' o, pipeline.step s i = .ok (s', o) ∧ Faithful (h ++ [(i, o)]) := by
  show Spares s i ↔ ∃ s' o, pipelineStep s i = .ok (s', o) ∧ Faithful (h ++ [(i, o)])
  cases i with
  | setProperty assignment env =>
    obtain ⟨s', o, hok, hf'⟩ := configure_faithful (i := .setProperty assignment env) hj hf hadm
      rfl (by rw [reported_snoc]; rfl)
    exact ⟨fun _ => ⟨s', o, hok, hf'⟩, fun _ => trivial⟩
  | sinkEvent event env =>
    obtain ⟨s', o, hok, hf'⟩ := configure_faithful (i := .sinkEvent event env) hj hf hadm
      rfl (by rw [reported_snoc]; rfl)
    exact ⟨fun _ => ⟨s', o, hok, hf'⟩, fun _ => trivial⟩
  | setTopic publishTopic =>
    refine ⟨fun _ => ⟨_, _, rfl, hf.nothing ?_ ?_⟩, fun _ => trivial⟩
    · rw [reported_snoc]
      rfl
    · rw [reported_snoc]
      rfl
  | frame buf env copies outcome => exact spares_frame_iff hj hf hadm

/-- Completed steps keep the element in order and the topic in force. -/
theorem inForce_step {h : PipelineHistory} {s' : Pipeline} {i : PipelineInput} {o : Passed}
    (hj : InForce build h s) (hadm : i.Admissible build)
    (hstep : pipeline.step s i = .ok (s', o)) : InForce build (h ++ [(i, o)]) s' := by
  change pipelineStep s i = .ok (s', o) at hstep
  obtain ⟨config, hr⟩ := hj.element
  cases i with
  | setProperty assignment env =>
    obtain ⟨e, config', hok, hr'⟩ := configureStep_ok hr hadm
    obtain ⟨rfl, rfl⟩ := Prod.mk.inj (Except.ok.inj (hok.symm.trans hstep))
    exact ⟨⟨config', hr'⟩, by rw [reported_snoc]; exact hj.topic⟩
  | sinkEvent event env =>
    obtain ⟨e, config', hok, hr'⟩ := configureStep_ok hr hadm
    obtain ⟨rfl, rfl⟩ := Prod.mk.inj (Except.ok.inj (hok.symm.trans hstep))
    exact ⟨⟨config', hr'⟩, by rw [reported_snoc]; exact hj.topic⟩
  | setTopic publishTopic =>
    obtain ⟨rfl, rfl⟩ := Prod.mk.inj (Except.ok.inj hstep)
    exact ⟨⟨config, hr⟩, by rw [reported_snoc]; rfl⟩
  | frame buf env copies outcome =>
    obtain ⟨hs, hw, hnone⟩ := hadm
    obtain ⟨e, config', calls, arrived, hr', harrives, -⟩ :=
      frameStep_arrives hr copies outcome hs hw hnone
    rw [pipelineStep, harrives] at hstep
    cases hpublished : gstMqttPublisherChain outcome true s.publisher arrived with
    | error fault =>
      simp only [publishStep, hpublished] at hstep
      cases hstep
    | ok published =>
      simp only [publishStep, hpublished] at hstep
      obtain ⟨rfl, rfl⟩ := Prod.mk.inj (Except.ok.inj hstep)
      exact ⟨⟨config', hr'⟩, by rw [reported_snoc]; exact hj.topic⟩

end

/-! ## Runs -/

/-- **Reports and frames are as they ought to be along exactly the runs** in
which, for every frame the agent accepts, there is a topic and the attempt to
publish does not end with an operation error without a message. -/
theorem published_reports_iff (build : Build) (os : Posix.Outcomes) (k : Kernel)
    (is : List PipelineInput) (hos : Served build os) (his : ∀ i ∈ is, i.Admissible build) :
    ∃ e₀, gstLookoutVisionInit build os k = .ok e₀ ∧
      (pipeline.Always (fun h _ => Faithful h) ⟨e₀, gstMqttPublisherInit⟩ is ↔
        pipeline.Guarded (fun _ s i => Spares s i) ⟨e₀, gstMqttPublisherInit⟩ is) := by
  obtain ⟨e₀, hinit, hr, -⟩ := init_represents hos k
  refine ⟨e₀, hinit, Machine.always_iff_guarded (J := InForce build) ⟨⟨_, hr⟩, rfl⟩
    ⟨List.Forall₂.nil, rfl⟩ ?_ ?_ his⟩
  · exact fun h s i s' o hj hadm hstep => inForce_step hj hadm hstep
  · exact fun h s i hj hf hadm => spares_step_iff hj hf hadm

/-- A component, and a frame whose report ends as `outcome` says. -/
def oneReport (outcome : PublishOutcome) : List PipelineInput :=
  [.setProperty (.modelComponent (some "SampleModel")) (.steady fun _ _ => true),
    .frame ⟨[1, 2, 3], 1, []⟩ (.steady fun _ _ => true) [fun _ => true] outcome]

theorem oneReport_admissible (outcome : PublishOutcome) :
    ∀ i ∈ oneReport outcome, i.Admissible .default := by
  simp only [oneReport, List.forall_mem_cons]
  refine ⟨⟨Option.some_ne_none _, served_default⟩, ⟨served_default, rfl, ?_⟩, ?_⟩
  · exact fun _ => List.not_mem_nil
  · exact fun _ h => absurd h List.not_mem_nil

theorem published_reports_iff_sample :
    ∃ e₀, gstLookoutVisionInit .default .allSucceed Posix.Kernel.empty = .ok e₀ ∧
      (pipeline.Always (fun h _ => Faithful h) ⟨e₀, gstMqttPublisherInit⟩ (oneReport .success) ↔
        pipeline.Guarded (fun _ s i => Spares s i) ⟨e₀, gstMqttPublisherInit⟩
          (oneReport .success)) :=
  published_reports_iff .default .allSucceed Posix.Kernel.empty (oneReport .success)
    served_default (oneReport_admissible _)

/-- **An operation error without a message costs the frame**: the attempt was
made, and the process is gone before the frame is pushed. -/
theorem report_costs_frame :
    ∃ e₀, gstLookoutVisionInit .default .allSucceed Posix.Kernel.empty = .ok e₀ ∧
      pipeline.run ⟨e₀, gstMqttPublisherInit⟩ (oneReport (.operationError none)) =
        .error (.uncaught "value() of an absent optional") ∧
      ¬ pipeline.Always (fun h _ => Faithful h) ⟨e₀, gstMqttPublisherInit⟩
        (oneReport (.operationError none)) := by
  have hserved : Served .default (Environment.steady fun _ _ => true).os := served_default
  obtain ⟨e₀, hinit, hrep₀, -⟩ := init_represents served_default Posix.Kernel.empty
  obtain ⟨e₁, effects, hstep₁, hrep₁⟩ := assign_represents hrep₀ (steady_steady _) hserved
    (a := .modelComponent (some "SampleModel")) (Option.some_ne_none _)
  have hset : pipeline.step ⟨e₀, gstMqttPublisherInit⟩
      (.setProperty (.modelComponent (some "SampleModel")) (.steady fun _ _ => true)) =
        .ok (⟨e₁, gstMqttPublisherInit⟩, .nothing) := by
    have hstep₁' : elementStep e₀ ⟨.setProperty (.modelComponent (some "SampleModel")),
        .steady fun _ _ => true⟩ = .ok (e₁, effects) := hstep₁
    show configureStep _ _ = _
    simp only [configureStep, hstep₁']
  have haccepted : (agentAnswer (.steady fun _ _ => true) e₁.filter [1, 2, 3]).bind
      RpcOutcome.accepted = some ⟨false, 0⟩ := by
    have hkept : e₁.filter.modelComponent = some "SampleModel" := hrep₁.component
    unfold agentAnswer
    rw [hkept]
    rfl
  have hlost : pipeline.step ⟨e₁, gstMqttPublisherInit⟩
      (.frame ⟨[1, 2, 3], 1, []⟩ (.steady fun _ _ => true) [fun _ => true]
        (.operationError none)) = .error (.uncaught "value() of an absent optional") :=
    frame_lost hrep₁ _ hserved rfl (fun _ => List.not_mem_nil) haccepted rfl
  have hrun : pipeline.run ⟨e₀, gstMqttPublisherInit⟩ (oneReport (.operationError none)) =
      .error (.uncaught "value() of an absent optional") := by
    show pipeline.run _ ([_] ++ [_]) = _
    rw [Machine.run_snoc, Machine.run_one hset]
    simp only [Machine.advance, hlost]
  refine ⟨e₀, hinit, hrun, fun halways => ?_⟩
  obtain ⟨s, h, hok, -⟩ := halways _ (List.prefix_refl _)
  rw [hrun] at hok
  cases hok

end LookoutVision
