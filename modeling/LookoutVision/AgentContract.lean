import LookoutVision.ElementMemory
import LookoutVision.Explanations
import LookoutVision.PollingBounds

/-!
# What the interface promises, and what the element makes of it

The comments of `Inference.proto` say which status codes an RPC returns in which
state of the model.  An agent that keeps to them answers `DetectAnomalies` with
`FAILED_PRECONDITION` where the model is not `RUNNING`, and with `NOT_FOUND` where
there is none.  The instances of a pipeline never get either answer, as long as a
model that runs is left running and no address is set on which the component an
instance has does not start (`asks_only_running`): a `StartModel` that returned
`SUCCESSFUL` saw the model running after everything else it asked.

The agents may do anything else between two calls, and be asked by others.
-/

namespace LookoutVision

/-! ## The contract -/

/-- The status of every component at every address, `none` where an agent knows no
such model. -/
abbrev Agents := String → String → Option ModelStatus

def Agents.set (w : Agents) (target component : String) (status : Option ModelStatus) : Agents :=
  fun target' component' =>
    if target' = target ∧ component' = component then status else w target' component'

/-- `NOT_FOUND` of `grpc::StatusCode`. -/
def notFound : Int := 5

/-- `FAILED_PRECONDITION`. -/
def failedPrecondition : Int := 9

/-- The states a model can be started in. -/
def Startable (status : Option ModelStatus) : Prop :=
  status = some .stopped ∨ status = some .failed

/-- An error names its reason: there is no such model, or it is in a state the call
is not for. -/
structure Refused (status : Option ModelStatus) (Fit : Prop) (answer : Status) : Prop where
  notOk : answer.ok = false
  notFound : answer.errorCode = notFound → status = none
  failedPrecondition : answer.errorCode = failedPrecondition → status ≠ none ∧ ¬ Fit

/-- The component an RPC is about. -/
def Rpc.modelComponent : Rpc → String
  | .startModel request _ => request.modelComponent
  | .describeModel request _ _ _ => request.modelComponent
  | .detectAnomalies request _ => request.modelComponent

/-- **What an RPC may answer**, by the model's status before it, and what it leaves.
An RPC that throws may or may not have been carried out. -/
inductive Rpc.Answered : Option ModelStatus → Rpc → Option ModelStatus → Prop
  | started {status : Option ModelStatus} {request : StartModelRequest} {answer : Status}
      (hok : answer.ok = true) (h : Startable status) :
      Rpc.Answered status (.startModel request (.returned answer ⟨.starting⟩)) (some .starting)
  | notStarted {status : Option ModelStatus} {request : StartModelRequest} {answer : Status}
      {reply : StartModelResponse} (h : Refused status (Startable status) answer) :
      Rpc.Answered status (.startModel request (.returned answer reply)) status
  | startThrew {status after : Option ModelStatus} {request : StartModelRequest} {what : String}
      (h : after = status ∨ Startable status ∧ after = some .starting) :
      Rpc.Answered status (.startModel request (.threw what)) after
  | described {status : Option ModelStatus} {request : DescribeModelRequest}
      {begun latency : Nat} {answer : Status} {reply : DescribeModelResponse}
      (hok : answer.ok = true) (h : status = some reply.modelDescription.status) :
      Rpc.Answered status (.describeModel request begun (.returned answer reply) latency) status
  | notDescribed {status : Option ModelStatus} {request : DescribeModelRequest}
      {begun latency : Nat} {answer : Status} {reply : DescribeModelResponse}
      (h : Refused status True answer) :
      Rpc.Answered status (.describeModel request begun (.returned answer reply) latency) status
  | describeThrew {status : Option ModelStatus} {request : DescribeModelRequest}
      {begun latency : Nat} {what : String} :
      Rpc.Answered status (.describeModel request begun (.threw what) latency) status
  | detected {status : Option ModelStatus} {request : DetectAnomaliesRequest}
      {answer : Status} {reply : DetectAnomaliesResponse} (hok : answer.ok = true)
      (h : status = some .running) :
      Rpc.Answered status (.detectAnomalies request (.returned answer reply)) status
  | notDetected {status : Option ModelStatus} {request : DetectAnomaliesRequest}
      {answer : Status} {reply : DetectAnomaliesResponse}
      (h : Refused status (status = some .running) answer) :
      Rpc.Answered status (.detectAnomalies request (.returned answer reply)) status
  | detectThrew {status : Option ModelStatus} {request : DetectAnomaliesRequest}
      {what : String} :
      Rpc.Answered status (.detectAnomalies request (.threw what)) status

namespace Agents

/-- One call is answered. -/
def Answers (w : Agents) (call : Call) (w' : Agents) : Prop :=
  ∃ after, call.rpc.Answered (w call.target call.rpc.modelComponent) after ∧
    w' = w.set call.target call.rpc.modelComponent after

/-- What runs is left running; nothing else is asked of what happens between two
calls. -/
def Undisturbed (w w' : Agents) : Prop :=
  ∀ target component, w target component = some .running → w' target component = some .running

end Agents

/-- The answer is not that the model is missing or not running. -/
def Call.Accepted (call : Call) : Prop :=
  ∀ request answer reply, call.rpc = .detectAnomalies request (.returned answer reply) →
    answer.errorCode ≠ notFound ∧ answer.errorCode ≠ failedPrecondition

/-! ## A running model -/

section
variable {w w' : Agents} {target component : String} {call : Call}

theorem undisturbed_refl (w : Agents) : w.Undisturbed w := fun _ _ h => h

theorem not_startable_running : ¬ Startable (some .running) := by
  rintro (h | h)
  · cases h
  · cases h

/-- No RPC of the client ends a running model. -/
theorem Rpc.Answered.running {rpc : Rpc} {before after : Option ModelStatus}
    (h : rpc.Answered before after) (hrunning : before = some .running) :
    after = some .running := by
  cases h with
  | started _ hstartable => exact absurd (hrunning ▸ hstartable) not_startable_running
  | startThrew hor =>
    rcases hor with h | ⟨hstartable, -⟩
    · exact h.trans hrunning
    · exact absurd (hrunning ▸ hstartable) not_startable_running
  | notStarted _ => exact hrunning
  | described _ _ => exact hrunning
  | notDescribed _ => exact hrunning
  | describeThrew => exact hrunning
  | detected _ _ => exact hrunning
  | notDetected _ => exact hrunning
  | detectThrew => exact hrunning

theorem stable_running (target component : String) :
    Stable Agents.Undisturbed Agents.Answers fun w => w target component = some .running where
  move := fun hmove h => hmove target component h
  answer := by
    rintro w call w' ⟨after, hanswered, rfl⟩ h
    unfold Agents.set
    split
    · rename_i hsame
      obtain ⟨rfl, rfl⟩ := hsame
      exact hanswered.running h
    · exact h

/-- An agent that is asked about a running model has no reason to refuse. -/
theorem accepted_of_running (hanswers : w.Answers call w')
    (h : w call.target call.rpc.modelComponent = some .running) : call.Accepted := by
  obtain ⟨after, hanswered, -⟩ := hanswers
  obtain ⟨target, rpc⟩ := call
  intro request answer reply hrpc
  simp only at hrpc hanswered h
  subst hrpc
  cases hanswered with
  | detected hok _ =>
    have hcode : answer.errorCode = 0 := by simpa [Status.ok] using hok
    rw [hcode]
    exact ⟨by decide, by decide⟩
  | notDetected hrefused =>
    refine ⟨fun hcode => ?_, fun hcode => ?_⟩
    · exact absurd ((hrefused.notFound hcode).symm.trans h) (by simp)
    · exact (hrefused.failedPrecondition hcode).2 h

/-- A poll that saw `RUNNING` is the agent's word that the model runs. -/
theorem running_of_described {poll : Poll} (hsaw : poll.Saw .running)
    (hanswers : w.Answers (poll.call target component) w') :
    w' target component = some .running := by
  obtain ⟨status, reply, houtcome, hok, hstatus⟩ := hsaw
  obtain ⟨after, hanswered, rfl⟩ := hanswers
  obtain ⟨begun, outcome, latency⟩ := poll
  subst houtcome
  simp only [Poll.call, Rpc.modelComponent, Agents.set, and_self, if_true] at hanswered ⊢
  cases hanswered with
  | described _ hsame => rw [hsame, hstatus]
  | notDescribed hrefused =>
    rw [hrefused.notOk] at hok
    cases hok

end

/-! ## What an entry asks -/

section
variable {env : Environment} {filter : GstLookoutVision} {component : String} {w w' : Agents}

/-- A `StartModel` asks for no frame. -/
theorem accepted_start (env : Environment) (filter : GstLookoutVision) (component : String) :
    ∀ call ∈ (filter.start env component).calls, call.Accepted := by
  intro call hcall request answer reply hrpc
  have hnot := (startModel_calls env filter.inferenceClient component
    filter.modelStatusTimeout.toInt32.toInt call hcall).2
  exact absurd hrpc (hnot request _)

/-- **A start that succeeded saw the model running**, and the model still runs. -/
theorem running_of_start
    (hexplains : Explains Agents.Undisturbed Agents.Answers w (filter.start env component).calls w')
    (hsuccessful : (filter.start env component).status = .successful) :
    w' filter.inferenceClient.stub.channel.target component = some .running := by
  obtain ⟨polls, hpolls, -, hwaits⟩ := LookoutVisionInferenceClient.waitLoop_waits env
    filter.inferenceClient component .running filter.modelStatusTimeout.toInt32.toInt
    env.clock 0 env.clock
  obtain ⟨poll, hpoll, hsaw⟩ :=
    hwaits.reached.mp (LookoutVisionInferenceClient.startModel_status.mp hsuccessful)
  have hcall : poll.call filter.inferenceClient.stub.channel.target component ∈
      (filter.start env component).calls := by
    refine List.mem_cons_of_mem _ ?_
    show _ ∈ (LookoutVisionInferenceClient.waitLoop _ _ _ _ _ _ _ _).polls
    rw [hpolls]
    exact List.mem_map_of_mem hpoll
  exact hexplains.established (stable_running _ _) hcall (running_of_described hsaw)

/-- A request goes to the client's address and is about the component asked for. -/
theorem detectAnomalies_asks {c : LookoutVisionInferenceClient} {k : Kernel}
    {buf : List UInt8} {width height : UInt64} {d : LookoutVisionInferenceClient.Detection}
    (h : c.detectAnomalies env k component buf width height = .ok d) :
    d.call.target = c.stub.channel.target ∧ d.call.rpc.modelComponent = component ∧
      d.client.stub = c.stub := by
  unfold LookoutVisionInferenceClient.detectAnomalies at h
  cases hprepare : c.prepareRequest env.os k component buf width height with
  | error fault =>
    rw [hprepare] at h
    cases h
  | ok r =>
    obtain ⟨k', c', request⟩ := r
    rw [hprepare] at h
    obtain rfl := Except.ok.inj h
    have hkeeps : c'.stub = c.stub ∧ request.modelComponent = component := by
      unfold LookoutVisionInferenceClient.prepareRequest at hprepare
      split at hprepare
      · obtain ⟨-, rfl, rfl⟩ := Prod.mk.inj (Except.ok.inj hprepare)
        exact ⟨rfl, rfl⟩
      · split at hprepare
        · cases hprepare
        · obtain ⟨-, rfl, rfl⟩ := Prod.mk.inj (Except.ok.inj hprepare)
          exact ⟨rfl, rfl⟩
    exact ⟨congrArg (fun stub => stub.channel.target) hkeeps.1, hkeeps.2, hkeeps.1⟩

/-- The component an instance has runs at the address its client is set to. -/
def HoldsRunning (filter : GstLookoutVision) (w : Agents) : Prop :=
  ∀ component, filter.modelComponent = some component →
    w filter.inferenceClient.stub.channel.target component = some .running

theorem HoldsRunning.later (h : HoldsRunning filter w) {cs : List Call}
    (hexplains : Explains Agents.Undisturbed Agents.Answers w cs w') : HoldsRunning filter w' :=
  fun component hcomponent =>
    hexplains.stable (stable_running _ _) (h component hcomponent)

/-- **One entry.**  Where an address is only set if the component starts there, the
instance goes on having a running one, and what it asks is accepted. -/
theorem step_holdsRunning {e e' : Element} {i : Input} {effects : List Effect}
    (hstep : elementStep e i = .ok (e', effects)) (hheld : HoldsRunning e.filter w)
    (hguard : ∀ socket component, i.action = .setProperty (.serverSocket (some socket)) →
      e.filter.modelComponent = some component →
        ((e.filter.readdressed socket).start i.env component).status = .successful)
    (hexplains : Explains Agents.Undisturbed Agents.Answers w (calls effects) w') :
    HoldsRunning e'.filter w' ∧ ∀ call ∈ calls effects, call.Accepted := by
  have hstepped := stepped_of_step hstep
  obtain ⟨action, env⟩ := i
  cases hstepped with
  | serverSocket socket =>
    cases hcomponent : e.filter.modelComponent with
    | none =>
      refine ⟨fun component hsome => ?_, fun call hcall => ?_⟩
      · have hnone : (e.filter.readdressed socket).modelComponent = none := hcomponent
        rw [hnone] at hsome
        cases hsome
      · cases hcall
    | some component =>
      simp only [hcomponent, calls_startEffects_eq] at hexplains ⊢
      refine ⟨fun component' hsome => ?_, accepted_start _ _ _⟩
      have hsame : (e.filter.readdressed socket).modelComponent = some component := hcomponent
      obtain rfl := Option.some.inj (hsame.symm.trans hsome)
      exact running_of_start hexplains (hguard socket component rfl hcomponent)
  | modelComponent component =>
    rw [calls_startEffects_eq] at hexplains ⊢
    refine ⟨?_, accepted_start _ _ _⟩
    by_cases hsuccessful : (e.filter.start env component).status = .successful
    · simp only [hsuccessful, if_true]
      intro component' hsome
      obtain rfl := Option.some.inj hsome
      exact running_of_start hexplains hsuccessful
    · simp only [hsuccessful, if_false]
      exact hheld.later hexplains
  | modelStatusTimeout timeout =>
    exact ⟨fun component hcomponent => hheld.later hexplains component hcomponent,
      fun call hcall => by cases hcall⟩
  | sinkEvent event =>
    obtain ⟨sinkpad, width, height, hsame⟩ := sinkEvent_fields e.filter event
    refine ⟨?_, fun call hcall => by cases hcall⟩
    rw [hsame]
    exact fun component hcomponent => hheld.later hexplains component hcomponent
  | chain hchain =>
    rcases chain_ok hchain with ⟨-, rfl⟩ | ⟨component, d, hcomponent, hdetect, rfl⟩
    · exact ⟨hheld.later hexplains, fun call hcall => by cases hcall⟩
    · obtain ⟨htarget, habout, hstub⟩ := detectAnomalies_asks hdetect
      have hrunning := hheld component hcomponent
      refine ⟨?_, ?_⟩
      · intro component' hsome
        show w' d.client.stub.channel.target component' = some .running
        rw [hstub]
        exact hheld.later hexplains component' hsome
      · refine hexplains.each (stable_running e.filter.inferenceClient.stub.channel.target
          component) hrunning fun {v call v'} hv hanswers hcall => ?_
        obtain rfl := List.mem_singleton.mp hcall
        exact accepted_of_running hanswers (by rw [htarget, habout]; exact hv)

end

/-! ## The instances of a process -/

/-- An address set while an instance has a component is one where that component
starts. -/
def StartsWhereMoved (_ : List (ProcessInput × List Effect)) (a : Application)
    (i : ProcessInput) : Prop :=
  ∀ f filter v socket component, i.action = .setProperty f .serverSocket v →
    a.filters f = some filter → a.values v = some socket →
      filter.modelComponent = some component →
        ((filter.readdressed socket).start i.env component).status = .successful

/-- Every instance's component runs at its address. -/
def AllRunning (a : Application) (w : Agents) : Prop :=
  ∀ f filter, a.filters f = some filter → HoldsRunning filter w

section
variable {a a' : Application} {w w' : Agents} {f : Nat} {effects : List Effect}

/-- An instance is replaced, or gone. -/
theorem AllRunning.setFilter (h : AllRunning a w) {x : Option GstLookoutVision} {k : Kernel}
    (hx : ∀ filter, x = some filter → HoldsRunning filter w) :
    AllRunning (a.setFilter f x k) w := by
  intro g filter hg
  rcases Table.update_eq_some hg with ⟨-, hsame⟩ | ⟨-, hold⟩
  · exact hx filter hsame
  · exact h g filter hold

theorem AllRunning.later (h : AllRunning a w) {cs : List Call}
    (hexplains : Explains Agents.Undisturbed Agents.Answers w cs w') : AllRunning a w' :=
  fun f filter hf => (h f filter hf).later hexplains

theorem AllRunning.entered (h : AllRunning a w) {filter : GstLookoutVision} {input : Input}
    (hf : a.filters f = some filter)
    (hguard : ∀ socket component, input.action = .setProperty (.serverSocket (some socket)) →
      filter.modelComponent = some component →
        ((filter.readdressed socket).start input.env component).status = .successful)
    (hentered : a.entered f filter input = .ok (a', effects))
    (hexplains : Explains Agents.Undisturbed Agents.Answers w (calls effects) w') :
    AllRunning a' w' ∧ ∀ call ∈ calls effects, call.Accepted := by
  unfold Application.entered at hentered
  cases hstep : elementStep ⟨filter, a.kernel⟩ input with
  | error fault =>
    rw [hstep] at hentered
    cases hentered
  | ok r =>
    obtain ⟨e, effects'⟩ := r
    rw [hstep] at hentered
    obtain ⟨rfl, rfl⟩ := Prod.mk.inj (Except.ok.inj hentered)
    obtain ⟨hheld, haccepted⟩ := step_holdsRunning hstep (h f filter hf) hguard hexplains
    refine ⟨(h.later hexplains).setFilter fun filter' hsame => ?_, haccepted⟩
    rw [← Option.some.inj hsame]
    exact hheld

/-- **One action.** -/
theorem step_allRunning {build : Build} {i : ProcessInput}
    {history : List (ProcessInput × List Effect)} (h : AllRunning a w)
    (hguard : StartsWhereMoved history a i) (hstep : a.step build i = .ok (a', effects))
    (hexplains : Explains Agents.Undisturbed Agents.Answers w (calls effects) w') :
    AllRunning a' w' ∧ ∀ call ∈ calls effects, call.Accepted := by
  obtain ⟨action, env⟩ := i
  have hquiet : effects = [] → ∀ call ∈ calls effects, call.Accepted := by
    rintro rfl call hcall
    cases hcall
  have hlater : AllRunning a w' := h.later hexplains
  cases action with
  | create =>
    simp only [Application.step] at hstep
    cases hinit : gstLookoutVisionInit build env.os a.kernel with
    | error fault =>
      rw [hinit] at hstep
      cases hstep
    | ok e =>
      rw [hinit] at hstep
      obtain ⟨rfl, heffects⟩ := Prod.mk.inj (Except.ok.inj hstep)
      obtain ⟨-, -, hunset, -⟩ := init_fresh hinit
      have hset : AllRunning (a.setFilter a.filterCount (some e.filter) e.kernel) w' := by
        refine hlater.setFilter fun filter hsame component hcomponent => ?_
        rw [← Option.some.inj hsame, hunset] at hcomponent
        cases hcomponent
      exact ⟨hset, hquiet heffects.symm⟩
  | setValue v text =>
    obtain ⟨rfl, heffects⟩ := Prod.mk.inj (Except.ok.inj hstep)
    exact ⟨hlater, hquiet heffects.symm⟩
  | getProperty f property v =>
    simp only [Application.step] at hstep
    split at hstep
    · obtain ⟨rfl, heffects⟩ := Prod.mk.inj (Except.ok.inj hstep)
      exact ⟨hlater, hquiet heffects.symm⟩
    · obtain ⟨rfl, heffects⟩ := Prod.mk.inj (Except.ok.inj hstep)
      exact ⟨hlater, hquiet heffects.symm⟩
  | setProperty f property v =>
    simp only [Application.step] at hstep
    split at hstep
    · obtain ⟨rfl, heffects⟩ := Prod.mk.inj (Except.ok.inj hstep)
      exact ⟨hlater, hquiet heffects.symm⟩
    · rename_i filter hf
      refine h.entered hf (fun socket component haction hcomponent => ?_) hstep hexplains
      cases property with
      | modelComponent => cases haction
      | serverSocket =>
        have hvalue : a.values v = some socket := by
          injection haction with hassignment
          injection hassignment
        exact hguard f filter v socket component rfl hf hvalue hcomponent
  | setTimeout f timeout =>
    simp only [Application.step] at hstep
    split at hstep
    · obtain ⟨rfl, heffects⟩ := Prod.mk.inj (Except.ok.inj hstep)
      exact ⟨hlater, hquiet heffects.symm⟩
    · rename_i filter hf
      exact h.entered hf (fun socket component haction => by cases haction) hstep hexplains
  | sinkEvent f event =>
    simp only [Application.step] at hstep
    split at hstep
    · obtain ⟨rfl, heffects⟩ := Prod.mk.inj (Except.ok.inj hstep)
      exact ⟨hlater, hquiet heffects.symm⟩
    · rename_i filter hf
      have hseen : AllRunning { a with probed := a.probed + Application.seen filter event } w := h
      exact hseen.entered hf (fun socket component haction => by cases haction) hstep hexplains
  | chain f buf =>
    simp only [Application.step] at hstep
    split at hstep
    · obtain ⟨rfl, heffects⟩ := Prod.mk.inj (Except.ok.inj hstep)
      exact ⟨hlater, hquiet heffects.symm⟩
    · rename_i filter hf
      exact h.entered hf (fun socket component haction => by cases haction) hstep hexplains
  | finalize f =>
    simp only [Application.step] at hstep
    split at hstep
    · obtain ⟨rfl, heffects⟩ := Prod.mk.inj (Except.ok.inj hstep)
      exact ⟨hlater, hquiet heffects.symm⟩
    · obtain ⟨rfl, heffects⟩ := Prod.mk.inj (Except.ok.inj hstep)
      refine ⟨hlater.setFilter fun filter hsame => ?_, hquiet heffects.symm⟩
      cases hsame

end

/-! ## Runs -/

/-- **Only running models are asked.**  Where the agents keep to the interface and
leave running models running, no request of any instance is answered `NOT_FOUND` or
`FAILED_PRECONDITION` along a run that sets no address on which an instance's
component does not start; and every instance's component runs, at the address it
would be asked at, when the run ends. -/
theorem asks_only_running (build : Build) (k : Kernel) {is : List ProcessInput}
    {a : Application} {history : List (ProcessInput × List Effect)} {w w' : Agents}
    (hrun : (application build).run (.start k) is = .ok (a, history))
    (hguard : (application build).Guarded StartsWhereMoved (.start k) is)
    (hexplains : Explains Agents.Undisturbed Agents.Answers w
      (history.flatMap fun r => calls r.2) w') :
    AllRunning a w' ∧ ∀ call ∈ history.flatMap fun r => calls r.2, call.Accepted := by
  have hstart : AllRunning (.start k) w := by
    intro f filter hf
    cases hf
  exact Machine.run_explained undisturbed_refl
    (fun h hmove => h.later (.done hmove : Explains _ _ _ ([] : List Call) _))
    (fun _ _ _ _ _ _ _ h hg hs he => step_allRunning h hg hs he) hstart hrun hguard hexplains

/-- Agents on which everything runs. -/
def runningAgents : Environment := .steady fun _ _ => true

/-- A component is assigned and a frame arrives. -/
def configureAndInfer : List ProcessInput :=
  [.create, .setValue 0 (some "SampleModel"), .setProperty 0 .modelComponent 0,
    .chain 0 ⟨[7], 1, []⟩].map fun action => ⟨action, runningAgents⟩

/-- A start there is two calls. -/
theorem start_runningAgents {filter : GstLookoutVision} (h : filter.modelStatusTimeout = 180)
    (component : String) :
    filter.start runningAgents component =
      ⟨.successful,
        [⟨filter.inferenceClient.stub.channel.target,
          .startModel ⟨component⟩ (.returned .success ⟨.starting⟩)⟩,
         ⟨filter.inferenceClient.stub.channel.target,
          .describeModel ⟨component⟩ 0 (.returned .success ⟨⟨.running⟩⟩) 0⟩], 0⟩ := by
  have hwait : filter.inferenceClient.waitLoop runningAgents component .running
      (180 : UInt32).toInt32.toInt 0 0 0 =
        ⟨true, [⟨filter.inferenceClient.stub.channel.target,
          .describeModel ⟨component⟩ 0 (.returned .success ⟨⟨.running⟩⟩) 0⟩], 0⟩ := by
    rw [LookoutVisionInferenceClient.waitLoop, if_pos (by decide)]
    rfl
  have hwait' : filter.inferenceClient.waitForModelStatusWithTimeout runningAgents component
      .running (180 : UInt32).toInt32.toInt = _ := hwait
  simp only [GstLookoutVision.start, h, LookoutVisionInferenceClient.startModel, hwait']
  rfl

/-- The component was stopped everywhere; it is started, runs, and is asked. -/
theorem asks_only_running_sample :
    ∃ a history w', (application .default).run (.start Posix.Kernel.empty) configureAndInfer =
        .ok (a, history) ∧
      Explains Agents.Undisturbed Agents.Answers (fun _ _ => some .stopped)
        (history.flatMap fun r => calls r.2) w' ∧
      AllRunning a w' ∧ ∀ call ∈ history.flatMap fun r => calls r.2, call.Accepted := by
  have hrun : ∃ a history, (application .default).run (.start Posix.Kernel.empty)
      configureAndInfer = .ok (a, history) ∧ ∃ w',
        Explains Agents.Undisturbed Agents.Answers (fun _ _ => some .stopped)
          (history.flatMap fun r => calls r.2) w' := by
    -- The component is started on a fresh instance, and the frame is asked about.
    let filter : GstLookoutVision :=
      ⟨⟨true⟩, ⟨defaultServerSocket, ⟨defaultServerSocket⟩, ⟨⟨defaultServerSocket⟩⟩, none⟩, 0, 0,
        some defaultServerSocket, none, 180⟩
    obtain ⟨a, history, hcreated, hf, hvalue, hcalls⟩ :
        ∃ a history, (application .default).run (.start Posix.Kernel.empty)
            [⟨.create, runningAgents⟩, ⟨.setValue 0 (some "SampleModel"), runningAgents⟩] =
          .ok (a, history) ∧ a.filters 0 = some filter ∧ a.values 0 = some "SampleModel" ∧
          (history.flatMap fun r => calls r.2) = [] :=
      ⟨_, _, rfl, rfl, rfl, rfl⟩
    have hset : (application .default).step a ⟨.setProperty 0 .modelComponent 0, runningAgents⟩ =
        .ok (a.setFilter 0 (some { filter with modelComponent := some "SampleModel" }) a.kernel,
          filter.startEffects runningAgents "SampleModel") := by
      simp only [application, Application.step, hf, hvalue, Application.entered, elementStep,
        StringProperty.assignment, setProperty_modelComponent,
        start_runningAgents (rfl : filter.modelStatusTimeout = 180), if_true]
    refine ⟨_, _, Machine.run_snoc_ok (Machine.run_snoc_ok hcreated hset) rfl, ?_⟩
    simp only [List.flatMap_append, hcalls, List.flatMap_cons, List.flatMap_nil,
      calls_startEffects_eq, start_runningAgents (rfl : filter.modelStatusTimeout = 180)]
    have hup : Agents.Undisturbed (Agents.set (fun _ _ => some .stopped) defaultServerSocket
        "SampleModel" (some .starting)) fun _ _ => some .running := fun _ _ _ => rfl
    exact ⟨_, .call (undisturbed_refl _) ⟨_, .started rfl (.inl rfl), rfl⟩
      (.call hup ⟨_, .described rfl rfl, rfl⟩
        (.call (undisturbed_refl _) ⟨_, .detected rfl rfl, rfl⟩ (.done (undisturbed_refl _))))⟩
  obtain ⟨a, history, hrun, w', hexplains⟩ := hrun
  refine ⟨a, history, w', hrun, hexplains,
    asks_only_running .default Posix.Kernel.empty hrun ?_ hexplains⟩
  rintro pre i hpre t h - f filter v socket component haction
  have hmem : i ∈ configureAndInfer := hpre.subset (by simp)
  obtain ⟨action, hin, rfl⟩ := List.mem_map.mp hmem
  simp only at haction
  rw [haction] at hin
  simp at hin

end LookoutVision
