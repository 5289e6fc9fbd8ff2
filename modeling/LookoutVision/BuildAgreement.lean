import LookoutVision.Agreement
import LookoutVision.ElementRuns

/-!
# The two builds of the element

An element built with `SHARED_MEMORY`, alone on its segment, and one built without it
are given the same entries.  All that the outside sees of the one it sees of the other,
up to how a request carries its frame: the same calls in the same order with the same
outcomes, the same error messages, the same buffers with the same results, the same
faults (`builds_agree`).

What is asked of the agents is that they answer by the frame and not by the way it is
sent; that the frame is there is `shared_build_sends_same_frames`.
-/

namespace LookoutVision

/-! ## What is the same -/

/-- A request that carries the frame itself. -/
def DetectAnomaliesRequest.inMessage (frame : List UInt8) (request : DetectAnomaliesRequest) :
    DetectAnomaliesRequest :=
  { request with bitmap := { request.bitmap with data := .byteData frame } }

/-- The effect in the default build: the frame travels in the request. -/
def Effect.inMessage (frame : List UInt8) : Effect → Effect
  | .call ⟨target, .detectAnomalies request outcome⟩ =>
      .call ⟨target, .detectAnomalies (request.inMessage frame) outcome⟩
  | effect => effect

/-- What an entry did, in the default build. -/
def inMessage (action : Action) (effects : List Effect) : List Effect :=
  match action with
  | .chain buf => effects.map (Effect.inMessage buf.data)
  | _ => effects

/-- The agents answer a request by what it carries: the frame of this entry is the same
to them in the segment and in the message. -/
def Input.ByFrame (i : Input) : Prop :=
  ∀ buf, i.action = .chain buf → ∀ target component width height,
    i.env.detectAnomalies target ⟨component, width, height, .sharedMemoryHandle
      ⟨shmName, buf.data.length, 0⟩⟩ =
    i.env.detectAnomalies target ⟨component, width, height, .byteData buf.data⟩

/-- The client without its segment. -/
def LookoutVisionInferenceClient.plain (c : LookoutVisionInferenceClient) :
    LookoutVisionInferenceClient :=
  { c with shm := none }

/-- The instance as the default build has it. -/
def GstLookoutVision.plain (filter : GstLookoutVision) : GstLookoutVision :=
  { filter with inferenceClient := filter.inferenceClient.plain }

/-- The first element is alone on its segment, the second is the same without one. -/
structure SameElement (e e' : Element) : Prop where
  filter : e'.filter = e.filter.plain
  alone : Ready .sharedMemory e.kernel e.filter.inferenceClient

/-! ## Starts -/

namespace LookoutVisionInferenceClient
variable (env : Environment) (c : LookoutVisionInferenceClient) (component : String)

/-- A wait asks through the stub; the segment has no part in it. -/
theorem waitLoop_plain (expected : ModelStatus) (timeout : Int) (start n now : Nat) :
    c.plain.waitLoop env component expected timeout start n now =
      c.waitLoop env component expected timeout start n now := by
  fun_induction waitLoop c env component expected timeout start n now with
  | case1 n now hlt request answer poll hreached =>
    rw [waitLoop, if_pos hlt]
    exact if_pos hreached
  | case2 n now hlt request answer poll hnot rest ih =>
    rw [waitLoop, if_pos hlt]
    refine (if_neg hnot).trans ?_
    exact congrArg (fun w : Wait => (⟨w.reached, poll :: w.polls, w.finished⟩ : Wait)) ih
  | case3 n now hge => rw [waitLoop, if_neg hge]

theorem startModel_plain (timeout : Int) :
    c.plain.startModel env component timeout = c.startModel env component timeout := by
  simp only [startModel, waitForModelStatusWithTimeout, waitLoop_plain]
  rfl

end LookoutVisionInferenceClient

section
variable {env : Environment} {filter : GstLookoutVision} {component : String}

theorem start_plain (env : Environment) (filter : GstLookoutVision) (component : String) :
    filter.plain.start env component = filter.start env component :=
  LookoutVisionInferenceClient.startModel_plain ..

theorem startEffects_plain (env : Environment) (filter : GstLookoutVision)
    (component : String) :
    filter.plain.startEffects env component = filter.startEffects env component := by
  simp only [GstLookoutVision.startEffects, start_plain]
  rfl

/-- An assignment does the same in both builds. -/
theorem setProperty_plain (env : Environment) (filter : GstLookoutVision) (a : Assignment) :
    EndAlike (fun x y => y.1 = x.1.plain ∧ y.2 = x.2 ∧
        x.1.inferenceClient.shm = filter.inferenceClient.shm) Eq
      (gstLookoutVisionSetProperty env filter a)
      (gstLookoutVisionSetProperty env filter.plain a) := by
  cases a with
  | serverSocket value =>
    cases value with
    | none => exact .error rfl
    | some socket =>
      rw [setProperty_serverSocket, setProperty_serverSocket]
      have hcomponent : filter.plain.modelComponent = filter.modelComponent := rfl
      have haddress : filter.plain.readdressed socket = (filter.readdressed socket).plain := rfl
      refine .ok ⟨haddress, ?_, rfl⟩
      rw [hcomponent, haddress]
      simp only [startEffects_plain]
  | modelComponent value =>
    cases value with
    | none => exact .error rfl
    | some component =>
      rw [setProperty_modelComponent, setProperty_modelComponent, start_plain,
        startEffects_plain]
      refine .ok ⟨?_, rfl, ?_⟩
      · split
        · rfl
        · rfl
      · split
        · rfl
        · rfl
  | modelStatusTimeout timeout => exact .ok ⟨rfl, rfl, rfl⟩

/-- The probe records what it sees in both. -/
theorem sinkEvent_plain (filter : GstLookoutVision) (event : GstEvent) :
    gstLookoutVisionSinkEvent filter.plain event =
        (gstLookoutVisionSinkEvent filter event).plain ∧
      (gstLookoutVisionSinkEvent filter event).inferenceClient = filter.inferenceClient := by
  have hprobe : filter.plain.sinkpad = filter.sinkpad := rfl
  unfold gstLookoutVisionSinkEvent
  rw [hprobe]
  split
  · cases event with
    | other => exact ⟨rfl, rfl⟩
    | caps caps =>
      obtain ⟨width, height⟩ := caps
      cases width with
      | none => exact ⟨rfl, rfl⟩
      | some width =>
        cases height with
        | none => exact ⟨rfl, rfl⟩
        | some height => exact ⟨rfl, rfl⟩
  · exact ⟨rfl, rfl⟩

/-! ## One entry -/

/-- **An entry into either element** ends alike, and leaves them the same. -/
theorem step_agree {e e' : Element} {i : Input} (h : SameElement e e') (hos : i.env.os.Succeed)
    (hframe : i.ByFrame) :
    EndAlike (fun x y => SameElement x.1 y.1 ∧ y.2 = inMessage i.action x.2) Eq
      (element.step e i) (element.step e' i) := by
  obtain ⟨filter, k⟩ := e
  obtain ⟨filter', k'⟩ := e'
  obtain ⟨rfl, shm, hshm, hsole⟩ := h
  obtain ⟨action, env⟩ := i
  cases action with
  | setProperty assignment =>
    have hagree := setProperty_plain env filter assignment
    simp only [element, elementStep, inMessage]
    generalize gstLookoutVisionSetProperty env filter assignment = x at hagree ⊢
    generalize gstLookoutVisionSetProperty env filter.plain assignment = y at hagree ⊢
    cases hagree with
    | error hsame => exact .error hsame
    | @ok x y hxy =>
      obtain ⟨hplain, heffects, hkept⟩ := hxy
      exact .ok ⟨⟨hplain, shm, hkept.trans hshm, hsole⟩, heffects⟩
  | sinkEvent event =>
    obtain ⟨hplain, hclient⟩ := sinkEvent_plain filter event
    simp only [element, elementStep, inMessage]
    exact .ok ⟨⟨hplain, shm, hclient ▸ hshm, hsole⟩, rfl⟩
  | chain buf =>
    simp only [element, elementStep]
    cases hcomponent : filter.modelComponent with
    | none =>
      have hcomponent' : filter.plain.modelComponent = none := hcomponent
      rw [chain_unset (e := ⟨filter, k⟩) hcomponent,
        chain_unset (e := ⟨filter.plain, k'⟩) hcomponent']
      exact .ok ⟨⟨rfl, shm, hshm, hsole⟩, rfl⟩
    | some component =>
      have hcomponent' : filter.plain.modelComponent = some component := hcomponent
      obtain ⟨k₁, shm₁, hwrite, hsole₁, -⟩ := writeSHM_sole hos hsole buf.data
      have hshared := LookoutVisionInferenceClient.detectAnomalies_shared component
        (sizeT filter.width) (sizeT filter.height) hshm hwrite
      have hdefault : filter.plain.inferenceClient.detectAnomalies env k' component buf.data
          (sizeT filter.width) (sizeT filter.height) = _ :=
        LookoutVisionInferenceClient.detectAnomalies_default component (sizeT filter.width)
          (sizeT filter.height) rfl
      have houtcome : env.detectAnomalies filter.inferenceClient.stub.channel.target
            (frameRequest component (sizeT filter.width) (sizeT filter.height)
              (frameHandle buf.data.length)) =
          env.detectAnomalies filter.inferenceClient.stub.channel.target
            (frameRequest component (sizeT filter.width) (sizeT filter.height)
              (.byteData buf.data)) :=
        hframe buf rfl filter.inferenceClient.stub.channel.target component
          (sizeT filter.width).toUInt32.toInt32 (sizeT filter.height).toUInt32.toInt32
      rw [chain_set (e := ⟨filter, k⟩) hcomponent hshared,
        chain_set (e := ⟨filter.plain, k'⟩) hcomponent' hdefault]
      refine .ok ⟨⟨rfl, shm₁, rfl, hsole₁⟩, ?_⟩
      simp only [Chained.effects, LookoutVisionInferenceClient.sent, houtcome]
      rfl

/-- Two new elements. -/
theorem init_same {os : Posix.Outcomes} (hos : os.Succeed) (k : Kernel) :
    ∃ e e', gstLookoutVisionInit .sharedMemory os k = .ok e ∧
      gstLookoutVisionInit .default os k = .ok e' ∧ SameElement e e' := by
  obtain ⟨k', shm, hnew, hready⟩ :=
    LookoutVisionInferenceClient.new_ready (fun _ : Build.sharedMemory = _ => hos) k
      defaultServerSocket
  exact ⟨_, _, by simp only [gstLookoutVisionInit, hnew]; rfl, rfl, rfl, hready⟩

end

/-! ## Runs -/

/-- **The two builds do the same**, from whatever segment was left over and through any
entries: as long as the system calls succeed and the agents answer by the frame, both
elements complete the same entries and fault at the same one, and after as many entries
the outside has seen of the second what it has seen of the first, with the frames in the
messages. -/
theorem builds_agree (os : Posix.Outcomes) (k : Kernel) (is : List Input) (hos : os.Succeed)
    (his : ∀ i ∈ is, i.env.os.Succeed ∧ i.ByFrame) :
    ∃ e e', gstLookoutVisionInit .sharedMemory os k = .ok e ∧
      gstLookoutVisionInit .default os k = .ok e' ∧
      EndAlike (fun x y => SameElement x.1 y.1 ∧
          List.Forall₂ (fun r r' => r.1 = r'.1 ∧ r'.2 = inMessage r.1.action r.2) x.2 y.2) Eq
        (element.run e is) (element.run e' is) := by
  obtain ⟨e, e', hinit, hinit', hsame⟩ := init_same hos k
  have hrun := Machine.run_agree (M := element) (N := element) (R := SameElement)
    (Q := fun i o o' => o' = inMessage i.action o) (F := Eq)
    (fun _ _ _ h hi => step_agree h hi.1 hi.2) hsame is his
  exact ⟨e, e', hinit, hinit', hrun⟩

/-- A component, a frame, one that the initial segment does not hold, another address, and
a small frame again. -/
def growingFrames : List Input :=
  [.setProperty (.modelComponent (some "SampleModel")), .chain ⟨[7], 1, []⟩,
    .chain ⟨List.replicate (initialShmSize + 1) 7, 1, []⟩,
    .setProperty (.serverSocket (some "0.0.0.0:50052")), .chain ⟨[7, 8, 9], 1, []⟩].map
      fun action => ⟨action, .steady fun _ _ => true⟩

/-- The run completes in the first build, and so it does in the second. -/
theorem builds_agree_sample :
    ∃ e e', gstLookoutVisionInit .sharedMemory .allSucceed Posix.Kernel.empty = .ok e ∧
      gstLookoutVisionInit .default .allSucceed Posix.Kernel.empty = .ok e' ∧
      (∃ r, element.run e growingFrames = .ok r) ∧
      EndAlike (fun x y => SameElement x.1 y.1 ∧
          List.Forall₂ (fun r r' => r.1 = r'.1 ∧ r'.2 = inMessage r.1.action r.2) x.2 y.2) Eq
        (element.run e growingFrames) (element.run e' growingFrames) := by
  have hos : Posix.Outcomes.allSucceed.Succeed := by decide
  have hframes : ∀ i ∈ growingFrames, i.env.os.Succeed ∧ i.ByFrame := by
    intro i hi
    obtain ⟨action, -, rfl⟩ := List.mem_map.mp hi
    exact ⟨hos, fun _ _ _ _ _ _ => rfl⟩
  have hadm : ∀ i ∈ growingFrames, i.Admissible .sharedMemory := by
    intro i hi
    refine ⟨?_, fun _ => (hframes i hi).1⟩
    simp only [growingFrames, List.map_cons, List.map_nil, List.mem_cons, List.not_mem_nil,
      or_false] at hi
    rcases hi with rfl | rfl | rfl | rfl | rfl
    · exact Option.some_ne_none _
    · exact trivial
    · exact trivial
    · exact Option.some_ne_none _
    · exact trivial
  obtain ⟨e, e', hinit, hinit', hagree⟩ :=
    builds_agree .allSucceed Posix.Kernel.empty growingFrames hos hframes
  obtain ⟨e₀, hinit₀, hrep, -⟩ := init_represents (fun _ => hos) Posix.Kernel.empty
  obtain rfl := Except.ok.inj (hinit.symm.trans hinit₀)
  obtain ⟨t, h, hrun, -⟩ := run_represents hrep growingFrames hadm
  exact ⟨e, e', hinit, hinit', ⟨(t, h), hrun⟩, hagree⟩

end LookoutVision
