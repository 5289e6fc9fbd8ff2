import LookoutVision.Element
import LookoutVision.SharedSegment

/-!
# What each entry into the element does

One description for each function an input reaches, for a client in working
order (`Ready`): without the segment in the default build, alone on the segment
in the shared-memory build.  `Stepped` lists what an entry that completes can have
done, in whatever state.  The later modules use these and do not look inside the
functions again.
-/

namespace LookoutVision

/-! ## The client in working order -/

/-- The system calls are only assumed to succeed where the build makes any. -/
def Served (build : Build) (os : Posix.Outcomes) : Prop :=
  build = .sharedMemory → os.Succeed

theorem served_default {os : Posix.Outcomes} : Served .default os := by
  intro h
  cases h

/-- A client of either build that nothing keeps from sending frames. -/
def Ready (build : Build) (k : Kernel) (c : LookoutVisionInferenceClient) : Prop :=
  match build with
  | .default => c.shm = none
  | .sharedMemory => ∃ shm, c.shm = some shm ∧ Sole k shm

namespace LookoutVisionInferenceClient
variable {build : Build} {k : Kernel} {c : LookoutVisionInferenceClient}

/-- **The constructor** leaves a client in working order, with the one address
in all four places. -/
theorem new_ready {os : Posix.Outcomes} (h : Served build os) (k : Kernel) (socket : String) :
    ∃ k' shm, new build os k socket = .ok (k', ⟨socket, ⟨socket⟩, ⟨⟨socket⟩⟩, shm⟩) ∧
      Ready build k' ⟨socket, ⟨socket⟩, ⟨⟨socket⟩⟩, shm⟩ := by
  cases build with
  | default => exact ⟨k, none, rfl, rfl⟩
  | sharedMemory =>
    obtain ⟨k', shm, hsetup, hsole⟩ := setupSHM_sole (k := k) (h rfl)
    exact ⟨k', some shm, by simp only [new, hsetup], shm, rfl, hsole⟩

/-- What a `DetectAnomalies` call does: it sends one request to the client's
address, with the frame's bytes where the agent finds them, and makes its result
of the outcome. -/
structure Detects (build : Build) (env : Environment) (c : LookoutVisionInferenceClient)
    (component : String) (buf : List UInt8) (width height : UInt64) (d : Detection) : Prop where
  ready : Ready build d.kernel d.client
  client : d.client = { c with shm := d.client.shm }
  component : d.request.modelComponent = component
  width : d.request.bitmap.width = width.toUInt32.toInt32
  height : d.request.bitmap.height = height.toUInt32.toInt32
  bytes : d.request.bitmap.data.bytes d.kernel = some buf
  call : d.call = ⟨c.stub.channel.target, .detectAnomalies d.request
    (env.detectAnomalies c.stub.channel.target d.request)⟩
  result : d.result = detectAnomaliesResult env.rodata
    (env.detectAnomalies c.stub.channel.target d.request)

/-- **`DetectAnomalies` in either build**, for a client in working order. -/
theorem detectAnomalies_ready {env : Environment} (hs : Served build env.os)
    (hr : Ready build k c) (component : String) (buf : List UInt8) (width height : UInt64) :
    ∃ d, c.detectAnomalies env k component buf width height = .ok d ∧
      Detects build env c component buf width height d := by
  cases build with
  | default =>
    have hshm : c.shm = none := hr
    exact ⟨_, detectAnomalies_default component width height hshm,
      ⟨hshm, rfl, rfl, rfl, rfl, rfl, rfl, rfl⟩⟩
  | sharedMemory =>
    obtain ⟨shm, hshm, hsole⟩ := hr
    obtain ⟨k', shm', hw, hsole', hread⟩ := writeSHM_sole (hs rfl) hsole buf
    exact ⟨_, detectAnomalies_shared component width height hshm hw,
      ⟨⟨shm', rfl, hsole'⟩, rfl, rfl, rfl, rfl, hread, rfl, rfl⟩⟩

/-- Every call that completes has made one request, and its result of the
outcome. -/
theorem detectAnomalies_answered {env : Environment} {component : String} {buf : List UInt8}
    {width height : UInt64} {d : Detection}
    (h : c.detectAnomalies env k component buf width height = .ok d) :
    ∃ target, d.call =
        ⟨target, .detectAnomalies d.request (env.detectAnomalies target d.request)⟩ ∧
      d.result = detectAnomaliesResult env.rodata (env.detectAnomalies target d.request) := by
  unfold detectAnomalies at h
  split at h
  · cases h
  · obtain rfl := Except.ok.inj h
    exact ⟨_, rfl, rfl⟩

/-- Changing the address keeps a client in working order. -/
theorem ready_setServerSocket (hr : Ready build k c) (socket : String) :
    Ready build k (c.setServerSocket socket) := by
  cases build <;> exact hr

end LookoutVisionInferenceClient

/-! ## Effects -/

/-- The `DetectAnomalies` requests among some effects, with their addresses. -/
def detectRequests (effects : List Effect) : List (String × DetectAnomaliesRequest) :=
  effects.filterMap fun
    | .call ⟨target, .detectAnomalies request _⟩ => some (target, request)
    | _ => none

/-- The calls among some effects. -/
def calls (effects : List Effect) : List Call :=
  effects.filterMap fun
    | .call c => some c
    | _ => none

section Start
variable (env : Environment) (c : LookoutVisionInferenceClient) (component : String)

/-- The polls of a wait are `DescribeModel` calls to the client's address. -/
theorem waitLoop_polls (expected : ModelStatus) (timeout : Int) (start n now : Nat) :
    ∀ poll ∈ (c.waitLoop env component expected timeout start n now).polls,
      ∃ begun outcome latency, poll =
        ⟨c.stub.channel.target, .describeModel ⟨component⟩ begun outcome latency⟩ := by
  fun_induction LookoutVisionInferenceClient.waitLoop c env component expected timeout start n
    now with
  | case1 n now hlt request answer poll hreached =>
    intro p hp
    obtain rfl := List.mem_singleton.mp hp
    exact ⟨_, _, _, rfl⟩
  | case2 n now hlt request answer poll hnot rest ih =>
    intro p hp
    rcases List.mem_cons.mp hp with rfl | hp
    · exact ⟨_, _, _, rfl⟩
    · exact ih p hp
  | case3 n now hlt =>
    intro p hp
    cases hp

/-- Every RPC of a `StartModel` goes to the client's address, and none is a
`DetectAnomalies`. -/
theorem startModel_calls (timeout : Int) :
    ∀ call ∈ (c.startModel env component timeout).calls,
      call.target = c.stub.channel.target ∧
        ∀ request outcome, call.rpc ≠ .detectAnomalies request outcome := by
  intro call hcall
  rcases List.mem_cons.mp hcall with rfl | hcall
  · exact ⟨rfl, fun _ _ h => by cases h⟩
  · obtain ⟨_, _, _, rfl⟩ := waitLoop_polls env c component _ _ _ _ _ call hcall
    exact ⟨rfl, fun _ _ h => by cases h⟩

end Start

section StartEffects
variable (env : Environment) (filter : GstLookoutVision) (component : String)

theorem detectRequests_startEffects :
    detectRequests (filter.startEffects env component) = [] := by
  refine List.filterMap_eq_nil_iff.mpr fun effect h => ?_
  simp only [GstLookoutVision.startEffects, List.mem_append, List.mem_map,
    List.mem_singleton] at h
  rcases h with (⟨call, hcall, rfl⟩ | rfl) | h
  · have hnot := (startModel_calls env filter.inferenceClient component _ call hcall).2
    obtain ⟨target, rpc⟩ := call
    cases rpc with
    | detectAnomalies request outcome => exact absurd rfl (hnot request outcome)
    | _ => rfl
  · rfl
  · split at h
    · cases h
    · obtain rfl := List.mem_singleton.mp h
      rfl

/-- The calls a `StartModel` of the client leaves in the record are its own. -/
theorem calls_startEffects_eq :
    calls (filter.startEffects env component) = (filter.start env component).calls := by
  have hcalls : ∀ cs : List Call, calls (cs.map Effect.call) = cs := by
    intro cs
    simp only [calls, List.filterMap_map]
    exact List.filterMap_some
  have herror : calls (if (filter.start env component).status = .successful then []
      else [Effect.elementError "Failed to start model"]) = [] := by
    split <;> rfl
  have hstarted : calls [Effect.started filter.inferenceClient.stub.channel.target component
      filter.modelStatusTimeout.toInt32.toInt (filter.start env component).status] = [] := rfl
  have happend : ∀ xs ys : List Effect, calls (xs ++ ys) = calls xs ++ calls ys :=
    fun xs ys => List.filterMap_append
  rw [GstLookoutVision.startEffects, happend, happend, hcalls, hstarted, herror,
    List.append_nil, List.append_nil]

theorem calls_startEffects : ∀ call ∈ calls (filter.startEffects env component),
    call.target = filter.inferenceClient.stub.channel.target := by
  intro call hcall
  rw [calls_startEffects_eq] at hcall
  exact (startModel_calls env filter.inferenceClient component _ call hcall).1

/-- A `StartModel` ends once, with its own address, component, timeout and
status. -/
theorem started_mem_startEffects {target component' : String} {timeout : Int}
    {status : OperationStatus} :
    Effect.started target component' timeout status ∈ filter.startEffects env component ↔
      target = filter.inferenceClient.stub.channel.target ∧ component' = component ∧
        timeout = filter.modelStatusTimeout.toInt32.toInt ∧
        status = (filter.start env component).status := by
  simp only [GstLookoutVision.startEffects, List.mem_append, List.mem_map, List.mem_singleton,
    Effect.started.injEq]
  constructor
  · rintro ((⟨call, -, h⟩ | h) | h)
    · cases h
    · exact h
    · split at h
      · cases h
      · cases List.mem_singleton.mp h
  · exact fun h => Or.inl (Or.inr h)

end StartEffects

/-! ## `set_property` on non-`NULL` values -/

section SetProperty
variable (env : Environment) (filter : GstLookoutVision)

/-- The instance with a new address, in the element and in its client. -/
def GstLookoutVision.readdressed (socket : String) : GstLookoutVision :=
  { filter with
    serverSocket := some socket
    inferenceClient := filter.inferenceClient.setServerSocket socket }

theorem setProperty_serverSocket (socket : String) :
    gstLookoutVisionSetProperty env filter (.serverSocket (some socket)) =
      .ok (filter.readdressed socket, match filter.modelComponent with
        | none => []
        | some component => (filter.readdressed socket).startEffects env component) := by
  obtain ⟨sinkpad, client, width, height, serverSocket, modelComponent, timeout⟩ := filter
  cases modelComponent <;> rfl

theorem setProperty_modelComponent (component : String) :
    gstLookoutVisionSetProperty env filter (.modelComponent (some component)) =
      .ok (if (filter.start env component).status = .successful then
          { filter with modelComponent := some component } else filter,
        filter.startEffects env component) := by
  simp only [gstLookoutVisionSetProperty, stdString]
  split <;> rfl

end SetProperty

/-! ## The chain function -/

section Chain
variable {env : Environment} {e : Element} {buf : GstBuffer}

theorem chain_unset (h : e.filter.modelComponent = none) :
    gstLookoutVisionChain env e buf =
      .ok ⟨e, [], ⟨false, 0, .failed, "No value set for model-component"⟩,
        [(gstBufferAddLookoutVisionMeta buf
          ⟨false, 0, .failed, "No value set for model-component"⟩).1]⟩ := by
  unfold gstLookoutVisionChain
  split
  · rename_i component hm
    rw [h] at hm
    cases hm
  · rfl

theorem chain_set {component : String} {d : LookoutVisionInferenceClient.Detection}
    (h : e.filter.modelComponent = some component)
    (hd : e.filter.inferenceClient.detectAnomalies env e.kernel component buf.data
      (sizeT e.filter.width) (sizeT e.filter.height) = .ok d) :
    gstLookoutVisionChain env e buf =
      .ok ⟨⟨{ e.filter with inferenceClient := d.client }, d.kernel⟩, [d.call], d.result,
        [(gstBufferAddLookoutVisionMeta buf d.result).1]⟩ := by
  unfold gstLookoutVisionChain
  split
  · rename_i component' hm
    obtain rfl : component = component' := Option.some.inj (h.symm.trans hm)
    rw [hd]
  · rename_i hm
    rw [h] at hm
    cases hm

theorem chain_fault {component : String} {fault : Fault}
    (h : e.filter.modelComponent = some component)
    (hd : e.filter.inferenceClient.detectAnomalies env e.kernel component buf.data
      (sizeT e.filter.width) (sizeT e.filter.height) = .error fault) :
    gstLookoutVisionChain env e buf = .error fault := by
  unfold gstLookoutVisionChain
  split
  · rename_i component' hm
    obtain rfl : component = component' := Option.some.inj (h.symm.trans hm)
    rw [hd]
  · rename_i hm
    rw [h] at hm
    cases hm

/-- All that a run of the chain function that completes can have done. -/
theorem chain_ok {c : Chained} (h : gstLookoutVisionChain env e buf = .ok c) :
    (e.filter.modelComponent = none ∧
      c = ⟨e, [], ⟨false, 0, .failed, "No value set for model-component"⟩,
        [(gstBufferAddLookoutVisionMeta buf
          ⟨false, 0, .failed, "No value set for model-component"⟩).1]⟩) ∨
    ∃ component d, e.filter.modelComponent = some component ∧
      e.filter.inferenceClient.detectAnomalies env e.kernel component buf.data
        (sizeT e.filter.width) (sizeT e.filter.height) = .ok d ∧
      c = ⟨⟨{ e.filter with inferenceClient := d.client }, d.kernel⟩, [d.call], d.result,
        [(gstBufferAddLookoutVisionMeta buf d.result).1]⟩ := by
  cases hm : e.filter.modelComponent with
  | none =>
    rw [chain_unset hm] at h
    exact .inl ⟨rfl, (Except.ok.inj h).symm⟩
  | some component =>
    cases hd : e.filter.inferenceClient.detectAnomalies env e.kernel component buf.data
        (sizeT e.filter.width) (sizeT e.filter.height) with
    | error fault =>
      rw [chain_fault hm hd] at h
      cases h
    | ok d =>
      rw [chain_set hm hd] at h
      exact .inr ⟨component, d, rfl, hd, (Except.ok.inj h).symm⟩

/-- What a run of the chain function does: it pushes the buffer it was given,
with the result attached if it can be, after at most one request. -/
structure Chains (build : Build) (env : Environment) (e : Element) (buf : GstBuffer)
    (c : Chained) : Prop where
  ready : Ready build c.element.kernel c.element.filter.inferenceClient
  filter : c.element.filter = { e.filter with inferenceClient :=
    { e.filter.inferenceClient with shm := c.element.filter.inferenceClient.shm } }
  pushed : c.pushed = [(gstBufferAddLookoutVisionMeta buf c.result).1]
  silent : e.filter.modelComponent = none → c.calls = [] ∧ c.result =
    ⟨false, 0, .failed, "No value set for model-component"⟩
  request : ∀ component, e.filter.modelComponent = some component →
    ∃ request : DetectAnomaliesRequest,
      c.calls = [⟨e.filter.inferenceClient.stub.channel.target, .detectAnomalies request
        (env.detectAnomalies e.filter.inferenceClient.stub.channel.target request)⟩] ∧
      request.modelComponent = component ∧
      request.bitmap.width = (sizeT e.filter.width).toUInt32.toInt32 ∧
      request.bitmap.height = (sizeT e.filter.height).toUInt32.toInt32 ∧
      request.bitmap.data.bytes c.element.kernel = some buf.data ∧
      c.result = LookoutVisionInferenceClient.detectAnomaliesResult env.rodata
        (env.detectAnomalies e.filter.inferenceClient.stub.channel.target request)

/-- **The chain function in either build**, for a client in working order. -/
theorem chain_ready {build : Build} (hs : Served build env.os)
    (hr : Ready build e.kernel e.filter.inferenceClient) (buf : GstBuffer) :
    ∃ c, gstLookoutVisionChain env e buf = .ok c ∧ Chains build env e buf c := by
  cases hm : e.filter.modelComponent with
  | none =>
    refine ⟨_, chain_unset hm, ⟨hr, rfl, rfl, fun _ => ⟨rfl, rfl⟩, ?_⟩⟩
    intro component h
    rw [hm] at h
    cases h
  | some component =>
    obtain ⟨d, hd, hdet⟩ := LookoutVisionInferenceClient.detectAnomalies_ready hs hr component
      buf.data (sizeT e.filter.width) (sizeT e.filter.height)
    refine ⟨_, chain_set hm hd, ⟨hdet.ready, ?_, rfl, ?_, ?_⟩⟩
    · exact congrArg (fun c => ({ e.filter with inferenceClient := c } : GstLookoutVision))
        hdet.client
    · intro h
      rw [hm] at h
      cases h
    · intro component' h
      obtain rfl : component = component' := Option.some.inj (hm.symm.trans h)
      exact ⟨d.request, congrArg (fun c => [c]) hdet.call, hdet.component, hdet.width,
        hdet.height, hdet.bytes, hdet.result⟩

theorem chain_chains {build : Build} {c : Chained} (hs : Served build env.os)
    (hr : Ready build e.kernel e.filter.inferenceClient)
    (h : gstLookoutVisionChain env e buf = .ok c) : Chains build env e buf c := by
  obtain ⟨c', h', hspec⟩ := chain_ready hs hr buf
  obtain rfl : c' = c := Except.ok.inj (h'.symm.trans h)
  exact hspec

end Chain

/-- Converting a dimension to `size_t` and back to `int32` changes nothing. -/
@[simp] theorem toInt32_sizeT (n : Int32) : (sizeT n).toUInt32.toInt32 = n := by
  apply Int32.toBitVec_inj.mp
  simp only [sizeT, UInt32.toBitVec_toInt32, UInt64.toBitVec_toUInt32, Int64.toBitVec_toUInt64,
    Int32.toBitVec_toInt64]
  ext i hi
  rw [BitVec.getElem_setWidth, BitVec.getLsbD_signExtend]
  have h : i < 64 := by omega
  simp [hi, h, BitVec.getLsbD_eq_getElem]

section
variable {build : Build} {env : Environment} {e : Element} {buf : GstBuffer} {c : Chained}

/-- Without a component no request is made. -/
theorem Chains.unrequested (h : Chains build env e buf c)
    (hm : e.filter.modelComponent = none) : detectRequests c.effects = [] := by
  rw [Chained.effects, (h.silent hm).1, h.pushed]
  rfl

/-- **The one request of a buffer**: to the client's address, for the held
component, with the recorded dimensions and the buffer's bytes. -/
theorem Chains.requested (h : Chains build env e buf c) {component : String}
    (hm : e.filter.modelComponent = some component) :
    ∃ request : DetectAnomaliesRequest,
      detectRequests c.effects = [(e.filter.inferenceClient.stub.channel.target, request)] ∧
        request.modelComponent = component ∧ request.bitmap.width = e.filter.width ∧
        request.bitmap.height = e.filter.height ∧
        request.bitmap.data.bytes c.element.kernel = some buf.data := by
  obtain ⟨request, hcalls, hname, hwidth, hheight, hbytes, -⟩ := h.request component hm
  rw [toInt32_sizeT] at hwidth hheight
  refine ⟨request, ?_, hname, hwidth, hheight, hbytes⟩
  rw [Chained.effects, hcalls, h.pushed]
  rfl

end

/-! ## One entry -/

/-- All that an entry that completes can have done, by what it was. -/
inductive Stepped (env : Environment) (e : Element) : Action → Element → List Effect → Prop
  | serverSocket (socket : String) :
      Stepped env e (.setProperty (.serverSocket (some socket)))
        { e with filter := e.filter.readdressed socket }
        (match e.filter.modelComponent with
        | none => []
        | some component => (e.filter.readdressed socket).startEffects env component)
  | modelComponent (component : String) :
      Stepped env e (.setProperty (.modelComponent (some component)))
        { e with filter := if (e.filter.start env component).status = .successful then
            { e.filter with modelComponent := some component } else e.filter }
        (e.filter.startEffects env component)
  | modelStatusTimeout (timeout : UInt32) :
      Stepped env e (.setProperty (.modelStatusTimeout timeout))
        { e with filter := { e.filter with modelStatusTimeout := timeout } } []
  | sinkEvent (event : GstEvent) :
      Stepped env e (.sinkEvent event)
        { e with filter := gstLookoutVisionSinkEvent e.filter event } []
  | chain {buf : GstBuffer} {c : Chained} (h : gstLookoutVisionChain env e buf = .ok c) :
      Stepped env e (.chain buf) c.element c.effects

/-- **What an entry that completes has done.**  `NULL` strings do not get here. -/
theorem stepped_of_step {e e' : Element} {i : Input} {effects : List Effect}
    (h : elementStep e i = .ok (e', effects)) : Stepped i.env e i.action e' effects := by
  obtain ⟨action, env⟩ := i
  cases action with
  | setProperty assignment =>
    cases assignment with
    | serverSocket value =>
      cases value with
      | none => cases h
      | some socket =>
        simp only [elementStep, setProperty_serverSocket] at h
        obtain ⟨rfl, rfl⟩ := Prod.mk.inj (Except.ok.inj h)
        exact .serverSocket socket
    | modelComponent value =>
      cases value with
      | none => cases h
      | some component =>
        simp only [elementStep, setProperty_modelComponent] at h
        obtain ⟨rfl, rfl⟩ := Prod.mk.inj (Except.ok.inj h)
        exact .modelComponent component
    | modelStatusTimeout timeout =>
      obtain ⟨rfl, rfl⟩ := Prod.mk.inj (Except.ok.inj h)
      exact .modelStatusTimeout timeout
  | sinkEvent event =>
    obtain ⟨rfl, rfl⟩ := Prod.mk.inj (Except.ok.inj h)
    exact .sinkEvent event
  | chain buf =>
    cases hchain : gstLookoutVisionChain env e buf with
    | error fault =>
      simp only [elementStep, hchain] at h
      cases h
    | ok c =>
      simp only [elementStep, hchain] at h
      obtain ⟨rfl, rfl⟩ := Prod.mk.inj (Except.ok.inj h)
      exact .chain hchain

end LookoutVision
