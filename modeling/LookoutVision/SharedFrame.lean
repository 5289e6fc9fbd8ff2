import LookoutVision.Runs
import LookoutVision.SharedSegment

/-!
# One frame in both builds

A client by itself, in the default build and in the shared-memory build, given
the same calls.  The shared-memory client starts from whatever segment of that
name was left over.  At every `DetectAnomalies` the handle of the one names a
range inside the segment whose bytes are the other's `byte_data`
(`shared_build_sends_same_frames`).

What the segment holds beyond the frame is never looked at: an earlier, larger
frame leaves its end there, and it is the handle's size that cuts it off.
-/

namespace LookoutVision

/-! ## A client as a machine -/

/-- The two calls an element makes of its client that concern frames. -/
inductive ClientCall
  | setServerSocket (socket : String)
  | detectAnomalies (modelComponent : String) (buf : List UInt8) (width height : UInt64)
deriving DecidableEq, Repr

structure ClientInput where
  call : ClientCall
  env : Environment

/-- A client and the machine's shared memory. -/
structure ClientState where
  client : LookoutVisionInferenceClient
  kernel : Kernel

/-- A call on the client, with what a `DetectAnomalies` did. -/
def clientStep (s : ClientState) (i : ClientInput) :
    Except Fault (ClientState × Option LookoutVisionInferenceClient.Detection) :=
  match i.call with
  | .setServerSocket socket => .ok ({ s with client := s.client.setServerSocket socket }, none)
  | .detectAnomalies modelComponent buf width height =>
      match s.client.detectAnomalies i.env s.kernel modelComponent buf width height with
      | .error fault => .error fault
      | .ok d => .ok (⟨d.client, d.kernel⟩, some d)

def client :
    Machine ClientState ClientInput (Option LookoutVisionInferenceClient.Detection) Fault :=
  ⟨clientStep⟩

theorem client_step_detect {s : ClientState} {env : Environment} {component : String}
    {buf : List UInt8} {width height : UInt64} {d : LookoutVisionInferenceClient.Detection}
    (h : s.client.detectAnomalies env s.kernel component buf width height = .ok d) :
    client.step s ⟨.detectAnomalies component buf width height, env⟩ =
      .ok (⟨d.client, d.kernel⟩, some d) := by
  simp only [client, clientStep, h]

theorem client_step_fault {s : ClientState} {env : Environment} {component : String}
    {buf : List UInt8} {width height : UInt64} {fault : Fault}
    (h : s.client.detectAnomalies env s.kernel component buf width height = .error fault) :
    client.step s ⟨.detectAnomalies component buf width height, env⟩ = .error fault := by
  simp only [client, clientStep, h]

/-! ## The same frame -/

/-- The range of the request's handle lies inside the segment of the handle's name,
and holds the bytes. -/
def HandleHolds (k : Kernel) (request : DetectAnomaliesRequest) (bytes : List UInt8) : Prop :=
  ∃ handle o, request.bitmap.data = .sharedMemoryHandle handle ∧ handle.name = shmName ∧
    k.bound handle.name = some o ∧
    handle.offset + handle.size ≤ (k.content o).length ∧
    ((k.content o).drop handle.offset).take handle.size = bytes

/-- With the memory as it is in `k`, one request names in the segment the frame the
other carries; otherwise they are the same. -/
structure SameRequest (k : Kernel) (request request' : DetectAnomaliesRequest)
    (buf : List UInt8) : Prop where
  component : request.modelComponent = request'.modelComponent
  width : request.bitmap.width = request'.bitmap.width
  height : request.bitmap.height = request'.bitmap.height
  message : request'.bitmap.data = .byteData buf
  handle : HandleHolds k request buf

/-- The RPC of `d` sends through the segment what that of `d'` sends in the message,
to the same address.  A call writes nothing after its RPC, so `d.kernel` is the memory
the agent finds. -/
def SameFrame (d d' : LookoutVisionInferenceClient.Detection) (buf : List UInt8) : Prop :=
  ∃ request outcome request' outcome',
    d.call = ⟨d'.call.target, .detectAnomalies request outcome⟩ ∧
    d'.call.rpc = .detectAnomalies request' outcome' ∧
    SameRequest d.kernel request request' buf

/-- The outputs of one call in the two builds. -/
def Agree (i : ClientInput)
    (o o' : Option LookoutVisionInferenceClient.Detection) : Prop :=
  match i.call with
  | .setServerSocket _ => o = none ∧ o' = none
  | .detectAnomalies _ buf _ _ => ∃ d d', o = some d ∧ o' = some d' ∧ SameFrame d d' buf

/-- The two clients have the same address, and the first the segment to
itself. -/
structure Twins (s s' : ClientState) : Prop where
  same : s'.client = { s.client with shm := none }
  sole : ∃ shm, s.client.shm = some shm ∧ Sole s.kernel shm

/-- **One call.** -/
theorem twins_step {s s' : ClientState} {i : ClientInput} (ht : Twins s s')
    (hos : i.env.os.Succeed) :
    ∃ t o t' o', client.step s i = .ok (t, o) ∧ client.step s' i = .ok (t', o') ∧
      Twins t t' ∧ Agree i o o' := by
  obtain ⟨c, k⟩ := s
  obtain ⟨c', k'⟩ := s'
  obtain ⟨rfl, shm, hshm, hsole⟩ := ht
  obtain ⟨call, env⟩ := i
  cases call with
  | setServerSocket socket =>
    exact ⟨_, none, _, none, rfl, rfl, ⟨rfl, shm, hshm, hsole⟩, rfl, rfl⟩
  | detectAnomalies component buf width height =>
    obtain ⟨k₁, shm₁, hw, hsole₁, hread⟩ := writeSHM_sole hos hsole buf
    obtain ⟨o, hbound, hinside, hbytes⟩ := Posix.Kernel.read_inv hread
    have hshared : client.step ⟨c, k⟩ ⟨.detectAnomalies component buf width height, env⟩ = _ :=
      client_step_detect
        (LookoutVisionInferenceClient.detectAnomalies_shared component width height hshm hw)
    have hdefault : client.step ⟨{ c with shm := none }, k'⟩
        ⟨.detectAnomalies component buf width height, env⟩ = _ :=
      client_step_detect
        (LookoutVisionInferenceClient.detectAnomalies_default component width height rfl)
    refine ⟨_, _, _, _, hshared, hdefault, ⟨rfl, shm₁, rfl, hsole₁⟩, ?_⟩
    -- The two RPCs, and what the segment holds when the first is sent.
    refine ⟨_, _, rfl, rfl, _, _, _, _, rfl, rfl, ⟨rfl, rfl, rfl, rfl, ?_⟩⟩
    exact ⟨_, o, rfl, rfl, hbound, hinside, hbytes⟩

/-- **The shared-memory build sends the agent the same frames as the default
build**: over every sequence of calls, from whatever segment was left over, as
long as the system calls succeed. -/
theorem shared_build_sends_same_frames (os : Posix.Outcomes) (k : Kernel) (socket : String)
    (is : List ClientInput) (hos : os.Succeed) (his : ∀ i ∈ is, i.env.os.Succeed) :
    ∃ kShared cShared kDefault cDefault s h s' h',
      LookoutVisionInferenceClient.new .sharedMemory os k socket = .ok (kShared, cShared) ∧
      LookoutVisionInferenceClient.new .default os k socket = .ok (kDefault, cDefault) ∧
      client.run ⟨cShared, kShared⟩ is = .ok (s, h) ∧
      client.run ⟨cDefault, kDefault⟩ is = .ok (s', h') ∧
      h.map Prod.fst = is ∧
      List.Forall₂ (fun r r' => r.1 = r'.1 ∧ Agree r.1 r.2 r'.2) h h' := by
  obtain ⟨k', shm, hsetup, hsole⟩ := setupSHM_sole (k := k) hos
  have hnew : LookoutVisionInferenceClient.new .sharedMemory os k socket =
      .ok (k', ⟨socket, ⟨socket⟩, ⟨⟨socket⟩⟩, some shm⟩) := by
    simp only [LookoutVisionInferenceClient.new, hsetup]
  have htwins : Twins ⟨⟨socket, ⟨socket⟩, ⟨⟨socket⟩⟩, some shm⟩, k'⟩
      ⟨⟨socket, ⟨socket⟩, ⟨⟨socket⟩⟩, none⟩, k⟩ := ⟨rfl, shm, rfl, hsole⟩
  obtain ⟨s, h, s', h', hrun, hrun', -, hagree⟩ :=
    Machine.run_simulation (fun _ _ _ ht hi => twins_step ht hi) htwins is his
  exact ⟨_, _, _, _, s, h, s', h', hnew, rfl, hrun, hrun', Machine.run_inputs hrun, hagree⟩

/-- A frame, one that the initial segment does not hold, a smaller one, and an empty one. -/
def growingAndShrinking : List ClientInput :=
  [⟨.detectAnomalies "SampleModel" [1, 2, 3, 4, 5, 6] 2 1, .steady fun _ _ => true⟩,
    ⟨.detectAnomalies "SampleModel" (List.replicate (initialShmSize + 3) 5) 1920 1921,
      .steady fun _ _ => true⟩,
    ⟨.setServerSocket "0.0.0.0:50051", .steady fun _ _ => true⟩,
    ⟨.detectAnomalies "SampleModel" [7, 8, 9] 1 1, .steady fun _ _ => true⟩,
    ⟨.detectAnomalies "SampleModel" [] 0 0, .steady fun _ _ => true⟩]

theorem shared_build_sends_same_frames_sample :
    ∃ kShared cShared kDefault cDefault s h s' h',
      LookoutVisionInferenceClient.new .sharedMemory .allSucceed Posix.Kernel.empty
        "0.0.0.0:50050" = .ok (kShared, cShared) ∧
      LookoutVisionInferenceClient.new .default .allSucceed Posix.Kernel.empty
        "0.0.0.0:50050" = .ok (kDefault, cDefault) ∧
      client.run ⟨cShared, kShared⟩ growingAndShrinking = .ok (s, h) ∧
      client.run ⟨cDefault, kDefault⟩ growingAndShrinking = .ok (s', h') ∧
      h.map Prod.fst = growingAndShrinking ∧
      List.Forall₂ (fun r r' => r.1 = r'.1 ∧ Agree r.1 r.2 r'.2) h h' :=
  shared_build_sends_same_frames .allSucceed Posix.Kernel.empty "0.0.0.0:50050"
    growingAndShrinking (by decide) (by
      have hos : (Environment.steady fun _ _ => true).os.Succeed := by decide
      simp only [growingAndShrinking, List.forall_mem_cons]
      exact ⟨hos, hos, hos, hos, hos, nofun⟩)

end LookoutVision
