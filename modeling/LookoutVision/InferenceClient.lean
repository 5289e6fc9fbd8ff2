import LookoutVision.EdgeAgent

/-!
# `LookoutVisionInferenceClient`

The client of `src/lookoutvision-client`, member function by member function.
Both builds are here: a client built with `SHARED_MEMORY` has the three private
fields of the segment, one built without it has none, and the two places where
the source says `#ifdef SHARED_MEMORY` branch on them.
-/

namespace LookoutVision

inductive GstLookoutVisionResultStatus
  | successful
  | failed
deriving DecidableEq, Repr

structure GstLookoutVisionResult where
  isAnomalous : Bool
  confidence : FloatBits
  resultStatus : GstLookoutVisionResultStatus
  errorMessage : String
deriving DecidableEq, Repr

inductive OperationStatus
  | successful
  | failed
deriving DecidableEq, Repr

/-- Whether the sources are compiled with `SHARED_MEMORY`. -/
inductive Build
  | default
  | sharedMemory
deriving DecidableEq, Repr

/-- `grpc::Channel`, by the address it was created for. -/
structure Channel where
  target : String
deriving DecidableEq, Repr

structure EdgeAgentStub where
  channel : Channel
deriving DecidableEq, Repr

/-- The private fields of a `SHARED_MEMORY` client.  `shmFd` is the object the
descriptor is open on; `shmData` is the mapping's address, `none` standing for
`MAP_FAILED`. -/
structure SharedMemory where
  shmSize : Nat
  shmFd : Nat
  shmData : Option Nat
deriving DecidableEq, Repr

structure LookoutVisionInferenceClient where
  serverSocket : String
  channel : Channel
  stub : EdgeAgentStub
  shm : Option SharedMemory
deriving DecidableEq, Repr

def pollingIntervalInSeconds : Nat := 5

def shmName : String := "/gstreamer-lookoutvision-bitmap"

/-- The initial value of `shm_size`. -/
def initialShmSize : Nat := 1920 * 1920 * 3

/-! ## The shared segment -/

/-- `ftruncate(shm_fd, shm_size)` and `shm_data = mmap(0, shm_size, ..)`, the two
lines `setupSHM` and `writeSHM` share: neither result is examined. -/
def mapSegment (os : Posix.Outcomes) (k : Kernel) (shmFd shmSize : Nat) :
    Kernel × SharedMemory :=
  let k₁ := if os.ftruncate then k.ftruncate shmFd shmSize else k
  if os.mmap then ((k₁.mmap shmFd shmSize).1, ⟨shmSize, shmFd, some (k₁.mmap shmFd shmSize).2⟩)
  else (k₁, ⟨shmSize, shmFd, none⟩)

def setupSHM (os : Posix.Outcomes) (k : Kernel) : Except Fault (Kernel × SharedMemory) :=
  if os.shmOpen then
    .ok (mapSegment os (k.shmOpen shmName).1 (k.shmOpen shmName).2 initialShmSize)
  else .error (.uncaught "shm_open failed")

/-- `memcpy(shm_data, buf, bytes_size)`. -/
def copyToSegment (k : Kernel) (shm : SharedMemory) (buf : List UInt8) :
    Except Fault (Kernel × SharedMemory) :=
  match k.store shm.shmData buf with
  | .error fault => .error (.access fault)
  | .ok k' => .ok (k', shm)

def writeSHM (os : Posix.Outcomes) (k : Kernel) (shm : SharedMemory) (buf : List UInt8) :
    Except Fault (Kernel × SharedMemory) :=
  if shm.shmSize < buf.length then
    let grown := mapSegment os k shm.shmFd buf.length
    copyToSegment grown.1 grown.2 buf
  else copyToSegment k shm buf

namespace LookoutVisionInferenceClient
variable (c : LookoutVisionInferenceClient)

/-! ## Construction and destruction -/

/-- `setServerSocket`: a new channel for the address, and a new stub on it. -/
def setServerSocket (serverSocket : String) : LookoutVisionInferenceClient :=
  { c with
    serverSocket := serverSocket
    channel := ⟨serverSocket⟩
    stub := ⟨⟨serverSocket⟩⟩ }

/-- The constructor from an address. -/
def new (build : Build) (os : Posix.Outcomes) (k : Kernel) (serverSocket : String) :
    Except Fault (Kernel × LookoutVisionInferenceClient) :=
  match build with
  | .default => .ok (k, ⟨serverSocket, ⟨serverSocket⟩, ⟨⟨serverSocket⟩⟩, none⟩)
  | .sharedMemory =>
      match setupSHM os k with
      | .error fault => .error fault
      | .ok (k', shm) => .ok (k', ⟨serverSocket, ⟨serverSocket⟩, ⟨⟨serverSocket⟩⟩, some shm⟩)

/-- The destructor: the mapping and the descriptor go, and so does the name. -/
def delete (k : Kernel) : Kernel :=
  match c.shm with
  | none => k
  | some shm =>
      let k₁ := match shm.shmData with
        | none => k
        | some address => k.munmap address shm.shmSize
      k₁.shmUnlink shmName

/-! ## `DetectAnomalies` -/

/-- The part of `DetectAnomalies` before the RPC: the request, with the bitmap's
bytes in the message or in the segment. -/
def prepareRequest (os : Posix.Outcomes) (k : Kernel) (modelComponent : String)
    (buf : List UInt8) (width height : UInt64) :
    Except Fault (Kernel × LookoutVisionInferenceClient × DetectAnomaliesRequest) :=
  match c.shm with
  | none =>
      .ok (k, c, ⟨modelComponent,
        ⟨width.toUInt32.toInt32, height.toUInt32.toInt32, .byteData buf⟩⟩)
  | some shm =>
      match writeSHM os k shm buf with
      | .error fault => .error fault
      | .ok (k', shm') =>
          .ok (k', { c with shm := some shm' }, ⟨modelComponent,
            ⟨width.toUInt32.toInt32, height.toUInt32.toInt32,
              .sharedMemoryHandle ⟨shmName, buf.length, 0⟩⟩⟩)

/-- The text found `n` bytes into the literal `": "`: its own end as long as
`n ≤ 2`, whatever lies there otherwise. -/
def literalFrom (rodata : Int → String) (n : Int) : String :=
  if n = 0 then ": " else if n = 1 then " " else if n = 2 then "" else rodata n

/-- What `DetectAnomalies` makes of the RPC's outcome.  The error text is
`status.error_code() + ": " + status.error_message()`, where the first `+` adds
a number to a pointer. -/
def detectAnomaliesResult (rodata : Int → String) :
    RpcOutcome DetectAnomaliesResponse → GstLookoutVisionResult
  | .returned status reply =>
      if status.ok then
        ⟨reply.detectAnomalyResult.isAnomalous, reply.detectAnomalyResult.confidence,
          .successful, ""⟩
      else
        ⟨false, 0, .failed, literalFrom rodata status.errorCode ++ status.errorMessage⟩
  | .threw what => ⟨false, 0, .failed, what⟩

/-- What a `DetectAnomalies` call leaves: the client and the kernel, the RPC it
sent and the result it returns. -/
structure Detection where
  kernel : Kernel
  client : LookoutVisionInferenceClient
  request : DetectAnomaliesRequest
  call : Call
  result : GstLookoutVisionResult

def detectAnomalies (env : Environment) (k : Kernel) (modelComponent : String)
    (buf : List UInt8) (width height : UInt64) : Except Fault Detection :=
  match c.prepareRequest env.os k modelComponent buf width height with
  | .error fault => .error fault
  | .ok (k', c', request) =>
      let outcome := env.detectAnomalies c'.stub.channel.target request
      .ok ⟨k', c', request, ⟨c'.stub.channel.target, .detectAnomalies request outcome⟩,
        detectAnomaliesResult env.rodata outcome⟩

/-! ## `StartModel` -/

/-- `getModelStatus`: the status of an OK reply, otherwise `NULL`. -/
def getModelStatus : RpcOutcome DescribeModelResponse → Option ModelStatus
  | .returned status reply => if status.ok then some reply.modelDescription.status else none
  | .threw _ => none

/-- What a wait did: whether the expected status was seen, the polls in order,
and the time it ended. -/
structure Wait where
  reached : Bool
  polls : List Call
  finished : Nat

/-- The polling loop of `waitForModelStatusWithTimeout`, begun at `start`, after
`n` polls, at time `now`. -/
def waitLoop (env : Environment) (modelComponent : String) (expectedStatus : ModelStatus)
    (timeoutInSeconds : Int) (start n now : Nat) : Wait :=
  if (now : Int) - start < timeoutInSeconds then
    let request : DescribeModelRequest := ⟨modelComponent⟩
    let answer := env.describeModel c.stub.channel.target request n now
    let poll : Call :=
      ⟨c.stub.channel.target, .describeModel request now answer.1 answer.2⟩
    if getModelStatus answer.1 = some expectedStatus then ⟨true, [poll], now + answer.2⟩
    else
      let rest := waitLoop env modelComponent expectedStatus timeoutInSeconds start (n + 1)
        (now + answer.2 + pollingIntervalInSeconds)
      ⟨rest.reached, poll :: rest.polls, rest.finished⟩
  else ⟨false, [], now⟩
termination_by (start + timeoutInSeconds - now).toNat
decreasing_by
  simp only [pollingIntervalInSeconds]
  omega

def waitForModelStatusWithTimeout (env : Environment) (modelComponent : String)
    (expectedStatus : ModelStatus) (timeoutInSeconds : Int) : Wait :=
  c.waitLoop env modelComponent expectedStatus timeoutInSeconds env.clock 0 env.clock

/-- What a `StartModel` call did: its status, the RPCs it sent in order and the
time it ended. -/
structure Start where
  status : OperationStatus
  calls : List Call
  finished : Nat

/-- `StartModel`.  What the `StartModel` RPC answers is only printed; the outcome
is that of the wait. -/
def startModel (env : Environment) (modelComponent : String) (modelStatusTimeout : Int) :
    Start :=
  let request : StartModelRequest := ⟨modelComponent⟩
  let call : Call := ⟨c.stub.channel.target,
    .startModel request (env.startModel c.stub.channel.target request)⟩
  let wait := c.waitForModelStatusWithTimeout env modelComponent .running modelStatusTimeout
  ⟨if wait.reached then .successful else .failed, call :: wait.polls, wait.finished⟩

end LookoutVisionInferenceClient
end LookoutVision
