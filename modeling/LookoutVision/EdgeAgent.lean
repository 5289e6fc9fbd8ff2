import LookoutVision.PosixShm

/-!
# The Edge Agent's interface, and the world around an element

The messages of `Inference.proto` that the client builds or reads, and the
outcomes an RPC can have.  An RPC is sent to the address its stub's channel was
created for; it returns a status, with a reply when the status is OK, or throws.

Everything the code asks of the outside during one entry into the element is an
`Environment`: how the agents at every address answer, what the clock reads when
polling begins, which system calls succeed.  Every statement quantifies over one
environment per entry, so over every sequence of outcomes.
-/

namespace LookoutVision

/-- `ModelStatus` of `Inference.proto`. -/
inductive ModelStatus
  | stopped
  | starting
  | running
  | failed
  | stopping
deriving DecidableEq, Repr

structure SharedMemoryHandle where
  name : String
  size : Nat
  offset : Nat
deriving DecidableEq, Repr

/-- The `oneof data` of `Bitmap`. -/
inductive BitmapData
  | byteData (bytes : List UInt8)
  | sharedMemoryHandle (handle : SharedMemoryHandle)
deriving DecidableEq, Repr

structure Bitmap where
  width : Int32
  height : Int32
  data : BitmapData
deriving DecidableEq, Repr

structure DetectAnomaliesRequest where
  modelComponent : String
  bitmap : Bitmap
deriving DecidableEq, Repr

/-- A `float` by its bits: the plugin copies confidences and computes with none. -/
abbrev FloatBits := UInt32

structure DetectAnomalyResult where
  isAnomalous : Bool
  confidence : FloatBits
deriving DecidableEq, Repr

structure DetectAnomaliesResponse where
  detectAnomalyResult : DetectAnomalyResult
deriving DecidableEq, Repr

structure StartModelRequest where
  modelComponent : String
deriving DecidableEq, Repr

structure StartModelResponse where
  status : ModelStatus
deriving DecidableEq, Repr

structure DescribeModelRequest where
  modelComponent : String
deriving DecidableEq, Repr

structure ModelDescription where
  status : ModelStatus
deriving DecidableEq, Repr

structure DescribeModelResponse where
  modelDescription : ModelDescription
deriving DecidableEq, Repr

/-- `grpc::Status`. -/
structure Status where
  errorCode : Int
  errorMessage : String
deriving DecidableEq, Repr

/-- `grpc::Status::OK`. -/
def Status.success : Status := ⟨0, ""⟩

def Status.ok (s : Status) : Bool := s.errorCode == 0

/-- How an RPC ends: a status and the reply (meaningful when the status is OK),
or a `std::exception` with its `what()` text. -/
inductive RpcOutcome (Reply : Type)
  | returned (status : Status) (reply : Reply)
  | threw (what : String)
deriving DecidableEq, Repr

/-- An RPC as the client made it, with its outcome; a `DescribeModel` call also
with the time it was begun and the seconds it took. -/
inductive Rpc
  | startModel (request : StartModelRequest) (outcome : RpcOutcome StartModelResponse)
  | describeModel (request : DescribeModelRequest) (begun : Nat)
      (outcome : RpcOutcome DescribeModelResponse) (latency : Nat)
  | detectAnomalies (request : DetectAnomaliesRequest)
      (outcome : RpcOutcome DetectAnomaliesResponse)
deriving DecidableEq, Repr

/-- An RPC and the address it was sent to. -/
structure Call where
  target : String
  rpc : Rpc
deriving DecidableEq, Repr

/-- **What the outside does during one entry into the element.**

`startModel`, `describeModel` and `detectAnomalies` are the agents, by address.
A `DescribeModel` answer may depend on how many were asked before in the same
wait and on the time it is asked; it comes with the seconds it takes.  `clock`
is what `std::time` reads when a wait begins, `os` which system calls succeed.
`rodata n` is the text found `n` bytes after the beginning of the literal
`": "`, beyond its end or before its start, where the language leaves open what
is read. -/
structure Environment where
  startModel : String → StartModelRequest → RpcOutcome StartModelResponse
  describeModel : String → DescribeModelRequest → Nat → Nat →
    RpcOutcome DescribeModelResponse × Nat
  detectAnomalies : String → DetectAnomaliesRequest → RpcOutcome DetectAnomaliesResponse
  clock : Nat
  os : Posix.Outcomes
  rodata : Int → String

/-- Agents that answer at once: a model is started by nothing but the table
`running`, and every frame is found normal. -/
def Environment.steady (running : String → String → Bool) : Environment where
  startModel := fun _ _ => .returned .success ⟨.starting⟩
  describeModel := fun socket request _ _ =>
    (.returned .success ⟨⟨if running socket request.modelComponent then .running else .stopped⟩⟩,
      0)
  detectAnomalies := fun _ _ => .returned .success ⟨⟨false, 0⟩⟩
  clock := 0
  os := .allSucceed
  rodata := fun _ => ""

/-- The machine's shared memory, with bytes and names as POSIX has them. -/
abbrev Kernel := Posix.Kernel String UInt8

/-- The bytes of a bitmap as the agent finds them: those in the message, or the
named segment's range. -/
def BitmapData.bytes (k : Kernel) : BitmapData → Option (List UInt8)
  | .byteData bytes => some bytes
  | .sharedMemoryHandle h => k.read h.name h.offset h.size

/-- What ends the process, or leaves an entry point by an exception nobody
catches. -/
inductive Fault
  | access (fault : Posix.AccessFault)
  | nullString
  | uncaught (what : String)
deriving DecidableEq, Repr

end LookoutVision
