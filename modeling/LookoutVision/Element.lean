import LookoutVision.ResultMeta
import LookoutVision.Runs

/-!
# The `lookoutvision` element

`src/gst/lookoutvision/gstlookoutvision.cc`: the instance, its construction, the
pad probe, the property setter and the chain function.  `element` is the machine
whose inputs are what reaches an instance from outside (a property assignment,
a sink-pad event, a buffer), each with the environment it meets, and whose
outputs are what the instance does outwards.
-/

namespace LookoutVision

/-! ## The instance -/

/-- The sink pad, by whether `pad_probe` is still installed on it. -/
structure SinkPad where
  probe : Bool
deriving DecidableEq, Repr

/-- `GstLookoutVision`.  A `gchar*` is `none` when it is `NULL`. -/
structure GstLookoutVision where
  sinkpad : SinkPad
  inferenceClient : LookoutVisionInferenceClient
  width : Int32
  height : Int32
  serverSocket : Option String
  modelComponent : Option String
  modelStatusTimeout : UInt32
deriving DecidableEq, Repr

/-- An instance in its surroundings: the machine's shared memory is the only
part of them it changes. -/
structure Element where
  filter : GstLookoutVision
  kernel : Kernel

/-- A value for one of the three installed properties, as `GValue` carries it:
a string may be `NULL`. -/
inductive Assignment
  | serverSocket (value : Option String)
  | modelComponent (value : Option String)
  | modelStatusTimeout (value : UInt32)
deriving DecidableEq, Repr

/-- The `width` and `height` fields of a caps event's first structure, where
they are present and integers. -/
structure Caps where
  width : Option Int32
  height : Option Int32
deriving DecidableEq, Repr

inductive GstEvent
  | caps (caps : Caps)
  | other
deriving DecidableEq, Repr

inductive PadProbeReturn
  | ok
  | remove
deriving DecidableEq, Repr

/-- What an instance does outwards: an RPC, the end of a `StartModel` of its
client (the address, the component, the timeout and the status), an error
message on the bus, a buffer on the source pad. -/
inductive Effect
  | call (call : Call)
  | started (target component : String) (timeout : Int) (status : OperationStatus)
  | elementError (debug : String)
  | push (buffer : GstBuffer)
deriving DecidableEq, Repr

/-! ## Construction -/

def defaultServerSocket : String := "unix:///tmp/aws.iot.lookoutvision.EdgeAgent.sock"

def defaultModelStatusTimeout : UInt32 := 180

/-- The upper bound of the `model-status-timeout` property's specification. -/
def maxModelStatusTimeout : UInt32 := 600

/-- `gst_lookout_vision_init`, in zeroed instance memory. -/
def gstLookoutVisionInit (build : Build) (os : Posix.Outcomes) (k : Kernel) :
    Except Fault Element :=
  match LookoutVisionInferenceClient.new build os k defaultServerSocket with
  | .error fault => .error fault
  | .ok (k', client) =>
      .ok ⟨{ sinkpad := ⟨true⟩
             inferenceClient := client
             width := 0
             height := 0
             serverSocket := some defaultServerSocket
             modelComponent := none
             modelStatusTimeout := defaultModelStatusTimeout }, k'⟩

/-! ## The pad probe -/

def padProbe (filter : GstLookoutVision) : GstEvent → PadProbeReturn × GstLookoutVision
  | .other => (.ok, filter)
  | .caps caps =>
      match caps.width, caps.height with
      | some width, some height => (.ok, { filter with width := width, height := height })
      | _, _ => (.remove, filter)

/-- An event on the sink pad.  GStreamer calls the probe until it asks to be
removed, and passes the event on; the element's own handler only logs it. -/
def gstLookoutVisionSinkEvent (filter : GstLookoutVision) (event : GstEvent) :
    GstLookoutVision :=
  if filter.sinkpad.probe then
    match padProbe filter event with
    | (.ok, filter') => filter'
    | (.remove, filter') => { filter' with sinkpad := ⟨false⟩ }
  else filter

/-! ## Properties -/

/-- A `std::string` from a `const char*`: `NULL` is not one. -/
def stdString : Option String → Except Fault String
  | none => .error .nullString
  | some s => .ok s

/-- The client's `StartModel` for the `guint` timeout, converted to `int`. -/
def GstLookoutVision.start (env : Environment) (filter : GstLookoutVision) (component : String) :
    LookoutVisionInferenceClient.Start :=
  filter.inferenceClient.startModel env component filter.modelStatusTimeout.toInt32.toInt

/-- What a `StartModel` does outwards, the caller's error message included. -/
def GstLookoutVision.startEffects (env : Environment) (filter : GstLookoutVision)
    (component : String) : List Effect :=
  (filter.start env component).calls.map Effect.call ++
    [.started filter.inferenceClient.stub.channel.target component
      filter.modelStatusTimeout.toInt32.toInt (filter.start env component).status] ++
    if (filter.start env component).status = .successful then []
    else [.elementError "Failed to start model"]

def gstLookoutVisionSetProperty (env : Environment) (filter : GstLookoutVision) :
    Assignment → Except Fault (GstLookoutVision × List Effect)
  | .serverSocket value =>
      match stdString value with
      | .error fault => .error fault
      | .ok socket =>
          let filter' := { filter with
            serverSocket := value
            inferenceClient := filter.inferenceClient.setServerSocket socket }
          match filter'.modelComponent with
          | none => .ok (filter', [])
          | some component => .ok (filter', filter'.startEffects env component)
  | .modelComponent value =>
      match stdString value with
      | .error fault => .error fault
      | .ok component =>
          if (filter.start env component).status = .successful then
            .ok ({ filter with modelComponent := value }, filter.startEffects env component)
          else .ok (filter, filter.startEffects env component)
  | .modelStatusTimeout value => .ok ({ filter with modelStatusTimeout := value }, [])

/-! ## The chain function -/

/-- `int` to `size_t`. -/
def sizeT (n : Int32) : UInt64 := n.toInt64.toUInt64

/-- What a run of the chain function leaves: the instance, the RPCs it sent, the
result it computed for the frame and the buffers it pushed. -/
structure Chained where
  element : Element
  calls : List Call
  result : GstLookoutVisionResult
  pushed : List GstBuffer

def gstLookoutVisionChain (env : Environment) (e : Element) (buf : GstBuffer) :
    Except Fault Chained :=
  match e.filter.modelComponent with
  | some component =>
      match e.filter.inferenceClient.detectAnomalies env e.kernel component buf.data
          (sizeT e.filter.width) (sizeT e.filter.height) with
      | .error fault => .error fault
      | .ok d =>
          .ok ⟨⟨{ e.filter with inferenceClient := d.client }, d.kernel⟩, [d.call], d.result,
            [(gstBufferAddLookoutVisionMeta buf d.result).1]⟩
  | none =>
      let result : GstLookoutVisionResult :=
        ⟨false, 0, .failed, "No value set for model-component"⟩
      .ok ⟨e, [], result, [(gstBufferAddLookoutVisionMeta buf result).1]⟩

def Chained.effects (c : Chained) : List Effect :=
  c.calls.map Effect.call ++ c.pushed.map Effect.push

/-! ## The machine -/

inductive Action
  | setProperty (assignment : Assignment)
  | sinkEvent (event : GstEvent)
  | chain (buffer : GstBuffer)
deriving DecidableEq, Repr

/-- One entry into the element, and the environment it meets. -/
structure Input where
  action : Action
  env : Environment

def elementStep (e : Element) (i : Input) : Except Fault (Element × List Effect) :=
  match i.action with
  | .setProperty assignment =>
      match gstLookoutVisionSetProperty i.env e.filter assignment with
      | .error fault => .error fault
      | .ok (filter, effects) => .ok ({ e with filter := filter }, effects)
  | .sinkEvent event =>
      .ok ({ e with filter := gstLookoutVisionSinkEvent e.filter event }, [])
  | .chain buf =>
      match gstLookoutVisionChain i.env e buf with
      | .error fault => .error fault
      | .ok c => .ok (c.element, c.effects)

/-- **The element as a machine.** -/
def element : Machine Element Input (List Effect) Fault := ⟨elementStep⟩

/-- The record of a run of the element. -/
abbrev History := List (Input × List Effect)

end LookoutVision
