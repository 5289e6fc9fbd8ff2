import LookoutVision.Agreement
import LookoutVision.ElementRuns
import LookoutVision.StatusObjects

/-!
# The element with its pointers

`Element` has the strings and the client of an instance by value.  In the process
they are objects the instance points to: `g_strdup` copies a string, `g_free` and
`delete` give an object back, and `set_property` frees the old string before it
copies the new one out of the value it was handed.  Here are the functions of
`gstlookoutvision.cc` as they allocate, read and free, statement by statement.

`process` is the machine of any number of instances in one process, created and
finalized in any order, and of the string values of an application that sets
their properties, reads them, and goes on using what it has read.  `application`
is what it all amounts to where strings are values and nothing is ever freed.
-/

namespace LookoutVision

/-- What the plugin allocates, type by type. -/
structure Memory where
  strings : OwnedHeap String
  clients : OwnedHeap LookoutVisionInferenceClient
  statuses : OwnedHeap ModelStatus
  results : OwnedHeap GstLookoutVisionResult
  anyCaps : OwnedHeap Unit

/-- A wrong access to the memory, or what ends the process without one. -/
inductive MemoryFault
  | heap (fault : OwnedHeap.Fault)
  | plugin (fault : Fault)
deriving DecidableEq, Repr

/-- The two properties that are strings. -/
inductive StringProperty
  | serverSocket
  | modelComponent
deriving DecidableEq, Repr

/-- The assignment of a string. -/
def StringProperty.assignment : StringProperty → Option String → Assignment
  | .serverSocket => .serverSocket
  | .modelComponent => .modelComponent

/-- The string read. -/
def StringProperty.get : StringProperty → GstLookoutVision → Option String
  | .serverSocket => GstLookoutVision.serverSocket
  | .modelComponent => GstLookoutVision.modelComponent

namespace Memory

def empty : Memory := ⟨.empty, .empty, .empty, .empty, .empty⟩

def heap {α : Type} : Except OwnedHeap.Fault α → Except MemoryFault α
  | .error fault => .error (.heap fault)
  | .ok a => .ok a

def plugin {α : Type} : Except Fault α → Except MemoryFault α
  | .error fault => .error (.plugin fault)
  | .ok a => .ok a

variable (m : Memory)

def gFree (p : Option Nat) : Except MemoryFault Memory := do
  let strings ← heap (m.strings.delete p)
  return { m with strings := strings }

def gStrdup (p : Option Nat) : Except MemoryFault (Memory × Option Nat) := do
  let (strings, copy) ← heap (m.strings.dup p)
  return ({ m with strings := strings }, copy)

/-- `g_strdup` of a literal, or of `NULL`. -/
def gStrdupLiteral (text : Option String) : Memory × Option Nat :=
  ({ m with strings := (m.strings.newOf text).1 }, (m.strings.newOf text).2)

/-- A `std::string` from a `const char*`. -/
def stdString : Option Nat → Except MemoryFault String
  | none => .error (.plugin .nullString)
  | some a => heap (m.strings.read (some a))

end Memory

namespace OnHeap
open Memory

/-- `GstLookoutVision`, with its pointers. -/
structure GstLookoutVision where
  sinkpad : SinkPad
  inferenceClient : Option Nat
  width : Int32
  height : Int32
  serverSocket : Option Nat
  modelComponent : Option Nat
  modelStatusTimeout : UInt32
deriving DecidableEq, Repr

/-- An instance in its surroundings. -/
structure Element where
  filter : GstLookoutVision
  kernel : Kernel
  memory : Memory

/-! ## Construction and finalization -/

/-- `gst_lookout_vision_init`. -/
def gstLookoutVisionInit (build : Build) (os : Posix.Outcomes) (k : Kernel) (m : Memory) :
    Except MemoryFault Element := do
  let m₁ := m.gStrdupLiteral (some defaultServerSocket)
  let serverSocket ← m₁.1.stdString m₁.2
  let (k', client) ← plugin (LookoutVisionInferenceClient.new build os k serverSocket)
  let clients := m₁.1.clients.new client
  return { filter :=
             { sinkpad := ⟨true⟩
               inferenceClient := some clients.2
               width := 0
               height := 0
               serverSocket := m₁.2
               modelComponent := none
               modelStatusTimeout := defaultModelStatusTimeout }
           kernel := k'
           memory := { m₁.1 with clients := clients.1 } }

/-- `delete filter->inference_client`: the destructor, then the object. -/
def deleteClient (e : Element) : Except MemoryFault Element :=
  match e.filter.inferenceClient with
  | none => .ok e
  | some a => do
      let client ← heap (e.memory.clients.read (some a))
      let clients ← heap (e.memory.clients.delete (some a))
      return { e with
        filter := { e.filter with inferenceClient := none }
        kernel := client.delete e.kernel
        memory := { e.memory with clients := clients } }

/-- `gst_lookout_vision_finalize`. -/
def gstLookoutVisionFinalize (e : Element) : Except MemoryFault Element := do
  let e₁ ← deleteClient e
  let m₂ ← e₁.memory.gFree e₁.filter.serverSocket
  let m₃ ← m₂.gFree e₁.filter.modelComponent
  return { e₁ with
    filter := { e₁.filter with serverSocket := none, modelComponent := none }
    memory := m₃ }

/-! ## The pad probe -/

/-- `pad_probe`.  The caps it creates are lost when `gst_event_parse_caps` assigns
the event's to the same pointer. -/
def padProbe (m : Memory) (filter : GstLookoutVision) :
    GstEvent → Memory × PadProbeReturn × GstLookoutVision
  | .other => (m, .ok, filter)
  | .caps caps =>
      let m' := { m with anyCaps := (m.anyCaps.new ()).1 }
      match caps.width, caps.height with
      | some width, some height => (m', .ok, { filter with width := width, height := height })
      | _, _ => (m', .remove, filter)

def gstLookoutVisionSinkEvent (e : Element) (event : GstEvent) : Element :=
  if e.filter.sinkpad.probe then
    match padProbe e.memory e.filter event with
    | (m, .ok, filter) => { e with filter := filter, memory := m }
    | (m, .remove, filter) => { e with filter := { filter with sinkpad := ⟨false⟩ }, memory := m }
  else e

/-! ## Properties -/

/-- What a `StartModel` does outwards, the caller's error message included. -/
def startEffects (client : LookoutVisionInferenceClient) (timeout : UInt32) (component : String)
    (start : LookoutVisionInferenceClient.Start) : List Effect :=
  start.calls.map Effect.call ++
    [.started client.stub.channel.target component timeout.toInt32.toInt start.status] ++
    if start.status = .successful then [] else [.elementError "Failed to start model"]

/-- `filter->inference_client->StartModel(..)`. -/
def startOn (env : Environment) (e : Element) (component : String) :
    Except MemoryFault (Element × OperationStatus × List Effect) := do
  let client ← heap (e.memory.clients.read e.filter.inferenceClient)
  let (statuses, start) ← heap (startModel env client component
    e.filter.modelStatusTimeout.toInt32.toInt e.memory.statuses)
  return ({ e with memory := { e.memory with statuses := statuses } }, start.status,
    startEffects client e.filter.modelStatusTimeout component start)

/-- `case PROP_SERVER_SOCKET`, up to `setServerSocket`, for the string
`g_value_get_string` returns. -/
def readdress (e : Element) (value : Option Nat) : Except MemoryFault Element := do
  let m₁ ← e.memory.gFree e.filter.serverSocket
  let (m₂, copy) ← m₁.gStrdup value
  let socket ← m₂.stdString copy
  let client ← heap (m₂.clients.read e.filter.inferenceClient)
  let clients ← heap (m₂.clients.write e.filter.inferenceClient (client.setServerSocket socket))
  return { e with
    filter := { e.filter with serverSocket := copy }
    memory := { m₂ with clients := clients } }

/-- The rest of it: the component the instance has is started. -/
def restart (env : Environment) (e : Element) : Except MemoryFault (Element × List Effect) :=
  match e.filter.modelComponent with
  | none => .ok (e, [])
  | some a => do
      let component ← e.memory.stdString (some a)
      let (e', _, effects) ← startOn env e component
      return (e', effects)

def setServerSocket (env : Environment) (e : Element) (value : Option Nat) :
    Except MemoryFault (Element × List Effect) := do
  let e' ← readdress e value
  restart env e'

/-- `case PROP_MODEL_COMPONENT`. -/
def setModelComponent (env : Environment) (e : Element) (value : Option Nat) :
    Except MemoryFault (Element × List Effect) := do
  let component ← e.memory.stdString value
  let (e₁, status, effects) ← startOn env e component
  if status = .successful then
    let m₂ ← e₁.memory.gFree e₁.filter.modelComponent
    let (m₃, copy) ← m₂.gStrdup value
    return ({ e₁ with filter := { e₁.filter with modelComponent := copy }, memory := m₃ }, effects)
  else return (e₁, effects)

/-- `gst_lookout_vision_set_property`, for a string value. -/
def gstLookoutVisionSetProperty (env : Environment) (e : Element) :
    StringProperty → Option Nat → Except MemoryFault (Element × List Effect)
  | .serverSocket => setServerSocket env e
  | .modelComponent => setModelComponent env e

/-- What `gst_lookout_vision_get_property` hands to `g_value_set_string`. -/
def gstLookoutVisionGetProperty (filter : GstLookoutVision) : StringProperty → Option Nat
  | .serverSocket => filter.serverSocket
  | .modelComponent => filter.modelComponent

/-! ## The chain function -/

/-- What the chain function calls `inference_result`, with the calls made for it:
an object from `DetectAnomalies`, or its own. -/
def inferenceResult (env : Environment) (e : Element) (buf : GstBuffer) :
    Except MemoryFault (Element × List Call × Nat) :=
  match e.filter.modelComponent with
  | none =>
      let created := e.memory.results.new
        ⟨false, 0, .failed, "No value set for model-component"⟩
      .ok ({ e with memory := { e.memory with results := created.1 } }, [], created.2)
  | some a => do
      let component ← e.memory.stdString (some a)
      let client ← heap (e.memory.clients.read e.filter.inferenceClient)
      let d ← plugin (client.detectAnomalies env e.kernel component buf.data
        (sizeT e.filter.width) (sizeT e.filter.height))
      let clients ← heap (e.memory.clients.write e.filter.inferenceClient d.client)
      let created := e.memory.results.new d.result
      return ({ e with
        kernel := d.kernel
        memory := { e.memory with clients := clients, results := created.1 } }, [d.call], created.2)

/-- `gst_lookout_vision_chain`: attach the result, delete it, push the buffer. -/
def gstLookoutVisionChain (env : Environment) (e : Element) (buf : GstBuffer) :
    Except MemoryFault (Element × List Effect) := do
  let (e₁, calls, result) ← inferenceResult env e buf
  let value ← heap (e₁.memory.results.read (some result))
  let results ← heap (e₁.memory.results.delete (some result))
  return ({ e₁ with memory := { e₁.memory with results := results } },
    calls.map Effect.call ++ [.push (gstBufferAddLookoutVisionMeta buf value).1])

end OnHeap

/-! ## The process -/

/-- Instances, numbered as they are created, and the values of the application, by
the strings they hold. -/
structure Process where
  memory : Memory
  kernel : Kernel
  filters : Nat → Option OnHeap.GstLookoutVision
  filterCount : Nat
  values : Nat → Option Nat

/-- What the application does next, and what reaches its instances. -/
inductive ProcessAction
  | create
  | setValue (value : Nat) (text : Option String)
  | getProperty (filter : Nat) (property : StringProperty) (value : Nat)
  | setProperty (filter : Nat) (property : StringProperty) (value : Nat)
  | setTimeout (filter : Nat) (timeout : UInt32)
  | sinkEvent (filter : Nat) (event : GstEvent)
  | chain (filter : Nat) (buffer : GstBuffer)
  | finalize (filter : Nat)
deriving DecidableEq, Repr

structure ProcessInput where
  action : ProcessAction
  env : Environment

namespace Process

def start (k : Kernel) : Process := ⟨.empty, k, fun _ => none, 0, fun _ => none⟩

variable (p : Process)

/-- An instance in this process. -/
def element (filter : OnHeap.GstLookoutVision) : OnHeap.Element := ⟨filter, p.kernel, p.memory⟩

/-- The process after an entry into an instance, or its end. -/
def put (i : Nat) (filter : Option OnHeap.GstLookoutVision) (e : OnHeap.Element) : Process :=
  { p with
    memory := e.memory
    kernel := e.kernel
    filters := Function.update p.filters i filter }

/-- The process after an entry that came back. -/
def entered (i : Nat) (r : Except MemoryFault (OnHeap.Element × List Effect)) :
    Except MemoryFault (Process × List Effect) := do
  let (e, effects) ← r
  return (p.put i (some e.filter) e, effects)

/-- `g_value_set_string`: the copy first, then the old string is freed. -/
def gValueSetString (value : Nat) (copied : Memory × Option Nat) :
    Except MemoryFault Process := do
  let m ← copied.1.gFree (p.values value)
  return { p with memory := m, values := Function.update p.values value copied.2 }

/-- One action.  An instance that is not there is not acted on. -/
def step (build : Build) (i : ProcessInput) : Except MemoryFault (Process × List Effect) :=
  match i.action with
  | .create => do
      let e ← OnHeap.gstLookoutVisionInit build i.env.os p.kernel p.memory
      return ({ p.put p.filterCount (some e.filter) e with filterCount := p.filterCount + 1 }, [])
  | .setValue value text => do
      let p' ← p.gValueSetString value (p.memory.gStrdupLiteral text)
      return (p', [])
  | .getProperty f property value =>
      match p.filters f with
      | none => .ok (p, [])
      | some filter => do
          let copied ← p.memory.gStrdup (OnHeap.gstLookoutVisionGetProperty filter property)
          let p' ← p.gValueSetString value copied
          return (p', [])
  | .setProperty f property value =>
      match p.filters f with
      | none => .ok (p, [])
      | some filter => p.entered f (OnHeap.gstLookoutVisionSetProperty i.env (p.element filter)
          property (p.values value))
  | .setTimeout f timeout =>
      match p.filters f with
      | none => .ok (p, [])
      | some filter =>
          p.entered f (.ok (p.element { filter with modelStatusTimeout := timeout }, []))
  | .sinkEvent f event =>
      match p.filters f with
      | none => .ok (p, [])
      | some filter =>
          p.entered f (.ok (OnHeap.gstLookoutVisionSinkEvent (p.element filter) event, []))
  | .chain f buf =>
      match p.filters f with
      | none => .ok (p, [])
      | some filter => p.entered f (OnHeap.gstLookoutVisionChain i.env (p.element filter) buf)
  | .finalize f =>
      match p.filters f with
      | none => .ok (p, [])
      | some filter => do
          let e ← OnHeap.gstLookoutVisionFinalize (p.element filter)
          return (p.put f none e, [])

end Process

/-- **The process as a machine.** -/
def process (build : Build) : Machine Process ProcessInput (List Effect) MemoryFault :=
  ⟨fun p i => p.step build i⟩

/-! ## What it amounts to -/

/-- Instances and values without pointers; `probed` counts the caps events that
found a probe. -/
structure Application where
  kernel : Kernel
  filters : Nat → Option GstLookoutVision
  filterCount : Nat
  values : Nat → Option String
  probed : Nat

namespace Application

def start (k : Kernel) : Application := ⟨k, fun _ => none, 0, fun _ => none, 0⟩

variable (a : Application)

def setFilter (i : Nat) (filter : Option GstLookoutVision) (k : Kernel) : Application :=
  { a with kernel := k, filters := Function.update a.filters i filter }

/-- An entry into an instance, as the element takes it. -/
def entered (i : Nat) (filter : GstLookoutVision) (input : Input) :
    Except Fault (Application × List Effect) :=
  match elementStep ⟨filter, a.kernel⟩ input with
  | .error fault => .error fault
  | .ok (e, effects) => .ok (a.setFilter i (some e.filter) e.kernel, effects)

/-- The caps events a probe sees in one event. -/
def seen (filter : GstLookoutVision) : GstEvent → Nat
  | .caps _ => if filter.sinkpad.probe then 1 else 0
  | .other => 0

def step (build : Build) (i : ProcessInput) : Except Fault (Application × List Effect) :=
  match i.action with
  | .create =>
      match gstLookoutVisionInit build i.env.os a.kernel with
      | .error fault => .error fault
      | .ok e => .ok ({ a.setFilter a.filterCount (some e.filter) e.kernel with
          filterCount := a.filterCount + 1 }, [])
  | .setValue value text => .ok ({ a with values := Function.update a.values value text }, [])
  | .getProperty f property value =>
      match a.filters f with
      | none => .ok (a, [])
      | some filter =>
          .ok ({ a with values := Function.update a.values value (property.get filter) }, [])
  | .setProperty f property value =>
      match a.filters f with
      | none => .ok (a, [])
      | some filter =>
          a.entered f filter ⟨.setProperty (property.assignment (a.values value)), i.env⟩
  | .setTimeout f timeout =>
      match a.filters f with
      | none => .ok (a, [])
      | some filter => a.entered f filter ⟨.setProperty (.modelStatusTimeout timeout), i.env⟩
  | .sinkEvent f event =>
      match a.filters f with
      | none => .ok (a, [])
      | some filter =>
          { a with probed := a.probed + seen filter event }.entered f filter
            ⟨.sinkEvent event, i.env⟩
  | .chain f buf =>
      match a.filters f with
      | none => .ok (a, [])
      | some filter => a.entered f filter ⟨.chain buf, i.env⟩
  | .finalize f =>
      match a.filters f with
      | none => .ok (a, [])
      | some filter => .ok (a.setFilter f none (filter.inferenceClient.delete a.kernel), [])

end Application

/-- A new instance listens for caps, has no component, and its client the default
address. -/
theorem init_fresh {build : Build} {os : Posix.Outcomes} {k : Kernel} {e : Element}
    (hinit : gstLookoutVisionInit build os k = .ok e) :
    e.filter.sinkpad.probe = true ∧ e.filter.serverSocket = some defaultServerSocket ∧
      e.filter.modelComponent = none ∧
      e.filter.inferenceClient.stub = ⟨⟨defaultServerSocket⟩⟩ := by
  unfold gstLookoutVisionInit at hinit
  split at hinit
  · cases hinit
  · rename_i k' client hnew
    obtain rfl := Except.ok.inj hinit
    refine ⟨rfl, rfl, rfl, ?_⟩
    unfold LookoutVisionInferenceClient.new at hnew
    split at hnew
    · obtain ⟨-, rfl⟩ := Prod.mk.inj (Except.ok.inj hnew)
      rfl
    · split at hnew
      · cases hnew
      · obtain ⟨-, rfl⟩ := Prod.mk.inj (Except.ok.inj hnew)
        rfl

/-- **The application as a machine.** -/
def application (build : Build) : Machine Application ProcessInput (List Effect) Fault :=
  ⟨fun a i => a.step build i⟩

end LookoutVision
