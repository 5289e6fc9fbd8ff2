import LookoutVision.ElementMemory
import LookoutVision.MqttPublisher

/-!
# What a publisher allocates

An instance of `mqttpublisher` points to its topic, which `set_property` frees and copies
anew and `finalize` frees, and to a `GreengrassClient`, which holds five objects of the SDK.
`GreengrassClient` has no destructor and `finalize` does not delete it.

`publisherProcess` is any number of instances, created and finalized in any order, and the
values an application sets and reads their topic with.  No string is read after it was
freed or freed twice, along any run; the topics of finalized instances are gone; and of
every instance ever created the client and its five objects are still there
(`clients_outlive_publishers`).
-/

namespace LookoutVision

/-! ## The Greengrass client -/

/-- What a client creates. -/
inductive SdkObject
  | eventLoopGroup
  | hostResolver
  | clientBootstrap
  | lifecycleHandler
  | ipcClient
deriving DecidableEq, Repr

/-- `GreengrassClient`, by the addresses of its members. -/
structure GreengrassClient where
  eventLoopGroup : Nat
  socketResolver : Nat
  bootstrap : Nat
  ipcLifecycleHandler : Nat
  ipcClient : Nat
deriving DecidableEq, Repr

/-- The constructor; `connected` is how `Connect` ends. -/
def GreengrassClient.new (connected : Bool) (sdk : OwnedHeap SdkObject) :
    Except Fault (OwnedHeap SdkObject × GreengrassClient) :=
  let eventLoopGroup := sdk.new .eventLoopGroup
  let socketResolver := eventLoopGroup.1.new .hostResolver
  let bootstrap := socketResolver.1.new .clientBootstrap
  let ipcLifecycleHandler := bootstrap.1.new .lifecycleHandler
  let ipcClient := ipcLifecycleHandler.1.new .ipcClient
  if connected then
    .ok (ipcClient.1, ⟨eventLoopGroup.2, socketResolver.2, bootstrap.2, ipcLifecycleHandler.2,
      ipcClient.2⟩)
  else .error (.uncaught "greengrass IPC connection failed")

/-! ## The process -/

/-- `GstMqttPublisher`, with its pointers. -/
structure OnHeap.GstMqttPublisher where
  publishTopic : Option Nat
  greengrassClient : Nat
deriving DecidableEq, Repr

/-- Instances, numbered as they are created, and the application's values, by the strings
they hold. -/
structure PublisherProcess where
  strings : OwnedHeap String
  clients : OwnedHeap GreengrassClient
  sdk : OwnedHeap SdkObject
  filters : Nat → Option OnHeap.GstMqttPublisher
  filterCount : Nat
  values : Nat → Option Nat

/-- What the application does next, and the frames that reach its instances. -/
inductive PublisherAction
  | create (connected : Bool)
  | setValue (value : Nat) (text : Option String)
  | getProperty (filter value : Nat)
  | setProperty (filter value : Nat)
  | chain (filter : Nat) (registered : Bool) (outcome : PublishOutcome) (buffer : GstBuffer)
  | finalize (filter : Nat)
deriving DecidableEq, Repr

/-- Whether an action creates an instance. -/
def PublisherAction.creates : PublisherAction → Bool
  | .create _ => true
  | _ => false

namespace PublisherProcess
open Memory (heap plugin)

def start : PublisherProcess := ⟨.empty, .empty, .empty, fun _ => none, 0, fun _ => none⟩

variable (p : PublisherProcess)

/-- `gst_mqtt_publisher_init`. -/
def gstMqttPublisherInit (connected : Bool) : Except MemoryFault PublisherProcess := do
  let publishTopic := p.strings.new "lookoutvision/anomalydetection/result"
  let (sdk, client) ← plugin (GreengrassClient.new connected p.sdk)
  let greengrassClient := p.clients.new client
  return { p with
    strings := publishTopic.1
    clients := greengrassClient.1
    sdk := sdk
    filters := Function.update p.filters p.filterCount
      (some ⟨some publishTopic.2, greengrassClient.2⟩)
    filterCount := p.filterCount + 1 }

/-- `gst_mqtt_publisher_set_property`. -/
def gstMqttPublisherSetProperty (f : Nat) (filter : OnHeap.GstMqttPublisher)
    (value : Option Nat) : Except MemoryFault PublisherProcess := do
  let strings ← heap (p.strings.delete filter.publishTopic)
  let (strings, copy) ← heap (strings.dup value)
  return { p with
    strings := strings
    filters := Function.update p.filters f (some { filter with publishTopic := copy }) }

/-- `g_value_set_string`: the copy first, then the old string is freed. -/
def gValueSetString (value : Nat) (copied : OwnedHeap String × Option Nat) :
    Except MemoryFault PublisherProcess := do
  let strings ← heap (copied.1.delete (p.values value))
  return { p with strings := strings, values := Function.update p.values value copied.2 }

/-- `gst_mqtt_publisher_finalize`. -/
def gstMqttPublisherFinalize (f : Nat) (filter : OnHeap.GstMqttPublisher) :
    Except MemoryFault PublisherProcess := do
  let strings ← heap (p.strings.delete filter.publishTopic)
  return { p with strings := strings, filters := Function.update p.filters f none }

/-- `PublishToIoTMQTT(filter->publish_topic, ..)`: the topic is copied, and the client and
its connection are used. -/
def publish (outcome : PublishOutcome) (filter : OnHeap.GstMqttPublisher) (payload : String) :
    Except MemoryFault (PublishToIoTCoreRequest × OperationStatus) :=
  match filter.publishTopic with
  | none => .error (.plugin .nullString)
  | some a => do
      let topic ← heap (p.strings.read (some a))
      let client ← heap (p.clients.read (some filter.greengrassClient))
      let _ ← heap (p.sdk.read (some client.ipcClient))
      plugin (publishToIoTMQTT outcome topic payload)

/-- `g_print("Published to MQTT topic %s\n", filter->publish_topic)`: the topic is read once
more; `%s` of `NULL` is a text of its own. -/
def printTopic (filter : OnHeap.GstMqttPublisher) : Except MemoryFault Unit :=
  match filter.publishTopic with
  | none => .ok ()
  | some a => do
      let _ ← heap (p.strings.read (some a))
      return ()

/-- `gst_mqtt_publisher_chain`. -/
def gstMqttPublisherChain (outcome : PublishOutcome) (registered : Bool)
    (filter : OnHeap.GstMqttPublisher) (buf : GstBuffer) : Except MemoryFault Published :=
  match gstBufferGetLookoutVisionMeta registered buf with
  | .error fault => .error (.plugin fault)
  | .ok none => .ok ⟨[], [buf]⟩
  | .ok (some ⟨none⟩) => .ok ⟨[], [buf]⟩
  | .ok (some ⟨some result⟩) =>
      if result.resultStatus = .successful then do
        let (request, _) ← p.publish outcome filter
          (resultMessage result.isAnomalous result.confidence)
        p.printTopic filter
        return ⟨[request], [buf]⟩
      else .ok ⟨[], [buf]⟩

/-- One action, with what it publishes and pushes.  An instance that is not there is not
acted on. -/
def step : PublisherAction → Except MemoryFault (PublisherProcess × Published)
  | .create connected => do
      let p' ← p.gstMqttPublisherInit connected
      return (p', ⟨[], []⟩)
  | .setValue value text => do
      let p' ← p.gValueSetString value (p.strings.newOf text)
      return (p', ⟨[], []⟩)
  | .getProperty f value =>
      match p.filters f with
      | none => .ok (p, ⟨[], []⟩)
      | some filter => do
          let copied ← heap (p.strings.dup filter.publishTopic)
          let p' ← p.gValueSetString value copied
          return (p', ⟨[], []⟩)
  | .setProperty f value =>
      match p.filters f with
      | none => .ok (p, ⟨[], []⟩)
      | some filter => do
          let p' ← p.gstMqttPublisherSetProperty f filter (p.values value)
          return (p', ⟨[], []⟩)
  | .chain f registered outcome buf =>
      match p.filters f with
      | none => .ok (p, ⟨[], []⟩)
      | some filter => do
          let published ← p.gstMqttPublisherChain outcome registered filter buf
          return (p, published)
  | .finalize f =>
      match p.filters f with
      | none => .ok (p, ⟨[], []⟩)
      | some filter => do
          let p' ← p.gstMqttPublisherFinalize f filter
          return (p', ⟨[], []⟩)

end PublisherProcess

/-- **The process as a machine.** -/
def publisherProcess : Machine PublisherProcess PublisherAction Published MemoryFault :=
  ⟨PublisherProcess.step⟩

/-! ## Who holds what -/

/-- What may hold a topic. -/
inductive TopicHolder
  | topic (filter : Nat)
  | value (value : Nat)
deriving DecidableEq, Repr

namespace PublisherProcess

def holds (p : PublisherProcess) : TopicHolder → Option Nat
  | .topic f => (p.filters f).bind fun filter => filter.publishTopic
  | .value v => p.values v

/-- **What is there**: every string with one holder, and the client and the five objects
of every instance so far. -/
structure Owned (p : PublisherProcess) : Prop where
  strings : p.strings.Partitioned p.holds
  clients : ∀ a, p.clients.object a ≠ none ↔ a < p.filterCount
  clientNext : p.clients.next = p.filterCount
  sdk : ∀ a, p.sdk.object a ≠ none ↔ a < 5 * p.filterCount
  sdkNext : p.sdk.next = 5 * p.filterCount
  client : ∀ f filter, p.filters f = some filter → filter.greengrassClient < p.filterCount
  ipcClient : ∀ a client, p.clients.object a = some client →
    client.ipcClient < 5 * p.filterCount
  fresh : ∀ f, p.filterCount ≤ f → p.filters f = none

/-- A computation that ends in a good state, or with a fault that is none of the heap's. -/
def Fares {α : Type} (Good : α → Prop) : Except MemoryFault α → Prop
  | .ok a => Good a
  | .error fault => ∀ wrong, fault ≠ .heap wrong

theorem Fares.plugin {α : Type} {Good : α → Prop} (fault : Fault) :
    Fares Good (.error (.plugin fault)) := by
  intro wrong h
  cases h

theorem Fares.bind {α β : Type} {Good : α → Prop} {Good' : β → Prop} {x : Except MemoryFault α}
    {g : α → Except MemoryFault β} (h : Fares Good x) (hg : ∀ a, Good a → Fares Good' (g a)) :
    Fares Good' (x >>= g) := by
  cases x with
  | error fault => exact h
  | ok a => exact hg a h

section
variable {p : PublisherProcess} {f v : Nat} {filter : OnHeap.GstMqttPublisher}
  {strings : OwnedHeap String} {q : Option Nat}

theorem start_owned : start.Owned where
  strings := by
    have hnone : start.holds = fun _ => none := by
      funext holder
      cases holder <;> rfl
    rw [hnone]
    exact .empty
  clients := fun a => ⟨fun h => absurd rfl h, fun h => absurd h (Nat.not_lt_zero a)⟩
  clientNext := rfl
  sdk := fun a => ⟨fun h => absurd rfl h, fun h => absurd h (Nat.not_lt_zero a)⟩
  sdkNext := rfl
  client := by
    intro f filter h
    cases h
  ipcClient := by
    intro a client h
    cases h
  fresh := fun _ _ => rfl

theorem holds_setTopic (p : PublisherProcess) (strings : OwnedHeap String) (f : Nat)
    (x : Option OnHeap.GstMqttPublisher) :
    holds { p with strings := strings, filters := Function.update p.filters f x } =
      Function.update p.holds (.topic f) (x.bind fun filter => filter.publishTopic) := by
  funext holder
  cases holder with
  | topic g =>
    by_cases hg : g = f
    · rw [hg, Function.update_self]
      simp only [holds, Function.update_self]
    · rw [Function.update_of_ne (by simp [hg])]
      simp only [holds, Function.update_of_ne hg]
  | value v => exact (Function.update_of_ne (by simp) ..).symm

theorem holds_setValue (p : PublisherProcess) (strings : OwnedHeap String) (v : Nat)
    (q : Option Nat) :
    holds { p with strings := strings, values := Function.update p.values v q } =
      Function.update p.holds (.value v) q := by
  funext holder
  cases holder with
  | topic g => exact (Function.update_of_ne (by simp) ..).symm
  | value w =>
    by_cases hw : w = v
    · rw [hw, Function.update_self]
      exact Function.update_self ..
    · rw [Function.update_of_ne (by simp [hw])]
      exact Function.update_of_ne hw ..

/-- An instance that is given another topic, or finalized, with the strings to match. -/
theorem Owned.setTopic (ho : p.Owned) (hf : p.filters f = some filter)
    (x : Option OnHeap.GstMqttPublisher)
    (hx : ∀ filter', x = some filter' → filter'.greengrassClient = filter.greengrassClient)
    (hstrings : strings.Partitioned
      (Function.update p.holds (.topic f) (x.bind fun filter => filter.publishTopic))) :
    Owned { p with strings := strings, filters := Function.update p.filters f x } where
  strings := by
    rw [holds_setTopic]
    exact hstrings
  clients := ho.clients
  clientNext := ho.clientNext
  sdk := ho.sdk
  sdkNext := ho.sdkNext
  client := by
    intro g filter' hg
    rcases Table.update_eq_some hg with ⟨-, hnew⟩ | ⟨-, hold⟩
    · rw [hx filter' hnew]
      exact ho.client f filter hf
    · exact ho.client g filter' hold
  ipcClient := ho.ipcClient
  fresh := by
    intro g hg
    have hne : g ≠ f := by
      rintro rfl
      rw [ho.fresh g hg] at hf
      cases hf
    show Function.update p.filters f x g = none
    rw [Function.update_of_ne hne]
    exact ho.fresh g hg

theorem Owned.setValue (ho : p.Owned)
    (hstrings : strings.Partitioned (Function.update p.holds (.value v) q)) :
    Owned { p with strings := strings, values := Function.update p.values v q } where
  strings := by
    rw [holds_setValue]
    exact hstrings
  clients := ho.clients
  clientNext := ho.clientNext
  sdk := ho.sdk
  sdkNext := ho.sdkNext
  client := ho.client
  ipcClient := ho.ipcClient
  fresh := ho.fresh

/-! ## What each function does to it -/

/-- What a heap holds after another object. -/
theorem there_new {Object : Type} {heap : OwnedHeap Object} {n : Nat}
    (hthere : ∀ a, heap.object a ≠ none ↔ a < n) (hnext : heap.next = n) (x : Object) :
    (∀ a, (heap.new x).1.object a ≠ none ↔ a < n + 1) ∧ (heap.new x).1.next = n + 1 ∧
      (heap.new x).2 = n := by
  refine ⟨fun a => ?_, congrArg (· + 1) hnext, hnext⟩
  by_cases ha : a = heap.next
  · rw [ha, OwnedHeap.object_new_self]
    exact ⟨fun _ => by omega, fun _ => Option.some_ne_none x⟩
  · rw [OwnedHeap.object_new_of_ne ha, hthere]
    omega

/-- **A client that connects** leaves five objects, its connection the last. -/
theorem greengrassClient_new_ok {sdk : OwnedHeap SdkObject} {n : Nat}
    (hthere : ∀ a, sdk.object a ≠ none ↔ a < n) (hnext : sdk.next = n) :
    ∃ sdk' client, GreengrassClient.new true sdk = .ok (sdk', client) ∧
      (∀ a, sdk'.object a ≠ none ↔ a < n + 5) ∧ sdk'.next = n + 5 ∧ client.ipcClient = n + 4 := by
  obtain ⟨hthere₁, hnext₁, -⟩ := there_new hthere hnext .eventLoopGroup
  obtain ⟨hthere₂, hnext₂, -⟩ := there_new hthere₁ hnext₁ .hostResolver
  obtain ⟨hthere₃, hnext₃, -⟩ := there_new hthere₂ hnext₂ .clientBootstrap
  obtain ⟨hthere₄, hnext₄, -⟩ := there_new hthere₃ hnext₃ .lifecycleHandler
  obtain ⟨hthere₅, hnext₅, hlast⟩ := there_new hthere₄ hnext₄ .ipcClient
  exact ⟨_, _, rfl, hthere₅, hnext₅, hlast⟩

theorem fares_create (ho : p.Owned) (connected : Bool) :
    Fares (fun p' : PublisherProcess => p'.Owned ∧ p'.filterCount = p.filterCount + 1)
      (p.gstMqttPublisherInit connected) := by
  cases connected with
  | false => exact .plugin _
  | true =>
    obtain ⟨sdk, client, hnew, hsdk, hsdkNext, hipc⟩ := greengrassClient_new_ok ho.sdk ho.sdkNext
    obtain ⟨hclients, hclientNext, haddress⟩ := there_new ho.clients ho.clientNext client
    have hunheld : p.holds (.topic p.filterCount) = none := by
      simp only [holds, ho.fresh p.filterCount (Nat.le_refl _), Option.bind_none]
    simp only [gstMqttPublisherInit, hnew, Memory.plugin, bind, Except.bind]
    refine ⟨⟨?_, hclients, hclientNext, ?_, ?_, fun g filter hg => ?_, fun a client' ha => ?_,
      fun g hg => ?_⟩, rfl⟩
    · have hholds := holds_setTopic p (p.strings.new "lookoutvision/anomalydetection/result").1
        p.filterCount (some ⟨some p.strings.next, (p.clients.new client).2⟩)
      have hstrings := ho.strings.new hunheld "lookoutvision/anomalydetection/result"
      rw [show Function.update p.holds (.topic p.filterCount) (some p.strings.next) = _ from
        hholds.symm] at hstrings
      exact hstrings
    · intro a
      rw [hsdk]
      show a < _ ↔ a < 5 * (p.filterCount + 1)
      omega
    · show sdk.next = 5 * (p.filterCount + 1)
      omega
    · show filter.greengrassClient < p.filterCount + 1
      rcases Table.update_eq_some hg with ⟨-, hnew'⟩ | ⟨-, hold⟩
      · obtain rfl := Option.some.inj hnew'
        show (p.clients.new client).2 < _
        omega
      · have hlt := ho.client g filter hold
        omega
    · show client'.ipcClient < 5 * (p.filterCount + 1)
      by_cases hself : a = p.clients.next
      · have hobject : (p.clients.new client).1.object a = some client' := ha
        rw [hself, OwnedHeap.object_new_self] at hobject
        obtain rfl := Option.some.inj hobject
        omega
      · have hobject : (p.clients.new client).1.object a = some client' := ha
        rw [OwnedHeap.object_new_of_ne hself] at hobject
        have hlt := ho.ipcClient a client' hobject
        omega
    · have hne : g ≠ p.filterCount := Nat.ne_of_gt hg
      show Function.update p.filters p.filterCount _ g = none
      rw [Function.update_of_ne hne]
      exact ho.fresh g (Nat.le_of_lt hg)

theorem setProperty_ok (ho : p.Owned) (hf : p.filters f = some filter) (v : Nat) :
    ∃ p', p.gstMqttPublisherSetProperty f filter (p.values v) = .ok p' ∧ p'.Owned ∧
      p'.filterCount = p.filterCount := by
  have hpointer : p.holds (.topic f) = filter.publishTopic := by
    simp only [holds, hf, Option.bind_some]
  have hvalue : p.holds (.value v) = p.values v := rfl
  have hdistinct : TopicHolder.value v ≠ .topic f := by simp
  obtain ⟨strings₁, strings₂, q, hdelete, hdup, hstrings, -⟩ := ho.strings.delete_dup_ok hdistinct
  rw [hpointer] at hdelete
  rw [hvalue] at hdup
  refine ⟨_, ?_, ho.setTopic hf (some { filter with publishTopic := q }) ?_ hstrings, rfl⟩
  · simp only [gstMqttPublisherSetProperty, hdelete, hdup, Memory.heap, bind, Except.bind]
    rfl
  · intro filter' hsome
    rw [← Option.some.inj hsome]

theorem setValue_ok (ho : p.Owned) (v : Nat) (text : Option String) :
    ∃ p', p.gValueSetString v (p.strings.newOf text) = .ok p' ∧ p'.Owned ∧
      p'.filterCount = p.filterCount := by
  obtain ⟨strings, hdelete, hstrings, -⟩ := ho.strings.newOf_delete_ok (.value v) text
  have hdelete' : (p.strings.newOf text).1.delete (p.values v) = .ok strings := hdelete
  refine ⟨_, ?_, ho.setValue hstrings, rfl⟩
  simp only [gValueSetString, hdelete', Memory.heap, bind, Except.bind]
  rfl

theorem finalize_ok (ho : p.Owned) (hf : p.filters f = some filter) :
    ∃ p', p.gstMqttPublisherFinalize f filter = .ok p' ∧ p'.Owned ∧
      p'.filterCount = p.filterCount := by
  have hpointer : p.holds (.topic f) = filter.publishTopic := by
    simp only [holds, hf, Option.bind_some]
  obtain ⟨strings, hdelete, hstrings, -⟩ := ho.strings.delete_ok (.topic f)
  rw [hpointer] at hdelete
  refine ⟨_, ?_, ho.setTopic hf none (fun _ h => (by cases h)) hstrings, rfl⟩
  simp only [gstMqttPublisherFinalize, hdelete, Memory.heap, bind, Except.bind]
  rfl

/-- The topic, the client and its connection are there when a frame is published. -/
theorem fares_publish (ho : p.Owned) (hf : p.filters f = some filter) (outcome : PublishOutcome)
    (payload : String) : Fares (fun _ => True) (p.publish outcome filter payload) := by
  have hpointer : p.holds (.topic f) = filter.publishTopic := by
    simp only [holds, hf, Option.bind_some]
  unfold publish
  cases htopic : filter.publishTopic with
  | none => exact .plugin _
  | some a =>
    obtain ⟨topic, hobject⟩ := ho.strings.object_of_holds (hpointer.trans htopic)
    obtain ⟨client, hclient⟩ := Option.ne_none_iff_exists'.mp
      ((ho.clients filter.greengrassClient).mpr (ho.client f filter hf))
    obtain ⟨connection, hconnection⟩ := Option.ne_none_iff_exists'.mp
      ((ho.sdk client.ipcClient).mpr (ho.ipcClient _ client hclient))
    simp only [Memory.heap, OwnedHeap.read_of_object hobject, OwnedHeap.read_of_object hclient,
      OwnedHeap.read_of_object hconnection, Bind.bind, Except.bind]
    cases publishToIoTMQTT outcome topic payload with
    | error fault => exact .plugin _
    | ok r => exact trivial

/-- It is still there when it is printed. -/
theorem fares_printTopic (ho : p.Owned) (hf : p.filters f = some filter) :
    Fares (fun _ => True) (p.printTopic filter) := by
  have hpointer : p.holds (.topic f) = filter.publishTopic := by
    simp only [holds, hf, Option.bind_some]
  unfold printTopic
  cases htopic : filter.publishTopic with
  | none => exact trivial
  | some a =>
    obtain ⟨topic, hobject⟩ := ho.strings.object_of_holds (hpointer.trans htopic)
    simp only [Memory.heap, OwnedHeap.read_of_object hobject, Bind.bind, Except.bind]
    exact trivial

theorem fares_chain (ho : p.Owned) (hf : p.filters f = some filter) (outcome : PublishOutcome)
    (registered : Bool) (buf : GstBuffer) :
    Fares (fun _ => True) (p.gstMqttPublisherChain outcome registered filter buf) := by
  unfold gstMqttPublisherChain
  split
  · exact .plugin _
  · exact trivial
  · exact trivial
  · rename_i result hread
    split
    · exact (fares_publish ho hf outcome _).bind fun _ _ =>
        (fares_printTopic ho hf).bind fun _ _ => trivial
    · exact trivial

/-! ## Actions and runs -/

/-- **One action.** -/
theorem fares_step (ho : p.Owned) (action : PublisherAction) :
    Fares (fun r : PublisherProcess × Published =>
      r.1.Owned ∧ r.1.filterCount = p.filterCount + action.creates.toNat)
      (p.step action) := by
  cases action with
  | create connected => exact (fares_create ho connected).bind fun _ h => h
  | setValue v text =>
    obtain ⟨p', hset, hkept⟩ := setValue_ok ho v text
    simp only [step, hset]
    exact hkept
  | getProperty f v =>
    simp only [step]
    split
    · exact ⟨ho, rfl⟩
    · rename_i filter hf
      have hpointer : p.holds (.topic f) = filter.publishTopic := by
        simp only [holds, hf, Option.bind_some]
      have hdup := ho.strings.dup_ok (.topic f)
      rw [hpointer] at hdup
      obtain ⟨p', hset, hkept⟩ := setValue_ok ho v (p.strings.contents p.holds (.topic f))
      simp only [hdup, Memory.heap, Bind.bind, Except.bind, hset]
      exact hkept
  | setProperty f v =>
    simp only [step]
    split
    · exact ⟨ho, rfl⟩
    · rename_i filter hf
      obtain ⟨p', hset, hkept⟩ := setProperty_ok ho hf v
      simp only [hset, Bind.bind, Except.bind]
      exact hkept
  | chain f registered outcome buf =>
    simp only [step]
    split
    · exact ⟨ho, rfl⟩
    · rename_i filter hf
      exact (fares_chain ho hf outcome registered buf).bind fun _ _ => ⟨ho, rfl⟩
  | finalize f =>
    simp only [step]
    split
    · exact ⟨ho, rfl⟩
    · rename_i filter hf
      obtain ⟨p', hset, hkept⟩ := finalize_ok ho hf
      simp only [hset, Bind.bind, Except.bind]
      exact hkept

end

end PublisherProcess

/-- How many instances were created. -/
def created (is : List PublisherAction) : Nat := is.countP PublisherAction.creates

/-- What a run leaves is accounted for, and it ends by no fault of the heap. -/
theorem run_fares (is : List PublisherAction) :
    PublisherProcess.Fares (fun r => r.1.Owned ∧ r.1.filterCount = created is)
      (publisherProcess.run .start is) := by
  induction is using List.reverseRecOn with
  | nil => exact ⟨PublisherProcess.start_owned, rfl⟩
  | append_singleton is i ih =>
    have hlast : publisherProcess.run .start (is ++ [i]) =
        (publisherProcess.run .start is >>= fun r =>
          r.1.step i >>= fun r' => .ok (r'.1, r.2 ++ [(i, r'.2)])) := by
      rw [Machine.run_snoc]
      cases publisherProcess.run .start is with
      | error fault => rfl
      | ok r =>
        obtain ⟨p, h⟩ := r
        simp only [Machine.advance, publisherProcess, Bind.bind, Except.bind]
        cases p.step i <;> rfl
    rw [hlast]
    refine ih.bind fun r hr => (PublisherProcess.fares_step hr.1 i).bind fun r' hr' => ?_
    refine ⟨hr'.1, hr'.2.trans ?_⟩
    rw [hr.2, created, created, List.countP_append, List.countP_singleton]
    cases i.creates <;> rfl

/-- **Clients outlive their publishers.**  Along every run, no string, client or object of
the SDK is used after it is gone and none is freed twice; each string that is left is the
topic of one living instance or one value of the application; and of every instance
created, living or finalized, the client and its five objects are there. -/
theorem clients_outlive_publishers (is : List PublisherAction) :
    (∀ fault, publisherProcess.run .start is ≠ .error (.heap fault)) ∧
      ∀ p h, publisherProcess.run .start is = .ok (p, h) →
        p.strings.Partitioned p.holds ∧ (∀ a, p.clients.object a ≠ none ↔ a < created is) ∧
          ∀ a, p.sdk.object a ≠ none ↔ a < 5 * created is := by
  have hfares := run_fares is
  refine ⟨fun fault hrun => ?_, fun p h hrun => ?_⟩
  · rw [hrun] at hfares
    exact hfares fault rfl
  · rw [hrun] at hfares
    obtain ⟨ho, hcount⟩ := hfares
    rw [← hcount]
    exact ⟨ho.strings, ho.clients, ho.sdk⟩

end LookoutVision
