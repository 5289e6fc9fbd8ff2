import LookoutVision.SegmentName

/-!
# Frames of different clients in one segment

A `DetectAnomalies` of the shared-memory build takes three steps that other
clients' steps can come between: the frame is copied into the segment, the
request is sent, the agent reads the handle's range.  `traffic` interleaves the
calls of all clients of a device, one call at a time for each client.

Every client writes at the beginning of the same object.  A frame not yet read
survives another client's write exactly when one of the two frames begins the
other and, if it is the written one that is shorter, the write does not cut the
object to its own length.  A client on whose object another one's growth left fewer
bytes than its `shm_size` has room only for what still fits.  The runs in which every
write is made and every frame the agent reads, or would read now, is its caller's are
exactly those whose writes fit and spare the frames not yet read
(`isolated_iff_spares`).
-/

namespace LookoutVision

/-! ## The interleaving -/

/-- How far a client's `DetectAnomalies` call has come: its frame, with the
request that was made for it. -/
inductive CallPhase
  | idle
  | written (frame : List UInt8) (request : DetectAnomaliesRequest)
  | sent (frame : List UInt8) (request : DetectAnomaliesRequest)
deriving DecidableEq, Repr

/-- The frame the agent has still to read, with its request. -/
def CallPhase.unread : CallPhase → Option (List UInt8 × DetectAnomaliesRequest)
  | .idle => none
  | .written frame request => some (frame, request)
  | .sent frame request => some (frame, request)

structure Traffic where
  device : Device
  phase : Nat → CallPhase

/-- No call under way. -/
def Traffic.start (d : Device) : Traffic := ⟨d, fun _ => .idle⟩

inductive CallStep
  | write (id : Nat) (modelComponent : String) (buf : List UInt8) (width height : UInt64)
  | send (id : Nat)
  | read (id : Nat)
deriving DecidableEq, Repr

structure TrafficInput where
  step : CallStep
  env : Environment

/-- What the agent found in the range of a request's handle, and the frame the
request was made for. -/
structure AgentRead where
  client : Nat
  frame : List UInt8
  bytes : Option (List UInt8)
deriving DecidableEq, Repr

/-- One step of one client's call.  A step that the client's phase does not
allow is not one, and does nothing. -/
def trafficStep (s : Traffic) (i : TrafficInput) : Except Fault (Traffic × Option AgentRead) :=
  match i.step with
  | .write id modelComponent buf width height =>
      match s.device.clients id, s.phase id with
      | some c, .idle =>
          match c.prepareRequest i.env.os s.device.kernel modelComponent buf width height with
          | .error fault => .error fault
          | .ok (k', c', request) =>
              .ok ({ device := { s.device with
                      kernel := k'
                      clients := Function.update s.device.clients id (some c') }
                     phase := Function.update s.phase id (.written buf request) }, none)
      | _, _ => .ok (s, none)
  | .send id =>
      match s.phase id with
      | .written frame request =>
          .ok ({ s with phase := Function.update s.phase id (.sent frame request) }, none)
      | _ => .ok (s, none)
  | .read id =>
      match s.phase id with
      | .sent frame request =>
          .ok ({ s with phase := Function.update s.phase id .idle },
            some ⟨id, frame, request.bitmap.data.bytes s.device.kernel⟩)
      | _ => .ok (s, none)

def traffic : Machine Traffic TrafficInput (Option AgentRead) Fault := ⟨trafficStep⟩

/-! ## Each step -/

/-- The traffic after a completed write. -/
def Traffic.wrote (s : Traffic) (id : Nat) (c : LookoutVisionInferenceClient) (k' : Kernel)
    (shm' : SharedMemory) (buf : List UInt8) (request : DetectAnomaliesRequest) : Traffic :=
  ⟨s.device.framed id c k' shm', Function.update s.phase id (.written buf request)⟩

namespace Traffic
variable {s s' : Traffic} {env : Environment} {id : Nat} {c : LookoutVisionInferenceClient}
  {shm : SharedMemory} {buf : List UInt8}

theorem step_write (hc : s.device.clients id = some c) (hshm : c.shm = some shm)
    (hphase : s.phase id = .idle) {k' : Kernel} {shm' : SharedMemory}
    (hw : writeSHM env.os s.device.kernel shm buf = .ok (k', shm'))
    (component : String) (width height : UInt64) :
    traffic.step s ⟨.write id component buf width height, env⟩ =
      .ok (s.wrote id c k' shm' buf
        (frameRequest component width height (frameHandle buf.length)), none) := by
  simp only [traffic, trafficStep, hc, hphase,
    LookoutVisionInferenceClient.prepareRequest_shared component width height hshm hw]
  rfl

/-- A write that faults is no step. -/
theorem step_write_fault (hc : s.device.clients id = some c) (hshm : c.shm = some shm)
    (hphase : s.phase id = .idle) {fault : Fault}
    (hw : writeSHM env.os s.device.kernel shm buf = .error fault)
    (component : String) (width height : UInt64) :
    traffic.step s ⟨.write id component buf width height, env⟩ = .error fault := by
  simp only [traffic, trafficStep, hc, hphase,
    LookoutVisionInferenceClient.prepareRequest_fault component width height hshm hw]

theorem step_send {frame : List UInt8} {request : DetectAnomaliesRequest}
    (hphase : s.phase id = .written frame request) :
    traffic.step s ⟨.send id, env⟩ =
      .ok ({ s with phase := Function.update s.phase id (.sent frame request) }, none) := by
  simp only [traffic, trafficStep, hphase]

theorem step_read {frame : List UInt8} {request : DetectAnomaliesRequest}
    (hphase : s.phase id = .sent frame request) :
    traffic.step s ⟨.read id, env⟩ =
      .ok ({ s with phase := Function.update s.phase id .idle },
        some ⟨id, frame, request.bitmap.data.bytes s.device.kernel⟩) := by
  simp only [traffic, trafficStep, hphase]

/-- The client's last call is still under way. -/
theorem step_busy (hphase : s.phase id ≠ .idle) (component : String) (width height : UInt64) :
    traffic.step s ⟨.write id component buf width height, env⟩ = .ok (s, none) := by
  simp only [traffic, trafficStep]
  split
  · rename_i _ _ hidle
    exact absurd hidle hphase
  · rfl

/-- There is no such client. -/
theorem step_absent (hc : s.device.clients id = none) (component : String)
    (width height : UInt64) :
    traffic.step s ⟨.write id component buf width height, env⟩ = .ok (s, none) := by
  simp only [traffic, trafficStep, hc]

theorem step_unwritten (hphase : ∀ frame request, s.phase id ≠ .written frame request) :
    traffic.step s ⟨.send id, env⟩ = .ok (s, none) := by
  simp only [traffic, trafficStep]

theorem step_unsent (hphase : ∀ frame request, s.phase id ≠ .sent frame request) :
    traffic.step s ⟨.read id, env⟩ = .ok (s, none) := by
  simp only [traffic, trafficStep]

/-- Sending a request leaves its frame unread. -/
theorem unread_sent {frame : List UInt8} {request : DetectAnomaliesRequest}
    (hphase : s.phase id = .written frame request) (j : Nat) :
    (Function.update s.phase id (.sent frame request) j).unread = (s.phase j).unread := by
  by_cases hji : j = id
  · subst hji
    rw [Function.update_self, hphase]
    rfl
  · rw [Function.update_of_ne hji]

/-- What is unread after an answer was unread before it. -/
theorem unread_idle {j : Nat} {p : List UInt8 × DetectAnomaliesRequest}
    (hj : (Function.update s.phase id .idle j).unread = some p) :
    (s.phase j).unread = some p := by
  by_cases hji : j = id
  · subst hji
    rw [Function.update_self] at hj
    cases hj
  · rw [Function.update_of_ne hji] at hj
    exact hj

/-- What is unread after a write is the frame written, or was unread before. -/
theorem unread_wrote {k' : Kernel} {shm' : SharedMemory} {request₀ : DetectAnomaliesRequest}
    {j : Nat} {frame : List UInt8} {request : DetectAnomaliesRequest}
    (hj : ((s.wrote id c k' shm' buf request₀).phase j).unread = some (frame, request)) :
    (frame = buf ∧ request = request₀) ∨
      (j ≠ id ∧ (s.phase j).unread = some (frame, request)) := by
  by_cases hji : j = id
  · subst hji
    simp only [wrote, Function.update_self, CallPhase.unread] at hj
    obtain ⟨rfl, rfl⟩ := Prod.mk.inj (Option.some.inj hj)
    exact Or.inl ⟨rfl, rfl⟩
  · simp only [wrote, Function.update_of_ne hji] at hj
    exact Or.inr ⟨hji, hj⟩

/-- **Every step**: nothing, a completed write, a request sent, or a read. -/
theorem step_cases (hd : s.device.Sound) {i : TrafficInput} (hos : i.env.os.Succeed)
    {o : Option AgentRead} (hstep : traffic.step s i = .ok (s', o)) :
    (s' = s ∧ o = none ∧ ∀ id component buf width height,
      i.step = .write id component buf width height →
        s.device.clients id = none ∨ s.phase id ≠ .idle) ∨
    (∃ id component buf width height c shm k' shm',
      i.step = .write id component buf width height ∧ s.device.clients id = some c ∧
      c.shm = some shm ∧ s.phase id = .idle ∧ Written s.device.kernel shm buf k' shm' ∧
      s' = s.wrote id c k' shm' buf
        (frameRequest component width height (frameHandle buf.length)) ∧ o = none) ∨
    (∃ id frame request, i.step = .send id ∧ s.phase id = .written frame request ∧
      s' = { s with phase := Function.update s.phase id (.sent frame request) } ∧ o = none) ∨
    ∃ id frame request, i.step = .read id ∧ s.phase id = .sent frame request ∧
      s' = { s with phase := Function.update s.phase id .idle } ∧
      o = some ⟨id, frame, request.bitmap.data.bytes s.device.kernel⟩ := by
  obtain ⟨step, env⟩ := i
  cases step with
  | write id component buf width height =>
    cases hc : s.device.clients id with
    | none =>
      rw [step_absent hc] at hstep
      obtain ⟨rfl, rfl⟩ := Prod.mk.inj (Except.ok.inj hstep)
      refine Or.inl ⟨rfl, rfl, fun id' _ _ _ _ hcall => ?_⟩
      injection hcall with hid
      exact Or.inl (hid ▸ hc)
    | some c =>
      by_cases hphase : s.phase id = .idle
      · obtain ⟨shm, hshm⟩ := hd.shared id c hc
        have hmapped : Mapped s.device.kernel shm :=
          hd.orderly.mapped id shm ((Device.segment_of_live hc).trans hshm)
        cases hw : writeSHM env.os s.device.kernel shm buf with
        | error fault =>
          rw [step_write_fault hc hshm hphase hw] at hstep
          cases hstep
        | ok r =>
          obtain ⟨k', shm'⟩ := r
          rw [step_write hc hshm hphase hw] at hstep
          obtain ⟨rfl, rfl⟩ := Prod.mk.inj (Except.ok.inj hstep)
          exact Or.inr (Or.inl ⟨id, component, buf, width, height, c, shm, k', shm', rfl, hc,
            hshm, hphase, (writeSHM_written hos hmapped hw).1, rfl, rfl⟩)
      · rw [step_busy hphase] at hstep
        obtain ⟨rfl, rfl⟩ := Prod.mk.inj (Except.ok.inj hstep)
        refine Or.inl ⟨rfl, rfl, fun id' _ _ _ _ hcall => ?_⟩
        injection hcall with hid
        exact Or.inr (hid ▸ hphase)
  | send id =>
    by_cases hphase : ∃ frame request, s.phase id = .written frame request
    · obtain ⟨frame, request, hphase⟩ := hphase
      rw [step_send hphase] at hstep
      obtain ⟨rfl, rfl⟩ := Prod.mk.inj (Except.ok.inj hstep)
      exact Or.inr (Or.inr (Or.inl ⟨id, frame, request, rfl, hphase, rfl, rfl⟩))
    · rw [step_unwritten fun frame request h => hphase ⟨frame, request, h⟩] at hstep
      obtain ⟨rfl, rfl⟩ := Prod.mk.inj (Except.ok.inj hstep)
      exact Or.inl ⟨rfl, rfl, fun _ _ _ _ _ hcall => by cases hcall⟩
  | read id =>
    by_cases hphase : ∃ frame request, s.phase id = .sent frame request
    · obtain ⟨frame, request, hphase⟩ := hphase
      rw [step_read hphase] at hstep
      obtain ⟨rfl, rfl⟩ := Prod.mk.inj (Except.ok.inj hstep)
      exact Or.inr (Or.inr (Or.inr ⟨id, frame, request, rfl, hphase, rfl, rfl⟩))
    · rw [step_unsent fun frame request h => hphase ⟨frame, request, h⟩] at hstep
      obtain ⟨rfl, rfl⟩ := Prod.mk.inj (Except.ok.inj hstep)
      exact Or.inl ⟨rfl, rfl, fun _ _ _ _ _ hcall => by cases hcall⟩

end Traffic

/-! ## The property, and what keeps it -/

/-- What no step breaks: the device is sound, the clients share the object the
name is bound to, and every request not yet answered has the handle of its
frame. -/
structure Deployed (s : Traffic) : Prop where
  sound : s.device.Sound
  opens : OpensOwn s.device
  handle : ∀ id frame request, (s.phase id).unread = some (frame, request) →
    request.bitmap.data = frameHandle frame.length

/-- The record of a run of the traffic. -/
abbrev TrafficHistory := List (TrafficInput × Option AgentRead)

/-- The frame of a client's call after one more step: a write begins a call if none is
under way, an answer ends it. -/
def callAfter (id : Nat) (frame : Option (List UInt8)) (r : TrafficInput × Option AgentRead) :
    Option (List UInt8) :=
  match r.1.step, r.2 with
  | .write j _ buf _ _, _ => if j = id then frame.or (some buf) else frame
  | .read j, some _ => if j = id then none else frame
  | _, _ => frame

/-- **The frame that was passed to the call a client has under way**, by the steps it was
asked for. -/
def callFrame (id : Nat) (h : TrafficHistory) : Option (List UInt8) :=
  h.foldl (callAfter id) none

theorem callFrame_snoc (id : Nat) (h : TrafficHistory) (r : TrafficInput × Option AgentRead) :
    callFrame id (h ++ [r]) = callAfter id (callFrame id h) r := by
  simp only [callFrame, List.foldl_append, List.foldl_cons, List.foldl_nil]

/-- The calls under way are those of the history. -/
structure Tracked (h : TrafficHistory) (s : Traffic) : Prop where
  call : ∀ id, s.device.clients id ≠ none → callFrame id h = (s.phase id).unread.map Prod.fst
  absent : ∀ id, s.device.clients id = none → s.phase id = .idle

/-- **Frames are isolated**: everything the agent read was, byte for byte, the frame passed
to the call that sent the request, and so is whatever it still has to read. -/
structure Isolated (h : TrafficHistory) (s : Traffic) : Prop where
  read : ∀ before r agentRead, before ++ [r] <+: h → r.2 = some agentRead →
    r.1.step = .read agentRead.client ∧
      callFrame agentRead.client before = some agentRead.frame ∧
      agentRead.bytes = some agentRead.frame
  unread : ∀ id frame request, (s.phase id).unread = some (frame, request) →
    callFrame id h = some frame ∧ request.bitmap.data.bytes s.device.kernel = some frame

/-- A write, by a client with no call under way, stays inside the object: it grows the
segment first, or the object is long enough.  And it spares the frames of other clients
that the agent has still to read: such a frame begins the one written, or is begun by it
without the segment being cut. -/
def SparesUnread (s : Traffic) (i : TrafficInput) : Prop :=
  ∀ id component buf width height shm, i.step = .write id component buf width height →
    s.phase id = .idle → s.device.segment id = some shm →
      (shm.shmSize < buf.length ∨ buf.length ≤ (s.device.kernel.content shm.shmFd).length) ∧
        ∀ j frame request, j ≠ id → (s.phase j).unread = some (frame, request) →
          frame <+: buf ∨ (buf <+: frame ∧ buf.length ≤ shm.shmSize)

section
variable {s s' : Traffic} {i : TrafficInput} {h : TrafficHistory} {o : Option AgentRead}

/-- **One step** keeps the deployment. -/
theorem deployed_step (hd : Deployed s) (hos : i.env.os.Succeed)
    (hstep : traffic.step s i = .ok (s', o)) : Deployed s' := by
  rcases Traffic.step_cases hd.sound hos hstep with ⟨rfl, -, -⟩ |
    ⟨id, component, buf, width, height, c, shm, k', shm', -, hc, hshm, -, hw, rfl, -⟩ |
    ⟨id, frame, request, -, hphase, rfl, -⟩ | ⟨id, frame, request, -, hphase, rfl, -⟩
  · exact hd
  · have hsound := hd.sound.framed hc hshm hw
    refine ⟨hsound, opensOwn_framed hd.sound hd.opens hc hshm hw hsound, ?_⟩
    intro j frame request hj
    rcases Traffic.unread_wrote hj with ⟨rfl, rfl⟩ | ⟨-, hj⟩
    · rfl
    · exact hd.handle j frame request hj
  · refine ⟨hd.sound, hd.opens, fun j frame' request' hj => ?_⟩
    rw [Traffic.unread_sent hphase] at hj
    exact hd.handle j frame' request' hj
  · exact ⟨hd.sound, hd.opens, fun j frame' request' hj =>
      hd.handle j frame' request' (Traffic.unread_idle hj)⟩

/-- A frame is found through its handle exactly when the named object begins
with it. -/
theorem bytes_frameHandle_iff {k : Kernel} {object : Nat} {frame : List UInt8}
    {request : DetectAnomaliesRequest} (hb : k.bound shmName = some object)
    (hrequest : request.bitmap.data = frameHandle frame.length) :
    request.bitmap.data.bytes k = some frame ↔ frame <+: k.content object := by
  rw [hrequest]
  exact Posix.Kernel.read_eq_some_iff hb

/-! ### Calls and their frames -/

/-- A client that has a call under way exists. -/
theorem Tracked.live (hr : Tracked h s) {id : Nat} (hphase : s.phase id ≠ .idle) :
    s.device.clients id ≠ none :=
  fun hnone => hphase (hr.absent id hnone)

theorem Tracked.unread (hr : Tracked h s) {id : Nat} {frame : List UInt8}
    {request : DetectAnomaliesRequest} (hj : (s.phase id).unread = some (frame, request)) :
    callFrame id h = some frame := by
  have hbusy : s.phase id ≠ .idle := by
    intro hidle
    rw [hidle] at hj
    cases hj
  rw [hr.call id (hr.live hbusy), hj]
  rfl

/-- One client's call moves on, and the step is recorded so. -/
theorem Tracked.move (hr : Tracked h s) {id : Nat} {phase : CallPhase}
    {r : TrafficInput × Option AgentRead} (hlive : s.device.clients id ≠ none)
    (hclients : ∀ j, s'.device.clients j = none ↔ s.device.clients j = none)
    (hphase : s'.phase = Function.update s.phase id phase)
    (hself : callAfter id (callFrame id h) r = phase.unread.map Prod.fst)
    (hothers : ∀ j, j ≠ id → callAfter j (callFrame j h) r = callFrame j h) :
    Tracked (h ++ [r]) s' where
  call := by
    intro j hj
    rw [callFrame_snoc, hphase]
    by_cases hid : j = id
    · rw [hid, Function.update_self]
      exact hself
    · rw [Function.update_of_ne hid, hothers j hid]
      exact hr.call j fun hnone => hj ((hclients j).mpr hnone)
  absent := by
    intro j hj
    have hnone := (hclients j).mp hj
    have hne : j ≠ id := by
      rintro rfl
      exact hlive hnone
    rw [hphase, Function.update_of_ne hne]
    exact hr.absent j hnone

/-- A step that is none leaves the record as it is. -/
theorem Tracked.stay (hr : Tracked h s)
    (hnot : ∀ id component buf width height, i.step = .write id component buf width height →
      s.device.clients id = none ∨ s.phase id ≠ .idle) :
    Tracked (h ++ [(i, none)]) s where
  call := by
    intro j hlive
    rw [callFrame_snoc, ← hr.call j hlive]
    obtain ⟨step, env⟩ := i
    cases step with
    | write id component buf width height =>
      by_cases hid : id = j
      · -- The call under way keeps its frame.
        subst hid
        have hbusy := (hnot id component buf width height rfl).resolve_left hlive
        rw [hr.call id hlive]
        cases hphase : s.phase id with
        | idle => exact absurd hphase hbusy
        | written frame request => exact if_pos rfl
        | sent frame request => exact if_pos rfl
      · exact if_neg hid
    | send id => rfl
    | read id => rfl
  absent := hr.absent

/-- **One step** keeps the record of the calls. -/
theorem tracked_step (hd : s.device.Sound) (hr : Tracked h s) (hos : i.env.os.Succeed)
    (hstep : traffic.step s i = .ok (s', o)) : Tracked (h ++ [(i, o)]) s' := by
  have hcases := Traffic.step_cases hd hos hstep
  obtain ⟨step, env⟩ := i
  rcases hcases with ⟨rfl, rfl, hnot⟩ |
    ⟨id, component, buf, width, height, c, shm, k', shm', rfl, hc, -, hphase, -, rfl, rfl⟩ |
    ⟨id, frame, request, rfl, hphase, rfl, rfl⟩ | ⟨id, frame, request, rfl, hphase, rfl, rfl⟩
  · exact hr.stay hnot
  · have hlive : s.device.clients id ≠ none := by
      rw [hc]
      exact Option.some_ne_none c
    refine hr.move hlive (fun j => ?_) rfl ?_ fun j hj => if_neg (Ne.symm hj)
    · show Function.update s.device.clients id _ j = none ↔ _
      by_cases hj : j = id
      · rw [hj, Function.update_self]
        exact iff_of_false (Option.some_ne_none _) hlive
      · rw [Function.update_of_ne hj]
    · have hnone : callFrame id h = none := by
        rw [hr.call id hlive, hphase]
        rfl
      rw [hnone]
      exact if_pos rfl
  · have hlive := hr.live (by rw [hphase]; exact CallPhase.noConfusion)
    refine hr.move hlive (fun _ => Iff.rfl) rfl ?_ fun _ _ => rfl
    show callFrame id h = _
    rw [hr.call id hlive, hphase]
    rfl
  · have hlive := hr.live (by rw [hphase]; exact CallPhase.noConfusion)
    exact hr.move hlive (fun _ => Iff.rfl) rfl (if_pos rfl) fun j hj => if_neg (Ne.symm hj)

/-! ### Isolation, step by step -/

/-- A step during which the agent reads nothing. -/
theorem Isolated.silent (hi : Isolated h s) (hr : Tracked (h ++ [(i, none)]) s')
    (hunread : ∀ id frame request, (s'.phase id).unread = some (frame, request) →
      request.bitmap.data.bytes s'.device.kernel = some frame) :
    Isolated (h ++ [(i, none)]) s' := by
  constructor
  · intro before r agentRead hpre hread
    rcases List.prefix_concat_iff.mp hpre with he | hpre
    · obtain ⟨-, hlast⟩ := List.append_inj' he rfl
      obtain rfl := (List.cons.inj hlast).1
      cases hread
    · exact hi.read before r agentRead hpre hread
  · exact fun id frame request hj => ⟨hr.unread hj, hunread id frame request hj⟩

/-- **A frame that can be found survives a write** exactly when it begins the one written,
or is begun by it without the segment being cut. -/
theorem survives_write_iff {k k' : Kernel} {shm shm' : SharedMemory} {buf frame : List UInt8}
    {request : DetectAnomaliesRequest} (hbound : k.bound shmName = some shm.shmFd)
    (hw : Written k shm buf k' shm') (hrequest : request.bitmap.data = frameHandle frame.length)
    (hfound : request.bitmap.data.bytes k = some frame) :
    request.bitmap.data.bytes k' = some frame ↔
      frame <+: buf ∨ (buf <+: frame ∧ buf.length ≤ shm.shmSize) := by
  have hbound' : k'.bound shmName = some shm.shmFd := by
    rw [hw.bound]
    exact hbound
  have hold : frame <+: k.content shm.shmFd := (bytes_frameHandle_iff hbound hrequest).mp hfound
  rw [bytes_frameHandle_iff hbound' hrequest, hw.content]
  by_cases hgrow : shm.shmSize < buf.length
  · rw [if_pos hgrow]
    refine ⟨Or.inl, ?_⟩
    rintro (hbegins | ⟨-, hle⟩)
    · exact hbegins
    · omega
  · rw [if_neg hgrow, Posix.begins_overwrite_iff hold]
    exact or_congr_right ⟨fun hbegins => ⟨hbegins, by omega⟩, And.left⟩

/-- The frame just written begins the object, whether it was cut or not. -/
theorem found_written {k k' : Kernel} {shm shm' : SharedMemory} {buf : List UInt8}
    {request : DetectAnomaliesRequest} (hbound : k.bound shmName = some shm.shmFd)
    (hw : Written k shm buf k' shm') (hrequest : request.bitmap.data = frameHandle buf.length) :
    request.bitmap.data.bytes k' = some buf := by
  have hbound' : k'.bound shmName = some shm.shmFd := by
    rw [hw.bound]
    exact hbound
  apply (bytes_frameHandle_iff hbound' hrequest).mpr
  rw [hw.content]
  split
  · exact List.prefix_refl buf
  · exact Posix.begins_overwrite (List.prefix_refl buf)

/-- **A write that is made** keeps the frames isolated exactly when it spares the unread
ones. -/
theorem isolated_write_iff {id : Nat} {component : String} {buf : List UInt8}
    {width height : UInt64} {c : LookoutVisionInferenceClient} {shm shm' : SharedMemory}
    {k' : Kernel} (hd : Deployed s) (hi : Isolated h s)
    (hr : Tracked (h ++ [(i, none)]) (s.wrote id c k' shm' buf
      (frameRequest component width height (frameHandle buf.length))))
    (hc : s.device.clients id = some c) (hshm : c.shm = some shm)
    (hw : Written s.device.kernel shm buf k' shm') :
    Isolated (h ++ [(i, none)]) (s.wrote id c k' shm' buf
        (frameRequest component width height (frameHandle buf.length))) ↔
      ∀ j frame request, j ≠ id → (s.phase j).unread = some (frame, request) →
        frame <+: buf ∨ (buf <+: frame ∧ buf.length ≤ shm.shmSize) := by
  have hbound : s.device.kernel.bound shmName = some shm.shmFd :=
    (opensOwn_iff hd.sound).mp hd.opens id shm ((Device.segment_of_live hc).trans hshm)
  have hexact : ∀ j frame request, (s.phase j).unread = some (frame, request) →
      (request.bitmap.data.bytes k' = some frame ↔
        frame <+: buf ∨ (buf <+: frame ∧ buf.length ≤ shm.shmSize)) :=
    fun j frame request hj =>
      survives_write_iff hbound hw (hd.handle j frame request hj) (hi.unread j frame request hj).2
  constructor
  · intro hisolated j frame request hji hj
    apply (hexact j frame request hj).mp
    refine (hisolated.unread j frame request ?_).2
    simp only [Traffic.wrote, Function.update_of_ne hji]
    exact hj
  · intro hspares
    refine hi.silent hr fun j frame request hj => ?_
    rcases Traffic.unread_wrote hj with ⟨rfl, rfl⟩ | ⟨hji, hj⟩
    · exact found_written hbound hw rfl
    · exact (hexact j frame request hj).mpr (hspares j frame request hji hj)

/-- **A write** of a client with no call under way is made, and keeps the frames isolated,
exactly when it stays inside the object and spares the unread frames. -/
theorem isolated_write_step_iff {id : Nat} {component : String} {buf : List UInt8}
    {width height : UInt64} {env : Environment} {c : LookoutVisionInferenceClient}
    {shm : SharedMemory} (hd : Deployed s) (hr : Tracked h s) (hi : Isolated h s)
    (hos : env.os.Succeed) (hc : s.device.clients id = some c) (hshm : c.shm = some shm)
    (hphase : s.phase id = .idle) :
    SparesUnread s ⟨.write id component buf width height, env⟩ ↔
      ∃ s' o, traffic.step s ⟨.write id component buf width height, env⟩ = .ok (s', o) ∧
        Isolated (h ++ [(⟨.write id component buf width height, env⟩, o)]) s' := by
  have hsegment : s.device.segment id = some shm := (Device.segment_of_live hc).trans hshm
  have hmapped : Mapped s.device.kernel shm := hd.sound.orderly.mapped id shm hsegment
  constructor
  · intro hspares
    obtain ⟨hinside, hkept⟩ := hspares id component buf width height shm rfl hphase hsegment
    obtain ⟨k', shm', hwrite⟩ := (writeSHM_ok_iff hos hmapped).mpr hinside
    have hw : Written s.device.kernel shm buf k' shm' := (writeSHM_written hos hmapped hwrite).1
    have hstep := Traffic.step_write hc hshm hphase hwrite component width height
    have hr' := tracked_step hd.sound hr hos hstep
    exact ⟨_, _, hstep, (isolated_write_iff hd hi hr' hc hshm hw).mpr hkept⟩
  · rintro ⟨s', o, hstep, hisolated⟩ id' component' buf' width' height' shm₁ hcall - hsegment'
    injection hcall with hid _ hbuf
    subst hid hbuf
    obtain rfl : shm = shm₁ := Option.some.inj (hsegment.symm.trans hsegment')
    cases hwrite : writeSHM env.os s.device.kernel shm buf with
    | error fault =>
      rw [Traffic.step_write_fault hc hshm hphase hwrite] at hstep
      cases hstep
    | ok r =>
      obtain ⟨k', shm'⟩ := r
      have hr' := tracked_step hd.sound hr hos hstep
      rw [Traffic.step_write hc hshm hphase hwrite] at hstep
      obtain ⟨rfl, rfl⟩ := Prod.mk.inj (Except.ok.inj hstep)
      have hw : Written s.device.kernel shm buf k' shm' := (writeSHM_written hos hmapped hwrite).1
      exact ⟨(writeSHM_ok_iff hos hmapped).mp ⟨k', shm', hwrite⟩,
        (isolated_write_iff hd hi hr' hc hshm hw).mp hisolated⟩

/-- **A read** is of a frame that was unread, and intact. -/
theorem Isolated.answered (hi : Isolated h s) {id : Nat} {frame : List UInt8}
    {request : DetectAnomaliesRequest} (hcall : i.step = .read id)
    (hphase : s.phase id = .sent frame request)
    (hr : Tracked
      (h ++ [(i, some ⟨id, frame, request.bitmap.data.bytes s.device.kernel⟩)])
      { s with phase := Function.update s.phase id .idle }) :
    Isolated (h ++ [(i, some ⟨id, frame, request.bitmap.data.bytes s.device.kernel⟩)])
      { s with phase := Function.update s.phase id .idle } := by
  constructor
  · intro before r agentRead hpre hread
    rcases List.prefix_concat_iff.mp hpre with he | hpre
    · obtain ⟨rfl, hlast⟩ := List.append_inj' he rfl
      obtain rfl := (List.cons.inj hlast).1
      obtain rfl := Option.some.inj hread
      exact ⟨hcall, hi.unread id frame request (by rw [hphase]; rfl)⟩
    · exact hi.read before r agentRead hpre hread
  · intro j frame' request' hj
    exact ⟨hr.unread hj, (hi.unread j frame' request' (Traffic.unread_idle hj)).2⟩

/-- **One step** is made and keeps the frames isolated exactly when it stays inside the
object and spares the unread frames. -/
theorem isolated_step_iff (hd : Deployed s) (hr : Tracked h s) (hi : Isolated h s)
    (hos : i.env.os.Succeed) :
    SparesUnread s i ↔
      ∃ s' o, traffic.step s i = .ok (s', o) ∧ Isolated (h ++ [(i, o)]) s' := by
  obtain ⟨step, env⟩ := i
  -- Where nothing happens, nothing changes.
  have hnothing : ∀ {step : CallStep}, traffic.step s ⟨step, env⟩ = .ok (s, none) →
      ∃ s' o, traffic.step s ⟨step, env⟩ = .ok (s', o) ∧
        Isolated (h ++ [(⟨step, env⟩, o)]) s' := by
    intro step hstep
    refine ⟨s, none, hstep, hi.silent (tracked_step hd.sound hr hos hstep) ?_⟩
    exact fun id frame request hj => (hi.unread id frame request hj).2
  cases step with
  | write id component buf width height =>
    cases hc : s.device.clients id with
    | none =>
      refine iff_of_true ?_ (hnothing (Traffic.step_absent hc ..))
      rintro id' _ _ _ _ shm hcall - hsegment
      injection hcall with hid
      subst hid
      rw [Device.segment_of_absent hc] at hsegment
      cases hsegment
    | some c =>
      by_cases hphase : s.phase id = .idle
      · obtain ⟨shm, hshm⟩ := hd.sound.shared id c hc
        exact isolated_write_step_iff hd hr hi hos hc hshm hphase
      · refine iff_of_true ?_ (hnothing (Traffic.step_busy hphase ..))
        intro id' _ _ _ _ shm hcall hidle
        injection hcall with hid
        subst hid
        exact absurd hidle hphase
  | send id =>
    apply iff_of_true
    · intro id' _ _ _ _ shm hcall
      cases hcall
    · by_cases hphase : ∃ frame request, s.phase id = .written frame request
      · obtain ⟨frame, request, hphase⟩ := hphase
        have hstep : traffic.step s ⟨.send id, env⟩ = _ := Traffic.step_send hphase
        refine ⟨_, none, hstep, hi.silent (tracked_step hd.sound hr hos hstep) ?_⟩
        intro j frame' request' hj
        rw [Traffic.unread_sent hphase] at hj
        exact (hi.unread j frame' request' hj).2
      · exact hnothing
          (Traffic.step_unwritten fun frame request h => hphase ⟨frame, request, h⟩)
  | read id =>
    apply iff_of_true
    · intro id' _ _ _ _ shm hcall
      cases hcall
    · by_cases hphase : ∃ frame request, s.phase id = .sent frame request
      · obtain ⟨frame, request, hphase⟩ := hphase
        have hstep : traffic.step s ⟨.read id, env⟩ = _ := Traffic.step_read hphase
        exact ⟨_, _, hstep, hi.answered rfl hphase (tracked_step hd.sound hr hos hstep)⟩
      · exact hnothing (Traffic.step_unsent fun frame request h => hphase ⟨frame, request, h⟩)

end

/-! ## Runs -/

/-- The input constructs a client. -/
def DeviceInput.Constructs (i : DeviceInput) : Prop :=
  (∃ serverSocket, i.operation = .construct serverSocket) ∧ i.env.os.Succeed

/-- Any number of constructions leaves all clients on the named object. -/
theorem deployment_opensOwn (k : Kernel) (deployment : List DeviceInput)
    (hdeployment : ∀ i ∈ deployment, i.Constructs) :
    ∃ d h, device.run (Device.initial k) deployment = .ok (d, h) ∧ d.Sound ∧ OpensOwn d := by
  refine Machine.run_invariant ⟨initial_sound k, nofun⟩ (fun h d i hinv hi => ?_) deployment
    hdeployment
  obtain ⟨hd, ho⟩ := hinv
  obtain ⟨operation, env⟩ := i
  obtain ⟨⟨serverSocket, hoperation⟩, hos⟩ := hi
  obtain rfl : operation = .construct serverSocket := hoperation
  have hstep := Device.step_construct (d := d) hos serverSocket
  have hd' := Device.step_sound hd hos hstep
  exact ⟨_, _, hstep, hd', opensOwn_constructed ho hd'⟩

/-- **Frame isolation.**  However many clients are constructed over whatever
segment was left, and however their calls interleave, every step is made and leaves the
frames isolated along exactly the runs whose writes stay inside the object and spare the
frames the agent has still to read. -/
theorem isolated_iff_spares (k : Kernel) (deployment : List DeviceInput)
    (is : List TrafficInput) (hdeployment : ∀ i ∈ deployment, i.Constructs)
    (his : ∀ i ∈ is, i.env.os.Succeed) :
    ∃ d h, device.run (Device.initial k) deployment = .ok (d, h) ∧
      (traffic.Always Isolated (Traffic.start d) is ↔
        traffic.Guarded (fun _ s i => SparesUnread s i) (Traffic.start d) is) := by
  obtain ⟨d, h, hrun, hd, ho⟩ := deployment_opensOwn k deployment hdeployment
  refine ⟨d, h, hrun, ?_⟩
  exact Machine.always_iff_guarded (J := fun h s => Deployed s ∧ Tracked h s)
    ⟨⟨hd, ho, nofun⟩, ⟨fun _ _ => rfl, fun _ _ => rfl⟩⟩ ⟨fun _ _ _ hpre => by simp at hpre, nofun⟩
    (fun _ _ _ _ _ hj hos hstep =>
      ⟨deployed_step hj.1 hos hstep, tracked_step hj.1.sound hj.2 hos hstep⟩)
    (fun _ _ _ hj hi hos => isolated_step_iff hj.1 hj.2 hi hos) his

/-- Two elements on one device. -/
def twoClients : List DeviceInput :=
  [⟨.construct "0.0.0.0:50051", .steady fun _ _ => true⟩,
    ⟨.construct "0.0.0.0:50051", .steady fun _ _ => true⟩]

/-- The second client writes before the first one's frame is read. -/
def overtakingWrite : List TrafficInput :=
  [⟨.write 0 "SampleModel" [1] 1 1, .steady fun _ _ => true⟩,
    ⟨.write 1 "SampleModel" [2] 1 1, .steady fun _ _ => true⟩,
    ⟨.send 0, .steady fun _ _ => true⟩,
    ⟨.read 0, .steady fun _ _ => true⟩]

theorem isolated_iff_spares_sample :
    ∃ d h, device.run (Device.initial Posix.Kernel.empty) twoClients = .ok (d, h) ∧
      (traffic.Always Isolated (Traffic.start d) overtakingWrite ↔
        traffic.Guarded (fun _ s i => SparesUnread s i) (Traffic.start d) overtakingWrite) :=
  isolated_iff_spares Posix.Kernel.empty twoClients overtakingWrite
    (by
      simp only [twoClients, List.forall_mem_cons]
      exact ⟨⟨⟨_, rfl⟩, by decide⟩, ⟨⟨_, rfl⟩, by decide⟩, nofun⟩)
    (by
      simp only [overtakingWrite, List.forall_mem_cons]
      exact ⟨by decide, by decide, by decide, by decide, nofun⟩)

/-- Two clients on one object that has a byte: the agent reads the second one's
for the first one's request. -/
theorem overtaken {d : Device} {c₀ c₁ : LookoutVisionInferenceClient} {shm₀ shm₁ : SharedMemory}
    (hd : d.Sound) (ho : OpensOwn d) (hc₀ : d.clients 0 = some c₀) (hc₁ : d.clients 1 = some c₁)
    (hshm₀ : c₀.shm = some shm₀) (hshm₁ : c₁.shm = some shm₁)
    (hlen : 1 ≤ (d.kernel.content shm₀.shmFd).length) :
    ∃ s t, traffic.run (Traffic.start d) overtakingWrite = .ok (s, t) ∧
      ∃ r ∈ t, r.2 = some ⟨0, [1], some [2]⟩ := by
  have hos : (Environment.steady fun _ _ => true).os.Succeed := by decide
  have hsegment₀ := (Device.segment_of_live hc₀).trans hshm₀
  have hsegment₁ := (Device.segment_of_live hc₁).trans hshm₁
  have hbound₀ := (opensOwn_iff hd).mp ho 0 shm₀ hsegment₀
  have hbound₁ := (opensOwn_iff hd).mp ho 1 shm₁ hsegment₁
  have hfd : shm₁.shmFd = shm₀.shmFd := Option.some.inj (hbound₁.symm.trans hbound₀)
  -- The first client's frame.
  have hmapped₀ := hd.orderly.mapped 0 shm₀ hsegment₀
  obtain ⟨k₁, shm₀', hwrite₀⟩ : ∃ k₁ shm₀',
      writeSHM (Environment.steady fun _ _ => true).os d.kernel shm₀ [1] = .ok (k₁, shm₀') :=
    (writeSHM_ok_iff hos hmapped₀).mpr (Or.inr hlen)
  have hw₀ := (writeSHM_written hos hmapped₀ hwrite₀).1
  have hs₁ := Traffic.step_write (s := Traffic.start d) hc₀ hshm₀ rfl hwrite₀ "SampleModel" 1 1
  -- The second client's frame over it.
  have hmapped₁ : Mapped k₁ shm₁ := by
    refine (hd.framed hc₀ hshm₀ hw₀).orderly.mapped 1 shm₁ ?_
    rw [Device.segment_framed, Function.update_of_ne (by decide)]
    exact hsegment₁
  have hlen₁ : 1 ≤ (k₁.content shm₁.shmFd).length := by
    have hone : [(1 : UInt8)].length ≤ (d.kernel.content shm₀.shmFd).length := hlen
    rw [hfd, hw₀.content]
    split
    · exact Nat.le_refl 1
    · rw [Posix.length_overwrite hone]
      exact hlen
  obtain ⟨k₂, shm₁', hwrite₁⟩ : ∃ k₂ shm₁',
      writeSHM (Environment.steady fun _ _ => true).os k₁ shm₁ [2] = .ok (k₂, shm₁') :=
    (writeSHM_ok_iff hos hmapped₁).mpr (Or.inr hlen₁)
  have hw₁ := (writeSHM_written hos hmapped₁ hwrite₁).1
  let request := frameRequest "SampleModel" 1 1 (frameHandle 1)
  let s₁ := (Traffic.start d).wrote 0 c₀ k₁ shm₀' [1] request
  let s₂ := s₁.wrote 1 c₁ k₂ shm₁' [2] request
  have hclient₁ : s₁.device.clients 1 = some c₁ := hc₁
  have hs₂ : traffic.step s₁ ⟨.write 1 "SampleModel" [2] 1 1, .steady fun _ _ => true⟩ =
      .ok (s₂, none) := Traffic.step_write hclient₁ hshm₁ rfl hwrite₁ "SampleModel" 1 1
  let s₃ : Traffic := { s₂ with phase := Function.update s₂.phase 0 (.sent [1] request) }
  have hs₃ : traffic.step s₂ ⟨.send 0, .steady fun _ _ => true⟩ = .ok (s₃, none) :=
    Traffic.step_send rfl
  have hphase : s₃.phase 0 = .sent [1] request := rfl
  have hs₄ : traffic.step s₃ ⟨.read 0, .steady fun _ _ => true⟩ =
      .ok ({ s₃ with phase := Function.update s₃.phase 0 .idle },
        some ⟨0, [1], request.bitmap.data.bytes k₂⟩) := Traffic.step_read hphase
  have hread : request.bitmap.data.bytes k₂ = some [2] := by
    have hbound : k₁.bound shmName = some shm₁.shmFd := by
      rw [hw₀.bound]
      exact hbound₁
    exact found_written hbound hw₁ rfl
  have hrun := Machine.run_snoc_ok
    (Machine.run_snoc_ok (Machine.run_snoc_ok (Machine.run_one hs₁) hs₂) hs₃) hs₄
  refine ⟨_, _, hrun, _, List.mem_append_right _ (List.mem_singleton_self _), ?_⟩
  exact congrArg (fun bytes => some (AgentRead.mk 0 [1] bytes)) hread

/-- **The agent finds the other client's frame** under the first one's
request. -/
theorem reads_other_frame :
    ∃ d h s t, device.run (Device.initial Posix.Kernel.empty) twoClients = .ok (d, h) ∧
      traffic.run (Traffic.start d) overtakingWrite = .ok (s, t) ∧
      ∃ r ∈ t, r.2 = some ⟨0, [1], some [2]⟩ := by
  have hos : (Environment.steady fun _ _ => true).os.Succeed := by decide
  let d₀ := Device.initial Posix.Kernel.empty
  let d₁ := d₀.constructed "0.0.0.0:50051"
  let d := d₁.constructed "0.0.0.0:50051"
  have hstep₁ : device.step d₀ ⟨.construct "0.0.0.0:50051", .steady fun _ _ => true⟩ =
      .ok (d₁, none) := Device.step_construct hos _
  have hstep₂ : device.step d₁ ⟨.construct "0.0.0.0:50051", .steady fun _ _ => true⟩ =
      .ok (d, none) := Device.step_construct hos _
  have hd₁ : d₁.Sound := Device.step_sound (initial_sound _) hos hstep₁
  have hd : d.Sound := Device.step_sound hd₁ hos hstep₂
  have ho₁ : OpensOwn d₁ := opensOwn_constructed (d := d₀) nofun hd₁
  have ho : OpensOwn d := opensOwn_constructed ho₁ hd
  have hsame : (setupSegment d₀.kernel).shmFd = (setupSegment d₁.kernel).shmFd :=
    (ho 0 (setupSegment d₀.kernel) rfl).symm.trans (ho 1 (setupSegment d₁.kernel) rfl)
  have hlen : 1 ≤ (d.kernel.content (setupSegment d₀.kernel).shmFd).length := by
    have h : (d.kernel.content (setupSegment d₁.kernel).shmFd).length = initialShmSize :=
      length_setupKernel_self
    rw [hsame, h]
    decide
  obtain ⟨s, t, hrun, hread⟩ := overtaken hd ho rfl rfl rfl rfl hlen
  exact ⟨d, _, s, t, Machine.run_snoc_ok (Machine.run_one hstep₁) hstep₂, hrun, hread⟩

end LookoutVision
