import LookoutVision.Runs
import LookoutVision.SharedSegment
import LookoutVision.Tables

/-!
# The clients of one device

All `LookoutVisionInferenceClient`s of a device built with `SHARED_MEMORY`, over
the one kernel: they open the same name.  `device` is the machine whose inputs
are whole operations: a client is constructed, a live client is given a frame, a
live client is destroyed.  An operation on a client that is not live is not one,
and does nothing.

`Orderly` is what no operation breaks: each live client's mapping is its own and
intact.  Nothing in it says how long the mapped object is, or what the name is
bound to; those are what the clients do to each other.
-/

namespace LookoutVision

/-! ## The machine -/

/-- The clients are numbered in the order they are constructed; a number is not
used again. -/
structure Device where
  kernel : Kernel
  clients : Nat → Option LookoutVisionInferenceClient
  created : Nat

/-- No client yet, with whatever the kernel holds. -/
def Device.initial (k : Kernel) : Device := ⟨k, fun _ => none, 0⟩

/-- The private fields of a live client's segment. -/
def Device.segment (d : Device) (id : Nat) : Option SharedMemory :=
  (d.clients id).bind LookoutVisionInferenceClient.shm

inductive Operation
  | construct (serverSocket : String)
  | detectAnomalies (id : Nat) (modelComponent : String) (buf : List UInt8)
      (width height : UInt64)
  | destroy (id : Nat)
deriving DecidableEq, Repr

structure DeviceInput where
  operation : Operation
  env : Environment

def deviceStep (d : Device) (i : DeviceInput) :
    Except Fault (Device × Option LookoutVisionInferenceClient.Detection) :=
  match i.operation with
  | .construct serverSocket =>
      match LookoutVisionInferenceClient.new .sharedMemory i.env.os d.kernel serverSocket with
      | .error fault => .error fault
      | .ok (k', c) =>
          .ok (⟨k', Function.update d.clients d.created (some c), d.created + 1⟩, none)
  | .detectAnomalies id modelComponent buf width height =>
      match d.clients id with
      | none => .ok (d, none)
      | some c =>
          match c.detectAnomalies i.env d.kernel modelComponent buf width height with
          | .error fault => .error fault
          | .ok detection =>
              .ok ({ d with
                  kernel := detection.kernel
                  clients := Function.update d.clients id (some detection.client) },
                some detection)
  | .destroy id =>
      match d.clients id with
      | none => .ok (d, none)
      | some c =>
          .ok ({ d with
              kernel := c.delete d.kernel
              clients := Function.update d.clients id none }, none)

def device :
    Machine Device DeviceInput (Option LookoutVisionInferenceClient.Detection) Fault :=
  ⟨deviceStep⟩

/-! ## What no operation breaks -/

/-- Every client's mapping is intact, on an object that exists, at an address of
its own. -/
structure Orderly (k : Kernel) (segment : Nat → Option SharedMemory) : Prop where
  mapped : ∀ id shm, segment id = some shm → Mapped k shm
  opened : ∀ id shm, segment id = some shm → shm.shmFd < k.objects
  apart : ∀ id id' shm shm', segment id = some shm → segment id' = some shm' →
    shm.shmData = shm'.shmData → id = id'

/-- The kernel after a client's destructor. -/
def closedKernel (k : Kernel) (shm : SharedMemory) : Kernel :=
  (match shm.shmData with
    | none => k
    | some address => k.munmap address shm.shmSize).shmUnlink shmName

section
variable {k k' : Kernel} {segment : Nat → Option SharedMemory} {shm shm' : SharedMemory}
  {buf : List UInt8} {id : Nat}

@[simp] theorem closedKernel_content : (closedKernel k shm).content = k.content := by
  unfold closedKernel
  cases shm.shmData <;> rfl

@[simp] theorem closedKernel_objects : (closedKernel k shm).objects = k.objects := by
  unfold closedKernel
  cases shm.shmData <;> rfl

@[simp] theorem closedKernel_bound : (closedKernel k shm).bound shmName = none :=
  Posix.Kernel.bound_shmUnlink

theorem closedKernel_mappingAt {a : Nat} (ha : shm.shmData ≠ some a) :
    (closedKernel k shm).mappingAt a = k.mappingAt a := by
  unfold closedKernel
  cases hs : shm.shmData with
  | none => rfl
  | some b =>
    have hne : a ≠ b := by
      rintro rfl
      exact ha hs
    exact Posix.Kernel.mappingAt_munmap_of_ne hne

theorem Orderly.lt (h : Orderly k segment) (hid : segment id = some shm) {a : Nat}
    (ha : shm.shmData = some a) : a < k.addresses :=
  (h.mapped id shm hid).lt ha

/-- One client's mapping changes, at an address no other client has. -/
theorem Orderly.put (h : Orderly k segment) (hmapped : Mapped k' shm')
    (hopened : shm'.shmFd < k'.objects) (hobjects : k.objects ≤ k'.objects)
    (hothers : ∀ a, a < k.addresses → k'.mappingAt a = k.mappingAt a)
    (hnew : ∀ j shm, j ≠ id → segment j = some shm → shm.shmData ≠ shm'.shmData) :
    Orderly k' (Function.update segment id (some shm')) where
  mapped := by
    intro j shm hj
    rcases Table.update_eq_some hj with ⟨-, ⟨⟩⟩ | ⟨-, hj⟩
    · exact hmapped
    · exact (h.mapped j shm hj).of_mappingAt fun a ha => hothers a (h.lt hj ha)
  opened := by
    intro j shm hj
    rcases Table.update_eq_some hj with ⟨-, ⟨⟩⟩ | ⟨-, hj⟩
    · exact hopened
    · exact Nat.lt_of_lt_of_le (h.opened j shm hj) hobjects
  apart := by
    intro i j shm₁ shm₂ hi hj he
    rcases Table.update_eq_some hi with ⟨rfl, ⟨⟩⟩ | ⟨hii, hiold⟩ <;>
      rcases Table.update_eq_some hj with ⟨rfl, ⟨⟩⟩ | ⟨hji, hjold⟩
    · rfl
    · exact absurd he.symm (hnew j shm₂ hji hjold)
    · exact absurd he (hnew i shm₁ hii hiold)
    · exact h.apart i j shm₁ shm₂ hiold hjold he

/-- **Constructing a client** keeps the order: its mapping's address was never
handed out before. -/
theorem Orderly.construct (h : Orderly k segment) (id : Nat) :
    Orderly (setupKernel k) (Function.update segment id (some (setupSegment k))) := by
  refine h.put setupKernel_mapped setupSegment_lt objects_le_setupKernel
    (fun a => setupKernel_mappingAt) ?_
  intro j shm _ hj he
  exact absurd (h.lt hj he) (Nat.lt_irrefl _)

/-- **A completed write** keeps the order: the client's mapping is the one it
had, or a new one. -/
theorem Orderly.write (h : Orderly k segment) (hid : segment id = some shm)
    (hw : Written k shm buf k' shm') :
    Orderly k' (Function.update segment id (some shm')) := by
  refine h.put hw.mapped ?_ (Nat.le_of_eq hw.objects.symm) hw.mappingAt ?_
  · rw [hw.fd, hw.objects]
    exact h.opened id shm hid
  · intro j shm₁ hji hj he
    rcases hw.address with hold | hfresh
    · exact hji (h.apart j id shm₁ shm hj hid (he.trans hold))
    · exact absurd (h.lt hj (he.trans hfresh)) (Nat.lt_irrefl _)

/-- **Destroying a client** keeps the order of the others. -/
theorem Orderly.destroy (h : Orderly k segment) (hid : segment id = some shm) :
    Orderly (closedKernel k shm) (Function.update segment id none) := by
  refine ⟨?_, ?_, ?_⟩
  · intro j shm₁ hj
    -- The address that is unmapped is not this client's.
    obtain ⟨hji, hj⟩ := Table.update_none_eq_some hj
    refine (h.mapped j shm₁ hj).of_mappingAt fun a ha => closedKernel_mappingAt fun hs => ?_
    exact hji (h.apart j id shm₁ shm hj hid (ha.trans hs.symm))
  · intro j shm₁ hj
    rw [closedKernel_objects]
    exact h.opened j shm₁ (Table.update_none_eq_some hj).2
  · intro i j shm₁ shm₂ hi hj he
    exact h.apart i j shm₁ shm₂ (Table.update_none_eq_some hi).2 (Table.update_none_eq_some hj).2
      he

end

/-! ## What each operation does -/

/-- Every live client has a segment, the numbers from `created` on are unused,
and the segments are in order. -/
structure Device.Sound (d : Device) : Prop where
  shared : ∀ id c, d.clients id = some c → ∃ shm, c.shm = some shm
  unused : ∀ id, d.created ≤ id → d.clients id = none
  orderly : Orderly d.kernel d.segment

theorem initial_sound (k : Kernel) : (Device.initial k).Sound :=
  ⟨nofun, fun _ _ => rfl, ⟨nofun, nofun, nofun⟩⟩

namespace Device
variable {d : Device} {env : Environment} {id : Nat} {c : LookoutVisionInferenceClient}
  {shm : SharedMemory}

theorem segment_of_live (hc : d.clients id = some c) : d.segment id = c.shm := by
  simp only [segment, hc, Option.bind_some]

theorem segment_of_absent (hc : d.clients id = none) : d.segment id = none := by
  simp only [segment, hc, Option.bind_none]

/-- Replacing one client replaces one segment. -/
theorem segment_update (k : Kernel) (n : Nat) (value : Option LookoutVisionInferenceClient) :
    Device.segment ⟨k, Function.update d.clients id value, n⟩ =
      Function.update d.segment id (value.bind LookoutVisionInferenceClient.shm) := by
  funext j
  by_cases hj : j = id
  · subst hj
    simp [segment]
  · simp [segment, hj]

/-- **The device after a construction.** -/
def constructed (d : Device) (serverSocket : String) : Device :=
  ⟨setupKernel d.kernel,
    Function.update d.clients d.created
      (some ⟨serverSocket, ⟨serverSocket⟩, ⟨⟨serverSocket⟩⟩, some (setupSegment d.kernel)⟩),
    d.created + 1⟩

@[simp] theorem segment_constructed (serverSocket : String) :
    (d.constructed serverSocket).segment =
      Function.update d.segment d.created (some (setupSegment d.kernel)) :=
  segment_update ..

theorem step_construct (hos : env.os.Succeed) (serverSocket : String) :
    device.step d ⟨.construct serverSocket, env⟩ = .ok (d.constructed serverSocket, none) := by
  simp only [device, deviceStep, LookoutVisionInferenceClient.new_shared hos]
  rfl

/-- **The device after a frame**, for a completed write. -/
def framed (d : Device) (id : Nat) (c : LookoutVisionInferenceClient) (k' : Kernel)
    (shm' : SharedMemory) : Device :=
  { d with
    kernel := k'
    clients := Function.update d.clients id (some { c with shm := some shm' }) }

@[simp] theorem segment_framed (k' : Kernel) (shm' : SharedMemory) :
    (d.framed id c k' shm').segment = Function.update d.segment id (some shm') :=
  segment_update ..

theorem step_detect (hc : d.clients id = some c) (hshm : c.shm = some shm) {buf : List UInt8}
    {k' : Kernel} {shm' : SharedMemory} (hw : writeSHM env.os d.kernel shm buf = .ok (k', shm'))
    (component : String) (width height : UInt64) :
    ∃ detection,
      device.step d ⟨.detectAnomalies id component buf width height, env⟩ =
        .ok (d.framed id c k' shm', some detection) := by
  simp only [device, deviceStep, hc,
    LookoutVisionInferenceClient.detectAnomalies_shared component width height hshm hw]
  exact ⟨_, rfl⟩

theorem step_detect_fault (hc : d.clients id = some c) (hshm : c.shm = some shm)
    {buf : List UInt8} {fault : Fault} (hw : writeSHM env.os d.kernel shm buf = .error fault)
    (component : String) (width height : UInt64) :
    device.step d ⟨.detectAnomalies id component buf width height, env⟩ = .error fault := by
  simp only [device, deviceStep, hc,
    LookoutVisionInferenceClient.detectAnomalies_fault component width height hshm hw]

/-- **The device after a destruction.** -/
def destroyed (d : Device) (id : Nat) (shm : SharedMemory) : Device :=
  { d with
    kernel := closedKernel d.kernel shm
    clients := Function.update d.clients id none }

@[simp] theorem segment_destroyed :
    (d.destroyed id shm).segment = Function.update d.segment id none :=
  segment_update ..

/-- Whoever is left, the name is unbound. -/
@[simp] theorem bound_destroyed : (d.destroyed id shm).kernel.bound shmName = none :=
  closedKernel_bound

theorem step_destroy (hc : d.clients id = some c) (hshm : c.shm = some shm) :
    device.step d ⟨.destroy id, env⟩ = .ok (d.destroyed id shm, none) := by
  simp only [device, deviceStep, hc, LookoutVisionInferenceClient.delete, hshm]
  rfl

/-- **Every operation, as a device sees it**: nothing on a client that is not
live, otherwise a construction, a completed write, or a destruction. -/
theorem step_cases (hd : d.Sound) {i : DeviceInput} (hos : i.env.os.Succeed) {d' : Device}
    {o : Option LookoutVisionInferenceClient.Detection}
    (hstep : device.step d i = .ok (d', o)) :
    d' = d ∨
    (∃ serverSocket, i.operation = .construct serverSocket ∧ d' = d.constructed serverSocket) ∨
    (∃ id component buf width height c shm k' shm',
      i.operation = .detectAnomalies id component buf width height ∧ d.clients id = some c ∧
      c.shm = some shm ∧ Written d.kernel shm buf k' shm' ∧
      (buf.length ≤ shm.shmSize → buf.length ≤ (d.kernel.content shm.shmFd).length) ∧
      d' = d.framed id c k' shm') ∨
    ∃ id c shm, i.operation = .destroy id ∧ d.clients id = some c ∧ c.shm = some shm ∧
      d' = d.destroyed id shm := by
  obtain ⟨operation, env⟩ := i
  cases operation with
  | construct serverSocket =>
    rw [step_construct hos] at hstep
    exact Or.inr (Or.inl ⟨serverSocket, rfl, (Prod.mk.inj (Except.ok.inj hstep)).1.symm⟩)
  | detectAnomalies id component buf width height =>
    cases hc : d.clients id with
    | none =>
      -- Not a live client: the operation is none.
      simp only [device, deviceStep, hc] at hstep
      exact Or.inl (Prod.mk.inj (Except.ok.inj hstep)).1.symm
    | some c =>
      obtain ⟨shm, hshm⟩ := hd.shared id c hc
      have hmapped : Mapped d.kernel shm :=
        hd.orderly.mapped id shm ((segment_of_live hc).trans hshm)
      cases hw : writeSHM env.os d.kernel shm buf with
      | error fault =>
        rw [step_detect_fault hc hshm hw] at hstep
        cases hstep
      | ok r =>
        obtain ⟨k', shm'⟩ := r
        obtain ⟨detection, hdetect⟩ := step_detect hc hshm hw component width height
        rw [hdetect] at hstep
        obtain ⟨hwritten, hfit⟩ := writeSHM_written hos hmapped hw
        exact Or.inr (Or.inr (Or.inl ⟨id, component, buf, width, height, c, shm, k', shm', rfl,
          hc, hshm, hwritten, hfit, (Prod.mk.inj (Except.ok.inj hstep)).1.symm⟩))
  | destroy id =>
    cases hc : d.clients id with
    | none =>
      simp only [device, deviceStep, hc] at hstep
      exact Or.inl (Prod.mk.inj (Except.ok.inj hstep)).1.symm
    | some c =>
      obtain ⟨shm, hshm⟩ := hd.shared id c hc
      rw [step_destroy hc hshm] at hstep
      exact Or.inr (Or.inr (Or.inr ⟨id, c, shm, rfl, hc, hshm,
        (Prod.mk.inj (Except.ok.inj hstep)).1.symm⟩))

/-- One client changes, with its segment if it stays. -/
theorem Sound.update (hd : d.Sound) {k' : Kernel} {n : Nat}
    {value : Option LookoutVisionInferenceClient} (hn : d.created ≤ n) (hid : id < n)
    (hvalue : ∀ c, value = some c → ∃ shm, c.shm = some shm)
    (ho : Orderly k' (Function.update d.segment id
      (value.bind LookoutVisionInferenceClient.shm))) :
    Device.Sound ⟨k', Function.update d.clients id value, n⟩ where
  shared := by
    intro j c hj
    rcases Table.update_eq_some hj with ⟨-, hnew⟩ | ⟨-, hold⟩
    · exact hvalue c hnew
    · exact hd.shared j c hold
  unused := by
    intro j hj
    have hlt : n ≤ j := hj
    have hji : j ≠ id := by omega
    simp only [Function.update_of_ne hji]
    exact hd.unused j (by omega)
  orderly := by
    rw [segment_update]
    exact ho

theorem Sound.lt_created (hd : d.Sound) (hc : d.clients id = some c) : id < d.created := by
  by_contra hle
  rw [hd.unused id (by omega)] at hc
  cases hc

theorem Sound.framed (hd : d.Sound) (hc : d.clients id = some c) (hshm : c.shm = some shm)
    {buf : List UInt8} {k' : Kernel} {shm' : SharedMemory}
    (hw : Written d.kernel shm buf k' shm') : (d.framed id c k' shm').Sound := by
  refine hd.update (Nat.le_refl _) (hd.lt_created hc) ?_
    (hd.orderly.write ((segment_of_live hc).trans hshm) hw)
  rintro c ⟨⟩
  exact ⟨_, rfl⟩

/-- **One operation keeps the device sound.** -/
theorem step_sound (hd : d.Sound) {i : DeviceInput} (hos : i.env.os.Succeed) {d' : Device}
    {o : Option LookoutVisionInferenceClient.Detection}
    (hstep : device.step d i = .ok (d', o)) : d'.Sound := by
  rcases step_cases hd hos hstep with rfl | ⟨serverSocket, -, rfl⟩ |
    ⟨id, _, _, _, _, c, shm, k', shm', -, hc, hshm, hwritten, -, rfl⟩ |
    ⟨id, c, shm, -, hc, hshm, rfl⟩
  · exact hd
  · refine hd.update (Nat.le_succ _) (Nat.lt_succ_self _) ?_
      (hd.orderly.construct d.created)
    rintro c ⟨⟩
    exact ⟨_, rfl⟩
  · exact hd.framed hc hshm hwritten
  · exact hd.update (Nat.le_refl _) (hd.lt_created hc) nofun
      (hd.orderly.destroy ((segment_of_live hc).trans hshm))

end Device
end LookoutVision
