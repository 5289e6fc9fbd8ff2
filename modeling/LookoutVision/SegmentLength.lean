import LookoutVision.Device

/-!
# The length of the segment and the clients on it

A client takes the object it has mapped to be at least `shm_size` bytes long and
copies frames of that size without looking.  But the object is the other
clients' too, and `setupSHM` and a growing `writeSHM` set its length from their
own `shm_size` alone.  So the property that no object is shorter than a client
on it believes (`Covered`) survives exactly the runs in which a client is
constructed, or grows its frame, only when no other client on the object is
larger (`covered_iff_spares`).
-/

namespace LookoutVision

/-- The object every live client has mapped is as long as the client
believes. -/
def Covered (d : Device) : Prop :=
  ∀ id shm, d.segment id = some shm → shm.shmSize ≤ (d.kernel.content shm.shmFd).length

/-- No operation makes the segment shorter than some other client on it
believes: a client is constructed only when none on the named object has an
`shm_size` above the initial one, and a frame larger than its client's `shm_size`
is not smaller than that of any other client on the same object. -/
def SparesLonger (d : Device) (i : DeviceInput) : Prop :=
  match i.operation with
  | .construct _ => ∀ id shm, d.segment id = some shm →
      d.kernel.bound shmName = some shm.shmFd → shm.shmSize ≤ initialShmSize
  | .detectAnomalies id _ buf _ _ => ∀ shm, d.segment id = some shm →
      shm.shmSize < buf.length → ∀ j shm', j ≠ id → d.segment j = some shm' →
        shm'.shmFd = shm.shmFd → shm'.shmSize ≤ buf.length
  | .destroy _ => True

section
variable {d : Device} {env : Environment}

/-- **A construction** resets the length of the named object. -/
theorem covered_constructed_iff (hd : d.Sound) (hc : Covered d) (serverSocket : String) :
    Covered (d.constructed serverSocket) ↔
      SparesLonger d ⟨.construct serverSocket, env⟩ := by
  have hnew : d.segment d.created = none :=
    Device.segment_of_absent (hd.unused d.created (Nat.le_refl _))
  have hnamed : ∀ id shm, d.segment id = some shm →
      ((setupSegment d.kernel).shmFd = shm.shmFd ↔
        d.kernel.bound shmName = some shm.shmFd) := fun id shm hid =>
    Posix.Kernel.shmOpen_eq_iff (hd.orderly.opened id shm hid)
  have hold : ∀ id shm, d.segment id = some shm →
      (d.constructed serverSocket).segment id = some shm := by
    intro id shm hid
    have hne : id ≠ d.created := by
      rintro rfl
      rw [hnew] at hid
      cases hid
    rw [Device.segment_constructed, Function.update_of_ne hne]
    exact hid
  constructor
  · intro hcovered id shm hid hbound
    have hlen := hcovered id shm (hold id shm hid)
    have hfd := (hnamed id shm hid).mpr hbound
    calc shm.shmSize ≤ ((setupKernel d.kernel).content shm.shmFd).length := hlen
      _ = initialShmSize := by rw [← hfd]; exact length_setupKernel_self
  · intro hspares id shm hid
    rw [Device.segment_constructed] at hid
    rcases Table.update_eq_some hid with ⟨rfl, ⟨⟩⟩ | ⟨-, hid⟩
    · exact Nat.le_of_eq (length_setupKernel_self (k := d.kernel)).symm
    · by_cases hfd : (setupSegment d.kernel).shmFd = shm.shmFd
      · -- On the named object, which now has the initial length.
        have hle := hspares id shm hid ((hnamed id shm hid).mp hfd)
        calc shm.shmSize ≤ initialShmSize := hle
          _ = ((setupKernel d.kernel).content shm.shmFd).length := by
            rw [← hfd]; exact length_setupKernel_self.symm
      · -- On an object that lost the name: its length stays.
        have hkept : (setupKernel d.kernel).content shm.shmFd = d.kernel.content shm.shmFd :=
          setupKernel_content_of_ne (hd.orderly.opened id shm hid) (Ne.symm hfd)
        have hlen := hc id shm hid
        rw [← hkept] at hlen
        exact hlen

/-- **A completed write** resets the length of the client's object when it
grows. -/
theorem covered_framed_iff {id : Nat} {c : LookoutVisionInferenceClient} {shm shm' : SharedMemory}
    {buf : List UInt8} {k' : Kernel} {component : String} {width height : UInt64}
    (hc : Covered d) (hlive : d.clients id = some c) (hshm : c.shm = some shm)
    (hw : Written d.kernel shm buf k' shm')
    (hfit : buf.length ≤ shm.shmSize → buf.length ≤ (d.kernel.content shm.shmFd).length) :
    Covered (d.framed id c k' shm') ↔
      SparesLonger d ⟨.detectAnomalies id component buf width height, env⟩ := by
  have hid : d.segment id = some shm := (Device.segment_of_live hlive).trans hshm
  have hlen : (k'.content shm.shmFd).length =
      if shm.shmSize < buf.length then buf.length else (d.kernel.content shm.shmFd).length := by
    rw [hw.content]
    by_cases hgrow : shm.shmSize < buf.length
    · rw [if_pos hgrow, if_pos hgrow]
    · rw [if_neg hgrow, if_neg hgrow]
      exact Posix.length_overwrite (hfit (by omega))
  constructor
  · intro hcovered shm₁ hid₁ hgrow j shm₂ hj hseg hfd
    obtain rfl : shm = shm₁ := Option.some.inj (hid.symm.trans hid₁)
    have hle := hcovered j shm₂ (by
      rw [Device.segment_framed, Function.update_of_ne hj]
      exact hseg)
    rw [hfd] at hle
    calc shm₂.shmSize ≤ (k'.content shm.shmFd).length := hle
      _ = buf.length := by rw [hlen, if_pos hgrow]
  · intro hspares j shm₂ hj
    rw [Device.segment_framed] at hj
    show shm₂.shmSize ≤ (k'.content shm₂.shmFd).length
    rcases Table.update_eq_some hj with ⟨rfl, ⟨⟩⟩ | ⟨hji, hj⟩
    · rw [hw.fd, hlen, hw.size]
      by_cases hgrow : shm.shmSize < buf.length
      · exact Nat.le_of_eq (by rw [if_pos hgrow, if_pos hgrow])
      · rw [if_neg hgrow, if_neg hgrow]
        exact hc j shm hid
    · by_cases hfd : shm₂.shmFd = shm.shmFd
      · rw [hfd, hlen]
        by_cases hgrow : shm.shmSize < buf.length
        · rw [if_pos hgrow]
          exact hspares shm hid hgrow j shm₂ hji hj hfd
        · rw [if_neg hgrow, ← hfd]
          exact hc j shm₂ hj
      · rw [hw.others shm₂.shmFd hfd]
        exact hc j shm₂ hj

/-- **A destruction** changes no length. -/
theorem covered_destroyed {id : Nat} {shm : SharedMemory} (hc : Covered d) :
    Covered (d.destroyed id shm) := by
  intro j shm₁ hj
  rw [Device.segment_destroyed] at hj
  have hsame : (d.destroyed id shm).kernel.content = d.kernel.content := closedKernel_content
  rw [hsame]
  exact hc j shm₁ (Table.update_none_eq_some hj).2

/-- **One operation** completes and keeps every client covered exactly when it
spares the longer ones. -/
theorem covered_step_iff {i : DeviceInput} (hd : d.Sound) (hc : Covered d)
    (hos : i.env.os.Succeed) :
    SparesLonger d i ↔ ∃ d' o, device.step d i = .ok (d', o) ∧ Covered d' := by
  obtain ⟨operation, env⟩ := i
  cases operation with
  | construct serverSocket =>
    rw [← covered_constructed_iff hd hc]
    constructor
    · exact fun h => ⟨_, _, Device.step_construct hos serverSocket, h⟩
    · rintro ⟨d', o, hstep, h⟩
      rw [Device.step_construct hos] at hstep
      obtain ⟨rfl, -⟩ := Prod.mk.inj (Except.ok.inj hstep)
      exact h
  | detectAnomalies id component buf width height =>
    cases hlive : d.clients id with
    | none =>
      -- Nothing happens, and there is no segment for `SparesLonger` to speak of.
      refine ⟨fun _ => ⟨d, none, by simp only [device, deviceStep, hlive], hc⟩, fun _ => ?_⟩
      intro shm hid
      rw [Device.segment_of_absent hlive] at hid
      cases hid
    | some c =>
      obtain ⟨shm, hshm⟩ := hd.shared id c hlive
      have hid : d.segment id = some shm := (Device.segment_of_live hlive).trans hshm
      have hmapped := hd.orderly.mapped id shm hid
      -- A covered client's write cannot fault, whether it grows or fits.
      have hcase : shm.shmSize < buf.length ∨
          buf.length ≤ (d.kernel.content shm.shmFd).length := by
        have := hc id shm hid
        omega
      obtain ⟨k', shm', hwrite⟩ := (writeSHM_ok_iff hos hmapped).mpr hcase
      obtain ⟨hw, hfit⟩ := writeSHM_written hos hmapped hwrite
      obtain ⟨detection, hstep⟩ := Device.step_detect hlive hshm hwrite component width height
      rw [← covered_framed_iff hc hlive hshm hw hfit]
      constructor
      · exact fun h => ⟨_, _, hstep, h⟩
      · rintro ⟨d', o, hstep', h⟩
        rw [hstep] at hstep'
        obtain ⟨rfl, -⟩ := Prod.mk.inj (Except.ok.inj hstep')
        exact h
  | destroy id =>
    refine ⟨fun _ => ?_, fun _ => trivial⟩
    cases hlive : d.clients id with
    | none => exact ⟨d, none, by simp only [device, deviceStep, hlive], hc⟩
    | some c =>
      obtain ⟨shm, hshm⟩ := hd.shared id c hlive
      exact ⟨_, _, Device.step_destroy hlive hshm, covered_destroyed hc⟩

end

/-- **No client writes past the end of the segment**, and every `memcpy` stays
inside it, along exactly the runs whose operations spare the longer clients;
from whatever the kernel held before. -/
theorem covered_iff_spares (k : Kernel) (is : List DeviceInput)
    (his : ∀ i ∈ is, i.env.os.Succeed) :
    device.Always (fun _ d => Covered d) (Device.initial k) is ↔
      device.Guarded (fun _ d i => SparesLonger d i) (Device.initial k) is :=
  Machine.always_iff_guarded (J := fun _ d => d.Sound) (initial_sound k) nofun
    (fun _ _ _ _ _ hd hos hstep => Device.step_sound hd hos hstep)
    (fun _ _ _ hd hc hos => covered_step_iff hd hc hos) his

/-! ## A client that did nothing wrong -/

/-- One byte more than the initial segment. -/
def longFrame : List UInt8 := List.replicate (initialShmSize + 1) 0

theorem length_longFrame : longFrame.length = initialShmSize + 1 := List.length_replicate

/-- A client just constructed has to grow the segment for it. -/
theorem longFrame_grows (k : Kernel) : (setupSegment k).shmSize < longFrame.length := by
  rw [length_longFrame]
  exact Nat.lt_succ_self _

def construction : DeviceInput := ⟨.construct "0.0.0.0:50051", .steady fun _ _ => true⟩

def longDetection : DeviceInput :=
  ⟨.detectAnomalies 0 "SampleModel" longFrame 1 1, .steady fun _ _ => true⟩

/-- A client that grows the segment, and a second one. -/
theorem covered_iff_spares_sample :
    device.Always (fun _ d => Covered d) (Device.initial Posix.Kernel.empty)
        [construction, longDetection, construction] ↔
      device.Guarded (fun _ d i => SparesLonger d i) (Device.initial Posix.Kernel.empty)
        [construction, longDetection, construction] := by
  have hos : (Environment.steady fun _ _ => true).os.Succeed := by decide
  apply covered_iff_spares Posix.Kernel.empty [construction, longDetection, construction]
  simp only [List.forall_mem_cons]
  exact ⟨hos, hos, hos, nofun⟩

/-- **A second client cuts the segment of the first**: the first one's next
frame, no longer than its last, is a bus error. -/
theorem second_client_cuts_segment :
    ∃ d h, device.run (Device.initial Posix.Kernel.empty)
        [construction, longDetection, construction] = .ok (d, h) ∧
      ¬ Covered d ∧ device.step d longDetection = .error (.access .bus) := by
  have hos : (Environment.steady fun _ _ => true).os.Succeed := by decide
  let d₀ := Device.initial Posix.Kernel.empty
  let d₁ := d₀.constructed "0.0.0.0:50051"
  have hstep₁ : device.step d₀ construction = .ok (d₁, none) := Device.step_construct hos _
  have hd₁ : d₁.Sound := Device.step_sound (initial_sound _) hos hstep₁
  -- The first client grows the segment.
  let shm := setupSegment d₀.kernel
  have hgrow : shm.shmSize < longFrame.length := longFrame_grows d₀.kernel
  have hlive : d₁.clients 0 =
      some ⟨"0.0.0.0:50051", ⟨"0.0.0.0:50051"⟩, ⟨⟨"0.0.0.0:50051"⟩⟩, some shm⟩ := rfl
  let shm' : SharedMemory := ⟨longFrame.length, shm.shmFd, some d₁.kernel.addresses⟩
  let k₂ := grownKernel d₁.kernel shm.shmFd longFrame
  have hwrite : writeSHM (Environment.steady fun _ _ => true).os d₁.kernel shm longFrame =
      .ok (k₂, shm') := writeSHM_grow hos hgrow
  obtain ⟨detection, hstep₂⟩ := Device.step_detect hlive rfl hwrite "SampleModel" 1 1
  let d₂ := d₁.framed 0
    ⟨"0.0.0.0:50051", ⟨"0.0.0.0:50051"⟩, ⟨⟨"0.0.0.0:50051"⟩⟩, some shm⟩ k₂ shm'
  have hd₂ : d₂.Sound := Device.step_sound hd₁ hos hstep₂
  -- The second one resets it to the initial size.
  let d₃ := d₂.constructed "0.0.0.0:50051"
  have hstep₃ : device.step d₂ construction = .ok (d₃, none) := Device.step_construct hos _
  have hd₃ : d₃.Sound := Device.step_sound hd₂ hos hstep₃
  have hseg : d₃.segment 0 = some shm' := rfl
  have hbound : d₂.kernel.bound shmName = some shm.shmFd := setupKernel_bound (k := d₀.kernel)
  have hfd : (setupSegment d₂.kernel).shmFd = shm.shmFd := by
    simp only [setupSegment, Posix.Kernel.shmOpen_of_bound hbound]
  have hlen : (d₃.kernel.content shm'.shmFd).length = initialShmSize := by
    have h := length_setupKernel_self (k := d₂.kernel)
    rwa [hfd] at h
  have hshort : (d₃.kernel.content shm'.shmFd).length < longFrame.length := by
    rw [hlen, length_longFrame]
    exact Nat.lt_succ_self _
  refine ⟨d₃, _, Machine.run_snoc_ok (Machine.run_snoc_ok (Machine.run_one hstep₁) hstep₂) hstep₃,
    fun hcovered => ?_, ?_⟩
  · exact absurd (hcovered 0 shm' hseg) (Nat.not_le.mpr hshort)
  · exact Device.step_detect_fault rfl rfl
      (writeSHM_bus (hd₃.orderly.mapped 0 shm' hseg) (Nat.le_refl _) hshort) "SampleModel" 1 1

end LookoutVision
