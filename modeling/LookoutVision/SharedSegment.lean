import LookoutVision.InferenceClient

/-!
# Writing a frame to the shared segment

What `setupSHM` and `writeSHM` do to the kernel when the system calls succeed,
for a client whose mapping is intact (`Mapped`).  Nothing is assumed about other
clients: they may have resized the object meanwhile.  A frame larger than
`shm_size` makes the object exactly that frame (`writeSHM_grow`).  A frame that
fits `shm_size` overwrites the beginning of the object (`writeSHM_fit`), unless
the object has become shorter than the frame, when the copy is a bus error
(`writeSHM_bus`).

A client with the name to itself (`Sole`) never meets the last case, so its
frames are found by the agent byte for byte (`writeSHM_sole`).
-/

namespace LookoutVision
open Posix

variable {os : Outcomes} {k : Kernel} {shm : SharedMemory} {buf : List UInt8}

/-- `shm_data` is a live mapping, on the open object, of `shm_size` bytes. -/
def Mapped (k : Kernel) (shm : SharedMemory) : Prop :=
  ∃ a, shm.shmData = some a ∧ k.mappingAt a = some ⟨a, shm.shmFd, shm.shmSize⟩

/-- The address of an intact mapping was handed out. -/
theorem Mapped.lt (h : Mapped k shm) {a : Nat} (ha : shm.shmData = some a) : a < k.addresses := by
  obtain ⟨b, hb, hm⟩ := h
  obtain rfl : a = b := Option.some.inj (ha.symm.trans hb)
  exact (Kernel.mappingAt_address hm).2.2

/-- A mapping stays intact when the kernel keeps what is mapped at its
address. -/
theorem Mapped.of_mappingAt {k' : Kernel} (h : Mapped k shm)
    (hk : ∀ a, shm.shmData = some a → k'.mappingAt a = k.mappingAt a) : Mapped k' shm := by
  obtain ⟨a, ha, hm⟩ := h
  exact ⟨a, ha, (hk a ha).trans hm⟩

/-! ## Sizing and mapping the segment -/

section MapSegment
variable {fd size : Nat}

theorem mapSegment_of_succeed (h : os.Succeed) :
    mapSegment os k fd size =
      (((k.ftruncate fd size).mmap fd size).1, ⟨size, fd, some k.addresses⟩) := by
  obtain ⟨-, ht, hm⟩ := h
  simp [mapSegment, ht, hm]

end MapSegment

/-! ## `setupSHM` -/

/-- The kernel after `setupSHM`: the named object, resized and mapped. -/
def setupKernel (k : Kernel) : Kernel :=
  (((k.shmOpen shmName).1.ftruncate (k.shmOpen shmName).2 initialShmSize).mmap
    (k.shmOpen shmName).2 initialShmSize).1

/-- The fields of the client that called it. -/
def setupSegment (k : Kernel) : SharedMemory :=
  ⟨initialShmSize, (k.shmOpen shmName).2, some k.addresses⟩

/-- **`setupSHM`**: the object of that name, or a new one, gets exactly the
initial size, and a mapping of that size. -/
theorem setupSHM_eq (h : os.Succeed) : setupSHM os k = .ok (setupKernel k, setupSegment k) := by
  simp only [setupSHM, h.1, if_true, mapSegment_of_succeed h, Kernel.addresses_shmOpen]
  rfl

theorem setupKernel_bound : (setupKernel k).bound shmName = some (setupSegment k).shmFd :=
  Kernel.bound_shmOpen (k := k)

theorem setupSegment_lt : (setupSegment k).shmFd < (setupKernel k).objects :=
  Kernel.shmOpen_lt (k := k)

theorem objects_le_setupKernel : k.objects ≤ (setupKernel k).objects :=
  Kernel.objects_le_shmOpen (k := k)

theorem length_setupKernel_self :
    ((setupKernel k).content (setupSegment k).shmFd).length = initialShmSize := by
  simp [setupKernel, setupSegment]

theorem setupKernel_content_of_ne {o : Nat} (ho : o < k.objects)
    (hne : o ≠ (setupSegment k).shmFd) : (setupKernel k).content o = k.content o := by
  unfold setupKernel
  change o ≠ (k.shmOpen shmName).2 at hne
  rw [Kernel.content_mmap, Kernel.content_ftruncate_of_ne hne, Kernel.content_shmOpen ho]

theorem setupKernel_mapped : Mapped (setupKernel k) (setupSegment k) := by
  have ha : ((k.shmOpen shmName).1.ftruncate (k.shmOpen shmName).2 initialShmSize).addresses =
      k.addresses := Kernel.addresses_shmOpen
  refine ⟨k.addresses, rfl, ?_⟩
  rw [← ha]
  exact Kernel.mappingAt_mmap_self

/-- Setting up another client leaves every mapping made before. -/
theorem setupKernel_mappingAt {a : Nat} (ha : a < k.addresses) :
    (setupKernel k).mappingAt a = k.mappingAt a := by
  unfold setupKernel
  rw [Kernel.mappingAt_mmap_of_lt (by simpa using ha), Kernel.mappingAt_ftruncate,
    Kernel.mappingAt_shmOpen]

/-! ## `writeSHM` -/

theorem copyToSegment_eq (h : Mapped k shm) (hlen : buf.length ≤ shm.shmSize)
    (hobj : buf.length ≤ (k.content shm.shmFd).length) :
    copyToSegment k shm buf =
      .ok (k.setContent shm.shmFd (overwrite (k.content shm.shmFd) buf), shm) := by
  obtain ⟨a, ha, hm⟩ := h
  simp only [copyToSegment, ha, Kernel.store_eq hm hlen hobj]

/-- The kernel after a growing write: the object is resized, mapped afresh, and
holds the frame. -/
def grownKernel (k : Kernel) (fd : Nat) (buf : List UInt8) : Kernel :=
  ((k.ftruncate fd buf.length).mmap fd buf.length).1.setContent fd buf

/-- **A frame larger than `shm_size`** becomes the whole object, behind a new
mapping of its own length. -/
theorem writeSHM_grow (h : os.Succeed) (hgrow : shm.shmSize < buf.length) :
    writeSHM os k shm buf =
      .ok (grownKernel k shm.shmFd buf, ⟨buf.length, shm.shmFd, some k.addresses⟩) := by
  have hm : Mapped ((k.ftruncate shm.shmFd buf.length).mmap shm.shmFd buf.length).1
      ⟨buf.length, shm.shmFd, some k.addresses⟩ :=
    ⟨k.addresses, rfl, Kernel.mappingAt_mmap_self (k := k.ftruncate shm.shmFd buf.length)⟩
  have hlen : (((k.ftruncate shm.shmFd buf.length).mmap shm.shmFd buf.length).1.content
      shm.shmFd).length = buf.length := by simp
  have hcopy := copyToSegment_eq hm (Nat.le_refl buf.length) (Nat.le_of_eq hlen.symm)
  rw [overwrite_of_length_le (Nat.le_of_eq hlen)] at hcopy
  simp only [writeSHM, hgrow, if_true, mapSegment_of_succeed h]
  exact hcopy

/-- **A frame that fits** both `shm_size` and the object overwrites the object's
beginning. -/
theorem writeSHM_fit (h : Mapped k shm) (hfit : buf.length ≤ shm.shmSize)
    (hobj : buf.length ≤ (k.content shm.shmFd).length) :
    writeSHM os k shm buf =
      .ok (k.setContent shm.shmFd (overwrite (k.content shm.shmFd) buf), shm) := by
  simp only [writeSHM, Nat.not_lt.mpr hfit, if_false]
  exact copyToSegment_eq h hfit hobj

/-- **A frame that fits `shm_size` but not the object** is a bus error: somebody
else made the object shorter. -/
theorem writeSHM_bus (h : Mapped k shm) (hfit : buf.length ≤ shm.shmSize)
    (hobj : (k.content shm.shmFd).length < buf.length) :
    writeSHM os k shm buf = .error (.access .bus) := by
  obtain ⟨a, ha, hm⟩ := h
  have h0 : ¬ buf.length = 0 := by omega
  simp only [writeSHM, Nat.not_lt.mpr hfit, if_false, copyToSegment, Kernel.store, h0, ha,
    Option.bind_some, hm, hfit, if_true, Nat.not_le.mpr hobj]

/-- What a completed write did, in either case. -/
theorem writeSHM_inv {r : Kernel × SharedMemory} (hos : os.Succeed) (h : Mapped k shm)
    (hw : writeSHM os k shm buf = .ok r) :
    (shm.shmSize < buf.length ∧
      r = (grownKernel k shm.shmFd buf, ⟨buf.length, shm.shmFd, some k.addresses⟩)) ∨
    (buf.length ≤ shm.shmSize ∧ buf.length ≤ (k.content shm.shmFd).length ∧
      r = (k.setContent shm.shmFd (overwrite (k.content shm.shmFd) buf), shm)) := by
  rcases Nat.lt_or_ge shm.shmSize buf.length with hgrow | hfit
  · rw [writeSHM_grow hos hgrow] at hw
    exact Or.inl ⟨hgrow, (Except.ok.inj hw).symm⟩
  · rcases Nat.lt_or_ge (k.content shm.shmFd).length buf.length with hobj | hobj
    · rw [writeSHM_bus h hfit hobj] at hw
      cases hw
    · rw [writeSHM_fit h hfit hobj] at hw
      exact Or.inr ⟨hfit, hobj, (Except.ok.inj hw).symm⟩

section Grown
variable {fd : Nat}

@[simp] theorem grownKernel_content_self : (grownKernel k fd buf).content fd = buf := by
  simp [grownKernel]

theorem grownKernel_content_of_ne {o : Nat} (ho : o ≠ fd) :
    (grownKernel k fd buf).content o = k.content o := by
  unfold grownKernel
  rw [Kernel.content_setContent_of_ne ho, Kernel.content_mmap, Kernel.content_ftruncate_of_ne ho]

theorem grownKernel_mappingAt_self :
    (grownKernel k fd buf).mappingAt k.addresses = some ⟨k.addresses, fd, buf.length⟩ :=
  Kernel.mappingAt_mmap_self (k := k.ftruncate fd buf.length)

theorem grownKernel_mappingAt_of_lt {a : Nat} (ha : a < k.addresses) :
    (grownKernel k fd buf).mappingAt a = k.mappingAt a :=
  Kernel.mappingAt_mmap_of_lt (k := k.ftruncate fd buf.length) ha

theorem grownKernel_mapped :
    Mapped (grownKernel k fd buf) ⟨buf.length, fd, some k.addresses⟩ :=
  ⟨k.addresses, rfl, grownKernel_mappingAt_self⟩

end Grown

/-- **What a completed write leaves**, whatever other clients did to the object
before.  Their mappings and other objects are as they were; the client's own
mapping covers its new `shm_size`. -/
structure Written (k : Kernel) (shm : SharedMemory) (buf : List UInt8) (k' : Kernel)
    (shm' : SharedMemory) : Prop where
  bound : k'.bound = k.bound
  objects : k'.objects = k.objects
  fd : shm'.shmFd = shm.shmFd
  mapped : Mapped k' shm'
  address : shm'.shmData = shm.shmData ∨ shm'.shmData = some k.addresses
  mappingAt : ∀ a, a < k.addresses → k'.mappingAt a = k.mappingAt a
  others : ∀ o, o ≠ shm.shmFd → k'.content o = k.content o
  size : shm'.shmSize = if shm.shmSize < buf.length then buf.length else shm.shmSize
  content : k'.content shm.shmFd =
    if shm.shmSize < buf.length then buf else overwrite (k.content shm.shmFd) buf

theorem writeSHM_written (hos : os.Succeed) (h : Mapped k shm) {k' : Kernel}
    {shm' : SharedMemory} (hw : writeSHM os k shm buf = .ok (k', shm')) :
    Written k shm buf k' shm' ∧
      (buf.length ≤ shm.shmSize → buf.length ≤ (k.content shm.shmFd).length) := by
  rcases writeSHM_inv hos h hw with ⟨hgrow, he⟩ | ⟨hfit, hobj, he⟩
  · obtain ⟨rfl, rfl⟩ := Prod.mk.inj he
    refine ⟨⟨rfl, rfl, rfl, grownKernel_mapped, Or.inr rfl, fun a => grownKernel_mappingAt_of_lt,
      fun o => grownKernel_content_of_ne, ?_, ?_⟩, fun hfit => by omega⟩
    · rw [if_pos hgrow]
    · rw [if_pos hgrow]
      exact grownKernel_content_self
  · have hnot : ¬ shm.shmSize < buf.length := Nat.not_lt.mpr hfit
    obtain ⟨rfl, rfl⟩ := Prod.mk.inj he
    refine ⟨⟨rfl, rfl, rfl, h, Or.inl rfl, fun _ _ => rfl,
      fun o => Kernel.content_setContent_of_ne, ?_, ?_⟩, fun _ => hobj⟩
    · rw [if_neg hnot]
    · rw [if_neg hnot]
      exact Kernel.content_setContent_self

/-- A write completes exactly when it grows the object or fits it. -/
theorem writeSHM_ok_iff (hos : os.Succeed) (h : Mapped k shm) :
    (∃ k' shm', writeSHM os k shm buf = .ok (k', shm')) ↔
      shm.shmSize < buf.length ∨ buf.length ≤ (k.content shm.shmFd).length := by
  constructor
  · rintro ⟨k', shm', hw⟩
    have hfit := (writeSHM_written hos h hw).2
    by_cases hgrow : shm.shmSize < buf.length
    · exact Or.inl hgrow
    · exact Or.inr (hfit (by omega))
  · rintro hcase
    by_cases hgrow : shm.shmSize < buf.length
    · exact ⟨_, _, writeSHM_grow hos hgrow⟩
    · have hobj : buf.length ≤ (k.content shm.shmFd).length := hcase.resolve_left hgrow
      exact ⟨_, _, writeSHM_fit h (by omega) hobj⟩

/-! ## A client with the segment to itself -/

/-- The client's mapping is intact, the name is bound to its object, and the
object is as long as the client believes. -/
structure Sole (k : Kernel) (shm : SharedMemory) : Prop where
  mapped : Mapped k shm
  named : k.bound shmName = some shm.shmFd
  covered : shm.shmSize ≤ (k.content shm.shmFd).length

/-- **`setupSHM`, whatever segment of that name was left over.** -/
theorem setupSHM_sole (h : os.Succeed) :
    ∃ k' shm, setupSHM os k = .ok (k', shm) ∧ Sole k' shm := by
  refine ⟨_, _, setupSHM_eq h, setupKernel_mapped, setupKernel_bound, ?_⟩
  exact Nat.le_of_eq (length_setupKernel_self (k := k)).symm

/-- **A lone client's frame is found by the agent byte for byte**, and the
client stays alone. -/
theorem writeSHM_sole (hos : os.Succeed) (h : Sole k shm) (buf : List UInt8) :
    ∃ k' shm', writeSHM os k shm buf = .ok (k', shm') ∧ Sole k' shm' ∧
      k'.read shmName 0 buf.length = some buf := by
  rcases Nat.lt_or_ge shm.shmSize buf.length with hgrow | hfit
  · refine ⟨_, _, writeSHM_grow hos hgrow, ⟨grownKernel_mapped, h.named, ?_⟩, ?_⟩
    · exact Nat.le_of_eq (congrArg List.length grownKernel_content_self).symm
    · refine (Kernel.read_eq_some_iff (k := grownKernel k shm.shmFd buf) h.named).mpr ?_
      exact ⟨[], by rw [List.append_nil, grownKernel_content_self]⟩
  · have hobj := Nat.le_trans hfit h.covered
    refine ⟨_, _, writeSHM_fit h.mapped hfit hobj, ⟨h.mapped, h.named, ?_⟩, ?_⟩
    · rw [Kernel.content_setContent_self, length_overwrite hobj]
      exact h.covered
    · have hnamed : (k.setContent shm.shmFd (overwrite (k.content shm.shmFd) buf)).bound shmName =
          some shm.shmFd := h.named
      refine (Kernel.read_eq_some_iff hnamed).mpr ?_
      rw [Kernel.content_setContent_self]
      exact begins_overwrite (List.prefix_refl buf)

/-! ## The request of a frame -/

/-- The request for a frame whose bytes are passed as `data`. -/
def frameRequest (modelComponent : String) (width height : UInt64) (data : BitmapData) :
    DetectAnomaliesRequest :=
  ⟨modelComponent, ⟨width.toUInt32.toInt32, height.toUInt32.toInt32, data⟩⟩

/-- The handle of a frame of `size` bytes. -/
def frameHandle (size : Nat) : BitmapData := .sharedMemoryHandle ⟨shmName, size, 0⟩

namespace LookoutVisionInferenceClient
variable {c : LookoutVisionInferenceClient} {env : Environment} (component : String)
  (width height : UInt64)

/-- A client of the shared-memory build, constructed. -/
theorem new_shared (h : os.Succeed) (k : Kernel) (serverSocket : String) :
    new .sharedMemory os k serverSocket = .ok (setupKernel k,
      ⟨serverSocket, ⟨serverSocket⟩, ⟨⟨serverSocket⟩⟩, some (setupSegment k)⟩) := by
  simp only [new, setupSHM_eq h]

/-- What a `DetectAnomalies` call leaves once its request is made. -/
def sent (c : LookoutVisionInferenceClient) (env : Environment) (k : Kernel)
    (request : DetectAnomaliesRequest) : Detection :=
  ⟨k, c, request,
    ⟨c.stub.channel.target,
      .detectAnomalies request (env.detectAnomalies c.stub.channel.target request)⟩,
    detectAnomaliesResult env.rodata (env.detectAnomalies c.stub.channel.target request)⟩

theorem detectAnomalies_default (hshm : c.shm = none) :
    c.detectAnomalies env k component buf width height =
      .ok (c.sent env k (frameRequest component width height (.byteData buf))) := by
  simp only [detectAnomalies, prepareRequest, hshm]
  rfl

theorem prepareRequest_shared {k' : Kernel} {shm' : SharedMemory} (hshm : c.shm = some shm)
    (hw : writeSHM os k shm buf = .ok (k', shm')) :
    c.prepareRequest os k component buf width height =
      .ok (k', { c with shm := some shm' },
        frameRequest component width height (frameHandle buf.length)) := by
  simp only [prepareRequest, hshm, hw]
  rfl

/-- A write that faults leaves no request. -/
theorem prepareRequest_fault {fault : Fault} (hshm : c.shm = some shm)
    (hw : writeSHM os k shm buf = .error fault) :
    c.prepareRequest os k component buf width height = .error fault := by
  simp only [prepareRequest, hshm, hw]

theorem detectAnomalies_shared {k' : Kernel} {shm' : SharedMemory} (hshm : c.shm = some shm)
    (hw : writeSHM env.os k shm buf = .ok (k', shm')) :
    c.detectAnomalies env k component buf width height =
      .ok (({ c with shm := some shm' } : LookoutVisionInferenceClient).sent env k'
        (frameRequest component width height (frameHandle buf.length))) := by
  simp only [detectAnomalies, prepareRequest_shared component width height hshm hw]
  rfl

/-- A write that faults takes the call with it. -/
theorem detectAnomalies_fault {fault : Fault} (hshm : c.shm = some shm)
    (hw : writeSHM env.os k shm buf = .error fault) :
    c.detectAnomalies env k component buf width height = .error fault := by
  simp only [detectAnomalies, prepareRequest_fault component width height hshm hw]

end LookoutVisionInferenceClient
end LookoutVision
