import LookoutVision.SegmentLength
import LookoutVision.SharedFrame

/-!
# When the segment cannot be grown or mapped

Neither `setupSHM` nor `writeSHM` looks at what `ftruncate` and `mmap` return.
A growth stores the new `shm_size` first, so one that fails leaves the client
with a size its mapping or its object does not have, and goes on to copy.

`reserve` reads off the calls alone how long a frame the segment can take: what
the construction left, and then what the last growth asked for.  A frame is
treated as it ought to be exactly when it fits the reserve, or grows the segment
and both calls succeed (`growth_failure_iff`).
-/

namespace LookoutVision
open Posix

/-! ## What a frame ought to find -/

/-- Where `writeSHM` copies a frame to: the kernel and the client's fields at the
copy. -/
def copyTarget (os : Outcomes) (k : Kernel) (shm : SharedMemory) (buf : List UInt8) :
    Kernel × SharedMemory :=
  if shm.shmSize < buf.length then mapSegment os k shm.shmFd buf.length else (k, shm)

theorem writeSHM_eq_copy (os : Outcomes) (k : Kernel) (shm : SharedMemory) (buf : List UInt8) :
    writeSHM os k shm buf =
      copyToSegment (copyTarget os k shm buf).1 (copyTarget os k shm buf).2 buf := by
  unfold writeSHM copyTarget
  by_cases hgrow : shm.shmSize < buf.length
  · rw [if_pos hgrow, if_pos hgrow]
  · rw [if_neg hgrow, if_neg hgrow]

/-- `shm_data` is a live mapping of at least `size` bytes, backed by as many of
the client's object. -/
def Backed (k : Kernel) (shm : SharedMemory) (size : Nat) : Prop :=
  ∃ a m, shm.shmData = some a ∧ k.mappingAt a = some m ∧ m.object = shm.shmFd ∧
    size ≤ m.length ∧ size ≤ (k.content m.object).length

/-- A `DetectAnomalies` call whose RPC names the frame, byte for byte. -/
def SendsFrame (c : LookoutVisionInferenceClient) (k : Kernel) (component : String)
    (buf : List UInt8) (width height : UInt64) (env : Environment) : Prop :=
  ∃ d request outcome, c.detectAnomalies env k component buf width height = .ok d ∧
    d.call.rpc = .detectAnomalies request outcome ∧ HandleHolds d.kernel request buf

/-- A call whose growth failed: it returns a `FAILED` result, `shm_size` and
`shm_data` are what they were, and a frame that fits is still sent. -/
def Recovers (shm : SharedMemory) (d : LookoutVisionInferenceClient.Detection) : Prop :=
  d.result.resultStatus = .failed ∧
    (∃ shm', d.client.shm = some shm' ∧ shm'.shmSize = shm.shmSize ∧
      shm'.shmData = shm.shmData) ∧
    ∀ component buf width height env, buf.length ≤ shm.shmSize →
      SendsFrame d.client d.kernel component buf width height env

/-- **What is asked of one call.**  A frame is copied to memory that is there, and
if the growth it needs fails, the call recovers. -/
def TreatsFailure (s : ClientState) (i : ClientInput) : Prop :=
  match i.call with
  | .setServerSocket _ => True
  | .detectAnomalies component buf width height => ∀ shm, s.client.shm = some shm →
      Backed (copyTarget i.env.os s.kernel shm buf).1 (copyTarget i.env.os s.kernel shm buf).2
        buf.length ∧
      (shm.shmSize < buf.length → ¬ (i.env.os.ftruncate = true ∧ i.env.os.mmap = true) →
        ∃ d, s.client.detectAnomalies i.env s.kernel component buf width height = .ok d ∧
          Recovers shm d)

/-! ## The reserve, from the calls alone -/

/-- The size the client believes in, and how long a frame the segment takes; none
where nothing is mapped. -/
structure Reserve where
  size : Nat
  usable : Option Nat
deriving DecidableEq, Repr

/-- After the construction, on an object left over with so many bytes. -/
def Reserve.setup (os : Outcomes) (leftover : Nat) : Reserve where
  size := initialShmSize
  usable := if os.mmap then some (if os.ftruncate then initialShmSize else leftover) else none

/-- The bytes of a call's frame, if it sends one. -/
def ClientInput.frame? (i : ClientInput) : Option (List UInt8) :=
  match i.call with
  | .setServerSocket _ => none
  | .detectAnomalies _ buf _ _ => some buf

/-- After a frame of so many bytes, if it grew the segment then successfully. -/
def Reserve.grow (r : Reserve) (length : Nat) : Reserve :=
  if r.size < length then ⟨length, some length⟩ else r

def Reserve.after (r : Reserve) (i : ClientInput) : Reserve :=
  match i.frame? with
  | none => r
  | some buf => r.grow buf.length

/-- A frame of so many bytes fits the reserve, or grows the segment and both calls
succeed. -/
def Reserve.Takes (r : Reserve) (os : Outcomes) (length : Nat) : Prop :=
  if r.size < length then os.ftruncate = true ∧ os.mmap = true
  else ∃ usable, r.usable = some usable ∧ length ≤ usable

/-- The condition on one call: the reserve takes its frame, if it sends one. -/
def Reserve.Admits (r : Reserve) (i : ClientInput) : Prop :=
  ∀ buf, i.frame? = some buf → r.Takes i.env.os buf.length

abbrev ClientHistory := List (ClientInput × Option LookoutVisionInferenceClient.Detection)

/-- **The reserve after a history**, of a client constructed with these outcomes
on an object of so many bytes. -/
def reserve (os : Outcomes) (leftover : Nat) (h : ClientHistory) : Reserve :=
  (h.map Prod.fst).foldl Reserve.after (.setup os leftover)

theorem reserve_snoc {os : Outcomes} {leftover : Nat} {h : ClientHistory} {i : ClientInput}
    {o : Option LookoutVisionInferenceClient.Detection} :
    reserve os leftover (h ++ [(i, o)]) = (reserve os leftover h).after i := by
  simp only [reserve, List.map_append, List.map_cons, List.map_nil, List.foldl_append,
    List.foldl_cons, List.foldl_nil]

/-! ## The reserve is what the segment has -/

/-- The client's fields and its object are as the reserve says. -/
def Reserve.Describes (r : Reserve) (k : Kernel) (shm : SharedMemory) : Prop :=
  shm.shmSize = r.size ∧
    match r.usable with
    | none => shm.shmData = none
    | some usable => Mapped k shm ∧ (k.content shm.shmFd).length = usable

section
variable {os : Outcomes} {k : Kernel} {shm : SharedMemory} {buf : List UInt8} {r : Reserve}

/-- A mapped client can take what its mapping and its object can. -/
theorem backed_of_mapped (h : Mapped k shm) (size : Nat) :
    Backed k shm size ↔ size ≤ shm.shmSize ∧ size ≤ (k.content shm.shmFd).length := by
  obtain ⟨a, ha, hm⟩ := h
  constructor
  · rintro ⟨b, m, hb, hmb, -, hlen, hobj⟩
    obtain rfl : a = b := Option.some.inj (ha.symm.trans hb)
    obtain rfl := Option.some.inj (hm.symm.trans hmb)
    exact ⟨hlen, hobj⟩
  · rintro ⟨hlen, hobj⟩
    exact ⟨a, _, ha, hm, rfl, hlen, hobj⟩

/-- A frame no longer than the believed size is backed exactly when the reserve
takes it. -/
theorem backed_iff_usable (hr : r.Describes k shm) (hfit : ¬ r.size < buf.length) :
    Backed k shm buf.length ↔ ∃ usable, r.usable = some usable ∧ buf.length ≤ usable := by
  obtain ⟨hsize, hdata⟩ := hr
  cases husable : r.usable with
  | none =>
    rw [husable] at hdata
    constructor
    · rintro ⟨a, m, ha, -⟩
      rw [show shm.shmData = none from hdata] at ha
      cases ha
    · rintro ⟨usable, h, -⟩
      cases h
  | some usable =>
    rw [husable] at hdata
    obtain ⟨hmapped, hlen⟩ := hdata
    rw [backed_of_mapped hmapped, hlen]
    constructor
    · rintro ⟨-, hle⟩
      exact ⟨usable, rfl, hle⟩
    · rintro ⟨usable', h, hle⟩
      obtain rfl := Option.some.inj h
      exact ⟨by omega, hle⟩

/-- With both calls successful a write does not depend on the third outcome. -/
theorem writeSHM_of_success (ht : os.ftruncate = true) (hm : os.mmap = true) :
    writeSHM os k shm buf = writeSHM .allSucceed k shm buf := by
  simp only [writeSHM, mapSegment, ht, hm, Outcomes.allSucceed]

/-- A successful growth is copied to memory that is there. -/
theorem backed_of_grown (ht : os.ftruncate = true) (hm : os.mmap = true)
    (hgrow : shm.shmSize < buf.length) :
    Backed (copyTarget os k shm buf).1 (copyTarget os k shm buf).2 buf.length := by
  unfold copyTarget mapSegment
  rw [if_pos hgrow, if_pos ht, if_pos hm]
  refine ⟨k.addresses, _, rfl, Kernel.mappingAt_mmap_self, rfl, Nat.le_refl _, ?_⟩
  exact Nat.le_of_eq (by simp)

/-- **A write within its rights** completes, and leaves what the reserve says. -/
theorem writeSHM_describes (hr : r.Describes k shm) (htakes : r.Takes os buf.length) :
    ∃ k' shm', writeSHM os k shm buf = .ok (k', shm') ∧
      (r.grow buf.length).Describes k' shm' := by
  obtain ⟨hsize, hdata⟩ := hr
  unfold Reserve.Takes at htakes
  unfold Reserve.grow
  by_cases hgrow : r.size < buf.length
  · rw [if_pos hgrow] at htakes
    rw [if_pos hgrow]
    obtain ⟨ht, hm⟩ := htakes
    refine ⟨_, _, (writeSHM_of_success ht hm).trans (writeSHM_grow (by decide) (by omega)), rfl,
      grownKernel_mapped, ?_⟩
    exact congrArg List.length grownKernel_content_self
  · rw [if_neg hgrow] at htakes
    rw [if_neg hgrow]
    obtain ⟨usable, husable, hle⟩ := htakes
    have hdata' := hdata
    rw [husable] at hdata'
    obtain ⟨hmapped, hlen⟩ := hdata'
    have hobj : buf.length ≤ (k.content shm.shmFd).length := by omega
    refine ⟨_, _, writeSHM_fit hmapped (by omega) hobj, hsize, ?_⟩
    rw [husable]
    refine ⟨hmapped, ?_⟩
    rw [Kernel.content_setContent_self, length_overwrite hobj]
    exact hlen

/-- A write that completes leaves the fields it copied with. -/
theorem writeSHM_fields {k' : Kernel} {shm' : SharedMemory}
    (h : writeSHM os k shm buf = .ok (k', shm')) : shm' = (copyTarget os k shm buf).2 := by
  rw [writeSHM_eq_copy] at h
  unfold copyToSegment at h
  split at h
  · cases h
  · exact (Prod.mk.inj (Except.ok.inj h)).2.symm

/-- Growing stores the new size, whether it succeeds or not. -/
theorem copyTarget_size (hgrow : shm.shmSize < buf.length) :
    (copyTarget os k shm buf).2.shmSize = buf.length := by
  unfold copyTarget mapSegment
  rw [if_pos hgrow]
  by_cases hm : os.mmap = true
  · rw [if_pos hm]
  · rw [if_neg hm]

end

section
variable {s : ClientState} {shm : SharedMemory} {component : String} {buf : List UInt8}
  {width height : UInt64} {env : Environment}

/-- A call whose frame is larger than `shm_size` never leaves `shm_size` as it
was. -/
theorem not_recovers_of_grown (hshm : s.client.shm = some shm)
    (hgrow : shm.shmSize < buf.length) {d : LookoutVisionInferenceClient.Detection}
    (hd : s.client.detectAnomalies env s.kernel component buf width height = .ok d) :
    ¬ Recovers shm d := by
  rintro ⟨-, ⟨shm', hfields, hsize, -⟩, -⟩
  cases hw : writeSHM env.os s.kernel shm buf with
  | error fault =>
    rw [LookoutVisionInferenceClient.detectAnomalies_fault component width height hshm hw] at hd
    cases hd
  | ok r =>
    obtain ⟨k', shm''⟩ := r
    rw [LookoutVisionInferenceClient.detectAnomalies_shared component width height hshm hw] at hd
    obtain rfl := Except.ok.inj hd
    obtain rfl : shm'' = shm' := Option.some.inj hfields
    rw [writeSHM_fields hw, copyTarget_size hgrow] at hsize
    omega

/-- A call whose frame grows the segment is treated as it ought to be exactly when
the growth succeeds. -/
theorem treatsFailure_grown_iff (hshm : s.client.shm = some shm)
    (hgrow : shm.shmSize < buf.length) :
    TreatsFailure s ⟨.detectAnomalies component buf width height, env⟩ ↔
      env.os.ftruncate = true ∧ env.os.mmap = true := by
  constructor
  · intro htreats
    by_contra hfailed
    obtain ⟨d, hd, hrecovers⟩ := (htreats shm hshm).2 hgrow hfailed
    exact not_recovers_of_grown hshm hgrow hd hrecovers
  · rintro ⟨ht, hm⟩ shm' hshm'
    obtain rfl : shm = shm' := Option.some.inj (hshm.symm.trans hshm')
    exact ⟨backed_of_grown ht hm hgrow, fun _ hfailed => absurd ⟨ht, hm⟩ hfailed⟩

/-- A call whose frame does not is treated so exactly when what there is takes
it. -/
theorem treatsFailure_fit_iff (hshm : s.client.shm = some shm)
    (hfit : ¬ shm.shmSize < buf.length) :
    TreatsFailure s ⟨.detectAnomalies component buf width height, env⟩ ↔
      Backed s.kernel shm buf.length := by
  have htarget : copyTarget env.os s.kernel shm buf = (s.kernel, shm) := if_neg hfit
  constructor
  · intro htreats
    have hbacked := (htreats shm hshm).1
    rw [htarget] at hbacked
    exact hbacked
  · intro hbacked shm' hshm'
    obtain rfl : shm = shm' := Option.some.inj (hshm.symm.trans hshm')
    refine ⟨?_, fun hgrow => absurd hgrow hfit⟩
    rw [htarget]
    exact hbacked

/-- **One call** is treated as it ought to be exactly when the reserve admits
it. -/
theorem treatsFailure_iff {r : Reserve} (hshm : s.client.shm = some shm)
    (hr : r.Describes s.kernel shm) (i : ClientInput) : TreatsFailure s i ↔ r.Admits i := by
  obtain ⟨call, env⟩ := i
  cases call with
  | setServerSocket socket => exact ⟨fun _ buf h => (by cases h), fun _ => trivial⟩
  | detectAnomalies component buf width height =>
    have hadmits : r.Admits ⟨.detectAnomalies component buf width height, env⟩ ↔
        r.Takes env.os buf.length :=
      ⟨fun h => h buf rfl, fun h buf' he => Option.some.inj he ▸ h⟩
    rw [hadmits]
    unfold Reserve.Takes
    by_cases hgrow : r.size < buf.length
    · rw [if_pos hgrow]
      exact treatsFailure_grown_iff hshm (by rw [hr.1]; exact hgrow)
    · rw [if_neg hgrow, ← backed_iff_usable hr hgrow]
      exact treatsFailure_fit_iff hshm (by rw [hr.1]; exact hgrow)

/-- A call the reserve admits completes, and leaves what the reserve then is. -/
theorem admits_step {r : Reserve} (hshm : s.client.shm = some shm)
    (hr : r.Describes s.kernel shm) {i : ClientInput} (hadmits : r.Admits i) :
    ∃ s' o shm', client.step s i = .ok (s', o) ∧ s'.client.shm = some shm' ∧
      (r.after i).Describes s'.kernel shm' := by
  obtain ⟨call, env⟩ := i
  cases call with
  | setServerSocket socket => exact ⟨_, none, shm, rfl, hshm, hr⟩
  | detectAnomalies component buf width height =>
    obtain ⟨k', shm', hw, hr'⟩ := writeSHM_describes hr (hadmits buf rfl)
    exact ⟨_, _, shm', client_step_detect
      (LookoutVisionInferenceClient.detectAnomalies_shared component width height hshm hw),
      rfl, hr'⟩

end

/-! ## Runs -/

/-- The bytes of the object a construction opens. -/
def leftover (k : Kernel) : Nat :=
  ((k.shmOpen shmName).1.content (k.shmOpen shmName).2).length

theorem setup_describes {os : Outcomes} (hopen : os.shmOpen = true) (k : Kernel) :
    ∃ k' shm, setupSHM os k = .ok (k', shm) ∧
      (Reserve.setup os (leftover k)).Describes k' shm := by
  refine ⟨_, _, by unfold setupSHM; rw [if_pos hopen], ?_⟩
  unfold mapSegment Reserve.setup
  by_cases hm : os.mmap = true
  · rw [if_pos hm, if_pos hm]
    refine ⟨rfl, ⟨_, rfl, Kernel.mappingAt_mmap_self⟩, ?_⟩
    show ((Kernel.mmap _ _ _).1.content _).length = _
    rw [Kernel.content_mmap]
    by_cases ht : os.ftruncate = true
    · rw [if_pos ht, if_pos ht]
      simp
    · rw [if_neg ht, if_neg ht]
      rfl
  · rw [if_neg hm, if_neg hm]
    exact ⟨rfl, rfl⟩

/-- **A failure to grow or map is treated as it ought to be along exactly the
runs** whose frames each fit the reserve, or grow the segment with both calls
successful.  Such a run completes. -/
theorem growth_failure_iff (os : Outcomes) (k : Kernel) (socket : String)
    (hopen : os.shmOpen = true) (is : List ClientInput) :
    ∃ k' c, LookoutVisionInferenceClient.new .sharedMemory os k socket = .ok (k', c) ∧
      (client.Guarded (fun _ s i => TreatsFailure s i) ⟨c, k'⟩ is ↔
        client.Guarded (fun h _ i => (reserve os (leftover k) h).Admits i) ⟨c, k'⟩ is) ∧
      (client.Guarded (fun h _ i => (reserve os (leftover k) h).Admits i) ⟨c, k'⟩ is →
        ∃ s h, client.run ⟨c, k'⟩ is = .ok (s, h)) := by
  obtain ⟨k', shm, hsetup, hr⟩ := setup_describes hopen k
  have hnew : LookoutVisionInferenceClient.new .sharedMemory os k socket =
      .ok (k', ⟨socket, ⟨socket⟩, ⟨⟨socket⟩⟩, some shm⟩) := by
    simp only [LookoutVisionInferenceClient.new, hsetup]
  -- Along guarded runs the segment has what the reserve says.
  let J : ClientHistory → ClientState → Prop := fun h s =>
    ∃ shm, s.client.shm = some shm ∧ (reserve os (leftover k) h).Describes s.kernel shm
  have hJ₀ : J [] ⟨⟨socket, ⟨socket⟩, ⟨⟨socket⟩⟩, some shm⟩, k'⟩ := ⟨shm, rfl, hr⟩
  have hstep : ∀ h s i, J h s → (reserve os (leftover k) h).Admits i →
      ∃ s' o, client.step s i = .ok (s', o) ∧ J (h ++ [(i, o)]) s' := by
    rintro h s i ⟨shm, hshm, hdescribes⟩ hadmits
    obtain ⟨s', o, shm', hok, hshm', hdescribes'⟩ := admits_step hshm hdescribes hadmits
    refine ⟨s', o, hok, shm', hshm', ?_⟩
    rw [reserve_snoc]
    exact hdescribes'
  refine ⟨k', _, hnew, ?_, fun hg => ?_⟩
  · refine Machine.guarded_iff_guarded hJ₀ ?_ hstep
    rintro h s i ⟨shm, hshm, hdescribes⟩
    exact treatsFailure_iff hshm hdescribes i
  · obtain ⟨s, h, hrun, -⟩ := Machine.guarded_completes hJ₀ hstep hg
    exact ⟨s, h, hrun⟩

/-- A frame of so many bytes, with these outcomes of the system calls. -/
def frameCall (os : Outcomes) (buf : List UInt8) : ClientInput :=
  ⟨.detectAnomalies "SampleModel" buf 1 1, { Environment.steady fun _ _ => true with os := os }⟩

/-- A frame that fits, one whose growth fails at `ftruncate`, and one that fits again. -/
def failedGrowth : List ClientInput :=
  [frameCall .allSucceed [1, 2, 3], frameCall ⟨true, false, true⟩ longFrame,
    frameCall ⟨true, true, false⟩ [4, 5]]

theorem growth_failure_iff_sample :
    ∃ k' c, LookoutVisionInferenceClient.new .sharedMemory .allSucceed Posix.Kernel.empty
        "0.0.0.0:50051" = .ok (k', c) ∧
      (client.Guarded (fun _ s i => TreatsFailure s i) ⟨c, k'⟩ failedGrowth ↔
        client.Guarded
          (fun h _ i => (reserve .allSucceed (leftover Posix.Kernel.empty) h).Admits i) ⟨c, k'⟩
          failedGrowth) ∧
      (client.Guarded
          (fun h _ i => (reserve .allSucceed (leftover Posix.Kernel.empty) h).Admits i) ⟨c, k'⟩
          failedGrowth →
        ∃ s h, client.run ⟨c, k'⟩ failedGrowth = .ok (s, h)) :=
  growth_failure_iff .allSucceed Posix.Kernel.empty "0.0.0.0:50051" rfl failedGrowth

/-! ## What a failed growth does -/

section
variable {os : Outcomes} {k : Kernel} {shm : SharedMemory} {buf : List UInt8}

/-- **The object is not grown, and a longer mapping is made**: the copy runs past
the object's end. -/
theorem writeSHM_unresized (ht : os.ftruncate = false) (hm : os.mmap = true)
    (hgrow : shm.shmSize < buf.length) (hobj : (k.content shm.shmFd).length < buf.length) :
    writeSHM os k shm buf = .error (.access .bus) := by
  have h0 : ¬ buf.length = 0 := by omega
  have hmapping : (k.mmap shm.shmFd buf.length).1.mappingAt k.addresses =
      some ⟨k.addresses, shm.shmFd, buf.length⟩ := Kernel.mappingAt_mmap_self
  simp only [writeSHM, hgrow, if_true, mapSegment, ht, hm, Bool.false_eq_true, if_false,
    copyToSegment, Kernel.store, h0, Kernel.mmap_address, Option.bind_some, hmapping, Nat.le_refl,
    Kernel.content_mmap, Nat.not_le.mpr hobj]

/-- **The segment is not mapped**: the copy goes to `MAP_FAILED`. -/
theorem writeSHM_unmapped (hm : os.mmap = false) (hgrow : shm.shmSize < buf.length) :
    writeSHM os k shm buf = .error (.access .segmentation) := by
  have h0 : ¬ buf.length = 0 := by omega
  simp only [writeSHM, hgrow, if_true, mapSegment, hm, Bool.false_eq_true, if_false,
    copyToSegment, Kernel.store, h0, Option.bind_none]

end

/-- **A growth that fails ends the process** at the copy, instead of returning a
`FAILED` result: with a bus error when `ftruncate` fails, with a segmentation
fault when `mmap` does. -/
theorem failed_growth_faults :
    ∃ k c, LookoutVisionInferenceClient.new .sharedMemory .allSucceed Posix.Kernel.empty
        "0.0.0.0:50051" = .ok (k, c) ∧
      client.step ⟨c, k⟩ (frameCall ⟨true, false, true⟩ longFrame) = .error (.access .bus) ∧
      client.step ⟨c, k⟩ (frameCall ⟨true, true, false⟩ longFrame) =
        .error (.access .segmentation) ∧
      ¬ client.Guarded (fun _ s i => TreatsFailure s i) ⟨c, k⟩
        [frameCall ⟨true, false, true⟩ longFrame] := by
  let k₀ : Kernel := Posix.Kernel.empty
  let shm := setupSegment k₀
  let c : LookoutVisionInferenceClient :=
    ⟨"0.0.0.0:50051", ⟨"0.0.0.0:50051"⟩, ⟨⟨"0.0.0.0:50051"⟩⟩, some shm⟩
  have hnew : LookoutVisionInferenceClient.new .sharedMemory .allSucceed k₀ "0.0.0.0:50051" =
      .ok (setupKernel k₀, c) := LookoutVisionInferenceClient.new_shared (by decide) k₀ _
  have hgrow : shm.shmSize < longFrame.length := longFrame_grows k₀
  have hobj : ((setupKernel k₀).content shm.shmFd).length < longFrame.length := by
    rw [length_setupKernel_self, length_longFrame]
    exact Nat.lt_succ_self _
  have hbus : c.detectAnomalies (frameCall ⟨true, false, true⟩ longFrame).env (setupKernel k₀)
      "SampleModel" longFrame 1 1 = .error (.access .bus) :=
    LookoutVisionInferenceClient.detectAnomalies_fault "SampleModel" 1 1 rfl
      (writeSHM_unresized rfl rfl hgrow hobj)
  have hsegmentation : c.detectAnomalies (frameCall ⟨true, true, false⟩ longFrame).env
      (setupKernel k₀) "SampleModel" longFrame 1 1 = .error (.access .segmentation) :=
    LookoutVisionInferenceClient.detectAnomalies_fault "SampleModel" 1 1 rfl
      (writeSHM_unmapped rfl hgrow)
  refine ⟨setupKernel k₀, c, hnew, client_step_fault (s := ⟨c, setupKernel k₀⟩) hbus,
    client_step_fault (s := ⟨c, setupKernel k₀⟩) hsegmentation, fun hguarded => ?_⟩
  have htreats := hguarded [] _ (List.prefix_refl _) _ _ (client.run_nil _)
  obtain ⟨d, hd, -⟩ := (htreats shm rfl).2 hgrow (fun h => Bool.false_ne_true h.1)
  rw [hbus] at hd
  cases hd

end LookoutVision
