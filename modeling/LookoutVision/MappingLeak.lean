import LookoutVision.GrowthFailure

/-!
# How many mappings a client has

A client maps the segment when it is constructed and again with every growth, and
unmaps once, in its destructor, the mapping it has then.  The one a growth
replaces is not unmapped.

So after any calls the client has one mapping more than it has grown the segment
(`run_holdsGrown`), and all but the last outlive it.  It has exactly one
throughout exactly when no frame was larger than the initial segment
(`mapping_leak_iff`).
-/

namespace LookoutVision
open Posix

/-! ## A client's own mappings -/

/-- The live mappings made since so many addresses were handed out. -/
def own (since : Nat) (k : Kernel) : List Mapping :=
  k.mappings.filter fun m => since ≤ m.address

/-- **What is asked after every call**: one mapping is live, the one at `shm_data`
of `shm_size` bytes, and the destructor would leave none. -/
def OneMapping (since : Nat) (s : ClientState) : Prop :=
  (∃ shm m, s.client.shm = some shm ∧ own since s.kernel = [m] ∧
    shm.shmData = some m.address ∧ shm.shmSize = m.length) ∧
  own since (s.client.delete s.kernel) = []

/-! ## Growths, from the calls alone -/

/-- The size of the segment and how often it was grown. -/
structure Growth where
  size : Nat
  count : Nat
deriving DecidableEq, Repr

def Growth.frame (g : Growth) (length : Nat) : Growth :=
  if g.size < length then ⟨length, g.count + 1⟩ else g

def Growth.after (g : Growth) (i : ClientInput) : Growth :=
  match i.frame? with
  | none => g
  | some buf => g.frame buf.length

def growth (is : List ClientInput) : Growth := is.foldl Growth.after ⟨initialShmSize, 0⟩

theorem growth_snoc {is : List ClientInput} {i : ClientInput} :
    growth (is ++ [i]) = (growth is).after i := by
  simp only [growth, List.foldl_append, List.foldl_cons, List.foldl_nil]

/-- The frame of the call, if it sends one, fits the initial segment. -/
def FitsInitial (i : ClientInput) : Prop :=
  ∀ buf, i.frame? = some buf → buf.length ≤ initialShmSize

theorem Growth.after_of_frame {g : Growth} {i : ClientInput} {buf : List UInt8}
    (h : i.frame? = some buf) : g.after i = g.frame buf.length := by
  simp only [Growth.after, h]

theorem Growth.after_of_no_frame {g : Growth} {i : ClientInput} (h : i.frame? = none) :
    g.after i = g := by
  simp only [Growth.after, h]

/-- **The segment was never grown** exactly when no frame was larger than the
initial one. -/
theorem growth_count_eq_zero (is : List ClientInput) :
    ((growth is).count = 0 ↔ ∀ i ∈ is, FitsInitial i) ∧
      ((growth is).count = 0 → (growth is).size = initialShmSize) := by
  induction is using List.reverseRecOn with
  | nil => exact ⟨⟨fun _ i hi => absurd hi List.not_mem_nil, fun _ => rfl⟩, fun _ => rfl⟩
  | append_singleton is i ih =>
    obtain ⟨hcount, hsize⟩ := ih
    have hall : (∀ j ∈ is ++ [i], FitsInitial j) ↔ (∀ j ∈ is, FitsInitial j) ∧ FitsInitial i := by
      rw [List.forall_mem_append, List.forall_mem_singleton]
    rw [growth_snoc, hall, ← hcount]
    cases hframe : i.frame? with
    | none =>
      rw [Growth.after_of_no_frame hframe]
      have hfits : FitsInitial i := by
        intro buf h
        rw [hframe] at h
        cases h
      exact ⟨⟨fun h => ⟨h, hfits⟩, fun h => h.1⟩, hsize⟩
    | some buf =>
      rw [Growth.after_of_frame hframe]
      have hfits : FitsInitial i ↔ buf.length ≤ initialShmSize :=
        ⟨fun h => h buf hframe, fun h buf' he => Option.some.inj (hframe.symm.trans he) ▸ h⟩
      rw [hfits]
      unfold Growth.frame
      by_cases hgrow : (growth is).size < buf.length
      · rw [if_pos hgrow]
        refine ⟨⟨fun h => absurd h (Nat.succ_ne_zero _), ?_⟩,
          fun h => absurd h (Nat.succ_ne_zero _)⟩
        rintro ⟨h0, hle⟩
        rw [hsize h0] at hgrow
        omega
      · rw [if_neg hgrow]
        refine ⟨⟨fun h0 => ⟨h0, ?_⟩, fun h => h.1⟩, hsize⟩
        rw [hsize h0] at hgrow
        omega

/-! ## What the kernel keeps for a client -/

section
variable {since : Nat} {k : Kernel} {shm : SharedMemory} {buf : List UInt8} {leaked : List Mapping}

/-- A client made since then, its current mapping first among its own, behind it
the ones it has lost. -/
structure Holding (since : Nat) (k : Kernel) (shm : SharedMemory) (leaked : List Mapping) :
    Prop where
  sole : Sole k shm
  mappings : ∃ a, shm.shmData = some a ∧ own since k = ⟨a, shm.shmFd, shm.shmSize⟩ :: leaked ∧
    ∀ m ∈ leaked, m.address ≠ a
  since_le : since ≤ k.addresses

theorem own_lt {m : Mapping} (h : m ∈ own since k) : m.address < k.addresses :=
  k.address_lt m (List.mem_of_mem_filter h)

/-- The construction makes the first mapping. -/
theorem holding_setup : Holding k.addresses (setupKernel k) (setupSegment k) [] where
  sole := ⟨setupKernel_mapped, setupKernel_bound,
    Nat.le_of_eq (length_setupKernel_self (k := k)).symm⟩
  mappings := by
    refine ⟨k.addresses, rfl, ?_, fun m hm => absurd hm List.not_mem_nil⟩
    have hmappings : (setupKernel k).mappings =
        ⟨k.addresses, (setupSegment k).shmFd, initialShmSize⟩ :: k.mappings := by
      show (⟨(k.shmOpen shmName).1.addresses, _, _⟩ : Mapping) :: (k.shmOpen shmName).1.mappings = _
      rw [Kernel.addresses_shmOpen, Kernel.mappings_shmOpen]
      rfl
    have hold : k.mappings.filter (fun m => k.addresses ≤ m.address) = [] := by
      refine List.filter_eq_nil_iff.mpr fun m hm => ?_
      have := k.address_lt m hm
      simp only [decide_eq_true_eq]
      omega
    rw [own, hmappings, List.filter_cons_of_pos (by simp), hold]
    rfl
  since_le := by
    show k.addresses ≤ (k.shmOpen shmName).1.addresses + 1
    rw [Kernel.addresses_shmOpen]
    exact Nat.le_succ _

/-- A frame that fits leaves the mappings as they are. -/
theorem Holding.fit (h : Holding since k shm leaked) (hfit : buf.length ≤ shm.shmSize) :
    ∃ k', writeSHM .allSucceed k shm buf = .ok (k', shm) ∧ Holding since k' shm leaked := by
  have hobj := Nat.le_trans hfit h.sole.covered
  refine ⟨_, writeSHM_fit h.sole.mapped hfit hobj, ⟨h.sole.mapped, h.sole.named, ?_⟩, h.mappings,
    h.since_le⟩
  rw [Kernel.content_setContent_self, length_overwrite hobj]
  exact h.sole.covered

/-- **A growth adds a mapping and loses one.** -/
theorem Holding.grow (h : Holding since k shm leaked) (hgrow : shm.shmSize < buf.length) :
    ∃ k' shm' lost, writeSHM .allSucceed k shm buf = .ok (k', shm') ∧
      shm'.shmSize = buf.length ∧ Holding since k' shm' (lost :: leaked) := by
  obtain ⟨a, ha, hown, hne⟩ := h.mappings
  refine ⟨_, _, ⟨a, shm.shmFd, shm.shmSize⟩, writeSHM_grow (by decide) hgrow, rfl,
    ⟨grownKernel_mapped, h.sole.named, ?_⟩, ⟨k.addresses, rfl, ?_, ?_⟩, ?_⟩
  · exact Nat.le_of_eq (congrArg List.length grownKernel_content_self).symm
  · show List.filter _ (⟨k.addresses, shm.shmFd, buf.length⟩ :: k.mappings) = _
    rw [List.filter_cons_of_pos (by simpa using h.since_le)]
    exact congrArg (_ :: ·) hown
  · intro m hm
    have hmem : m ∈ own since k := by
      rw [hown]
      exact hm
    exact Nat.ne_of_lt (own_lt hmem)
  · exact Nat.le_succ_of_le h.since_le

/-- **The destructor** leaves the lost ones. -/
theorem Holding.delete (h : Holding since k shm leaked) {c : LookoutVisionInferenceClient}
    (hshm : c.shm = some shm) : own since (c.delete k) = leaked := by
  obtain ⟨a, ha, hown, hne⟩ := h.mappings
  have hmappings : (c.delete k).mappings =
      k.mappings.filter fun m => ¬ (m.address = a ∧ m.length = shm.shmSize) := by
    simp only [LookoutVisionInferenceClient.delete, hshm, ha]
    rfl
  rw [own, hmappings, List.filter_comm]
  show (own since k).filter _ = leaked
  rw [hown, List.filter_cons_of_neg (by simp)]
  refine List.filter_eq_self.mpr fun m hm => ?_
  simp [hne m hm]

/-- It is all as it ought to be exactly when nothing was lost. -/
theorem Holding.oneMapping_iff {s : ClientState} (h : Holding since s.kernel shm leaked)
    (hshm : s.client.shm = some shm) : OneMapping since s ↔ leaked = [] := by
  unfold OneMapping
  rw [h.delete hshm]
  refine ⟨fun hone => hone.2, fun hnil => ⟨?_, hnil⟩⟩
  obtain ⟨a, ha, hown, -⟩ := h.mappings
  rw [hnil] at hown
  exact ⟨shm, _, hshm, hown, ha, rfl⟩

end

/-! ## Runs -/

/-- What a run keeps: the client has lost one mapping for each growth. -/
def HoldsGrown (since : Nat) (is : List ClientInput) (s : ClientState) : Prop :=
  ∃ shm leaked, s.client.shm = some shm ∧ Holding since s.kernel shm leaked ∧
    shm.shmSize = (growth is).size ∧ leaked.length = (growth is).count

/-- One call. -/
theorem holdsGrown_step {since : Nat} {is : List ClientInput} {s : ClientState}
    (h : HoldsGrown since is s) {i : ClientInput} (hos : i.env.os.Succeed) :
    ∃ s' o, client.step s i = .ok (s', o) ∧ HoldsGrown since (is ++ [i]) s' := by
  obtain ⟨shm, leaked, hshm, hholding, hsize, hcount⟩ := h
  obtain ⟨call, env⟩ := i
  obtain ⟨-, ht, hm⟩ := hos
  cases call with
  | setServerSocket socket =>
    refine ⟨_, none, rfl, shm, leaked, hshm, hholding, ?_, ?_⟩
    · rw [growth_snoc, Growth.after_of_no_frame rfl]
      exact hsize
    · rw [growth_snoc, Growth.after_of_no_frame rfl]
      exact hcount
  | detectAnomalies component buf width height =>
    have hwrite : writeSHM env.os s.kernel shm buf = writeSHM .allSucceed s.kernel shm buf :=
      writeSHM_of_success ht hm
    have hframe : ClientInput.frame? ⟨.detectAnomalies component buf width height, env⟩ =
        some buf := rfl
    unfold HoldsGrown
    rw [growth_snoc, Growth.after_of_frame hframe, Growth.frame]
    by_cases hgrow : shm.shmSize < buf.length
    · obtain ⟨k', shm', lost, hw, hsize', hholding'⟩ := hholding.grow hgrow
      rw [if_pos (by rw [← hsize]; exact hgrow)]
      refine ⟨_, _, client_step_detect (LookoutVisionInferenceClient.detectAnomalies_shared
        component width height hshm (hwrite.trans hw)), shm', lost :: leaked, rfl, hholding',
        hsize', ?_⟩
      rw [List.length_cons, hcount]
    · obtain ⟨k', hw, hholding'⟩ := hholding.fit (Nat.not_lt.mp hgrow)
      rw [if_neg (by rw [← hsize]; exact hgrow)]
      exact ⟨_, _, client_step_detect (LookoutVisionInferenceClient.detectAnomalies_shared
        component width height hshm (hwrite.trans hw)), shm, leaked, rfl, hholding', hsize, hcount⟩

/-- **Every run** completes, with one mapping lost for each growth. -/
theorem run_holdsGrown {since : Nat} {s : ClientState} (h : HoldsGrown since [] s) :
    ∀ is, (∀ i ∈ is, i.env.os.Succeed) →
      ∃ s' h, client.run s is = .ok (s', h) ∧ HoldsGrown since (h.map Prod.fst) s' := by
  refine Machine.run_invariant h fun h s i hholds hos => ?_
  obtain ⟨s', o, hstep, hholds'⟩ := holdsGrown_step hholds hos
  exact ⟨s', o, hstep, by rw [List.map_append]; exact hholds'⟩

/-- **A client has one mapping throughout exactly when no frame was larger than
the initial segment.**  Every growth leaves one mapping more, also behind the
destructor. -/
theorem mapping_leak_iff (os : Outcomes) (k : Kernel) (socket : String) (is : List ClientInput)
    (hos : os.Succeed) (his : ∀ i ∈ is, i.env.os.Succeed) :
    ∃ k' c, LookoutVisionInferenceClient.new .sharedMemory os k socket = .ok (k', c) ∧
      (client.Always (fun _ s => OneMapping k.addresses s) ⟨c, k'⟩ is ↔
        ∀ i ∈ is, FitsInitial i) ∧
      ∃ s h, client.run ⟨c, k'⟩ is = .ok (s, h) ∧
        (own k.addresses s.kernel).length = (growth is).count + 1 ∧
        (own k.addresses (s.client.delete s.kernel)).length = (growth is).count := by
  have hnew : LookoutVisionInferenceClient.new .sharedMemory os k socket =
      .ok (setupKernel k, ⟨socket, ⟨socket⟩, ⟨⟨socket⟩⟩, some (setupSegment k)⟩) :=
    LookoutVisionInferenceClient.new_shared hos k socket
  have hstart : HoldsGrown k.addresses []
      ⟨⟨socket, ⟨socket⟩, ⟨⟨socket⟩⟩, some (setupSegment k)⟩, setupKernel k⟩ :=
    ⟨setupSegment k, [], rfl, holding_setup, rfl, rfl⟩
  refine ⟨_, _, hnew, ⟨fun halways => ?_, fun hfits pre hpre => ?_⟩, ?_⟩
  · -- In the last state nothing was lost, so nothing was ever grown.
    obtain ⟨s, h, hrun, hone⟩ := halways is (List.prefix_refl is)
    obtain ⟨s', h', hrun', shm, leaked, hshm, hholding, -, hcount⟩ := run_holdsGrown hstart is his
    obtain ⟨rfl, rfl⟩ := Prod.mk.inj (Except.ok.inj (hrun.symm.trans hrun'))
    rw [Machine.run_inputs hrun] at hcount
    have hnil : leaked = [] := (hholding.oneMapping_iff hshm).mp hone
    refine (growth_count_eq_zero is).1.mp ?_
    rw [← hcount, hnil]
    rfl
  · have hsub : ∀ i ∈ pre, i ∈ is := fun i hi => hpre.subset hi
    obtain ⟨s, h, hrun, shm, leaked, hshm, hholding, -, hcount⟩ :=
      run_holdsGrown hstart pre fun i hi => his i (hsub i hi)
    rw [Machine.run_inputs hrun] at hcount
    have hzero : (growth pre).count = 0 :=
      (growth_count_eq_zero pre).1.mpr fun i hi => hfits i (hsub i hi)
    refine ⟨s, h, hrun, (hholding.oneMapping_iff hshm).mpr ?_⟩
    exact List.eq_nil_of_length_eq_zero (hcount.trans hzero)
  · obtain ⟨s, h, hrun, shm, leaked, hshm, hholding, -, hcount⟩ := run_holdsGrown hstart is his
    rw [Machine.run_inputs hrun] at hcount
    refine ⟨s, h, hrun, ?_, ?_⟩
    · obtain ⟨a, -, hown, -⟩ := hholding.mappings
      rw [hown, List.length_cons, hcount]
    · rw [hholding.delete hshm, hcount]

theorem mapping_leak_iff_sample :
    ∃ k' c, LookoutVisionInferenceClient.new .sharedMemory .allSucceed Posix.Kernel.empty
        "0.0.0.0:50051" = .ok (k', c) ∧
      (client.Always (fun _ s => OneMapping 0 s) ⟨c, k'⟩ growingAndShrinking ↔
        ∀ i ∈ growingAndShrinking, FitsInitial i) ∧
      ∃ s h, client.run ⟨c, k'⟩ growingAndShrinking = .ok (s, h) ∧
        (own 0 s.kernel).length = (growth growingAndShrinking).count + 1 ∧
        (own 0 (s.client.delete s.kernel)).length = (growth growingAndShrinking).count :=
  mapping_leak_iff .allSucceed Posix.Kernel.empty "0.0.0.0:50051" growingAndShrinking
    (by decide) (by
      have hos : (Environment.steady fun _ _ => true).os.Succeed := by decide
      simp only [growingAndShrinking, List.forall_mem_cons]
      exact ⟨hos, hos, hos, hos, hos, fun _ h => absurd h List.not_mem_nil⟩)

/-- **One frame of a byte more than the initial segment**: two mappings are live
after it, and one after the destructor. -/
theorem grown_mapping_lost :
    ∃ k c s h, LookoutVisionInferenceClient.new .sharedMemory .allSucceed Posix.Kernel.empty
        "0.0.0.0:50051" = .ok (k, c) ∧
      client.run ⟨c, k⟩ [frameCall .allSucceed longFrame] = .ok (s, h) ∧
      (own 0 s.kernel).length = 2 ∧ (own 0 (s.client.delete s.kernel)).length = 1 ∧
      ¬ OneMapping 0 s := by
  let k : Kernel := Posix.Kernel.empty
  let c : LookoutVisionInferenceClient :=
    ⟨"0.0.0.0:50051", ⟨"0.0.0.0:50051"⟩, ⟨⟨"0.0.0.0:50051"⟩⟩, some (setupSegment k)⟩
  have hnew : LookoutVisionInferenceClient.new .sharedMemory .allSucceed k "0.0.0.0:50051" =
      .ok (setupKernel k, c) := LookoutVisionInferenceClient.new_shared (by decide) k _
  obtain ⟨k', shm, lost, hw, -, hholding⟩ := (holding_setup (k := k)).grow (longFrame_grows k)
  have hdetect : c.detectAnomalies (frameCall .allSucceed longFrame).env (setupKernel k)
      "SampleModel" longFrame 1 1 = .ok _ :=
    LookoutVisionInferenceClient.detectAnomalies_shared "SampleModel" 1 1 rfl hw
  have hstep := client_step_detect (s := ⟨c, setupKernel k⟩) hdetect
  refine ⟨_, _, _, _, hnew, Machine.run_one hstep, ?_, ?_, fun hone => ?_⟩
  · obtain ⟨a, -, hown, -⟩ := hholding.mappings
    exact congrArg List.length hown
  · exact congrArg List.length (hholding.delete rfl)
  · exact List.cons_ne_nil _ _ ((hholding.oneMapping_iff rfl).mp hone)

end LookoutVision
