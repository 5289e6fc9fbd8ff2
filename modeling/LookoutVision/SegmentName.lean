import LookoutVision.Device

/-!
# The name of the segment and the clients on it

A request tells the agent the segment's name, not which object the client has
mapped.  The two agree as long as opening the name yields that object
(`OpensOwn`).  Constructions and frames keep the agreement.  A destructor
unlinks the name whoever else is using it, so the runs that keep it throughout
are exactly those in which a client is destroyed only when it is the last one
(`opensOwn_iff_destroys_last`).
-/

namespace LookoutVision

/-- Opening the name yields the object every live client has mapped. -/
def OpensOwn (d : Device) : Prop :=
  ∀ id shm, d.segment id = some shm → (d.kernel.shmOpen shmName).2 = shm.shmFd

/-- A live client is destroyed only when no other is live. -/
def DestroysLast (d : Device) (i : DeviceInput) : Prop :=
  ∀ id, i.operation = .destroy id → d.segment id ≠ none → ∀ j, j ≠ id → d.segment j = none

section
variable {d : Device}

/-- In a sound device the name is then bound, to the object of every client. -/
theorem opensOwn_iff (hd : d.Sound) :
    OpensOwn d ↔ ∀ id shm, d.segment id = some shm →
      d.kernel.bound shmName = some shm.shmFd := by
  refine forall_congr' fun id => forall_congr' fun shm => forall_congr' fun hid => ?_
  exact Posix.Kernel.shmOpen_eq_iff (hd.orderly.opened id shm hid)

/-- **A construction** opens what the name is bound to, or binds it when no
client is there to be left out. -/
theorem opensOwn_constructed (ho : OpensOwn d) {serverSocket : String}
    (hd' : (d.constructed serverSocket).Sound) : OpensOwn (d.constructed serverSocket) := by
  refine (opensOwn_iff hd').mpr fun id shm hid => ?_
  rw [Device.segment_constructed] at hid
  have hbound : (d.constructed serverSocket).kernel.bound shmName =
      some (setupSegment d.kernel).shmFd := setupKernel_bound
  rw [hbound]
  rcases Table.update_eq_some hid with ⟨-, ⟨⟩⟩ | ⟨-, hid⟩
  · rfl
  · exact congrArg some (ho id shm hid)

/-- **A completed write** changes neither the name's binding nor the object the
client has open. -/
theorem opensOwn_framed {id : Nat} {c : LookoutVisionInferenceClient} {shm shm' : SharedMemory}
    {buf : List UInt8} {k' : Kernel} (hd : d.Sound) (ho : OpensOwn d)
    (hlive : d.clients id = some c) (hshm : c.shm = some shm)
    (hw : Written d.kernel shm buf k' shm') (hd' : (d.framed id c k' shm').Sound) :
    OpensOwn (d.framed id c k' shm') := by
  have hbound := (opensOwn_iff hd).mp ho
  refine (opensOwn_iff hd').mpr fun j shm₁ hj => ?_
  have hsame : (d.framed id c k' shm').kernel.bound = d.kernel.bound := hw.bound
  rw [hsame]
  rw [Device.segment_framed] at hj
  rcases Table.update_eq_some hj with ⟨rfl, ⟨⟩⟩ | ⟨-, hj⟩
  · rw [hw.fd]
    exact hbound j shm ((Device.segment_of_live hlive).trans hshm)
  · exact hbound j shm₁ hj

/-- **A destruction** unbinds the name: whoever is left has lost it. -/
theorem opensOwn_destroyed_iff {id : Nat} {shm : SharedMemory}
    (hd' : (d.destroyed id shm).Sound) :
    OpensOwn (d.destroyed id shm) ↔ ∀ j, j ≠ id → d.segment j = none := by
  rw [opensOwn_iff hd']
  constructor
  · intro hall j hji
    cases hj : d.segment j with
    | none => rfl
    | some shm₁ =>
      have hkept : (d.destroyed id shm).segment j = some shm₁ := by
        rw [Device.segment_destroyed, Function.update_of_ne hji]
        exact hj
      have hbound := hall j shm₁ hkept
      rw [Device.bound_destroyed] at hbound
      cases hbound
  · intro hnone j shm₁ hj
    rw [Device.segment_destroyed] at hj
    obtain ⟨hji, hj⟩ := Table.update_none_eq_some hj
    rw [hnone j hji] at hj
    cases hj

/-- **One operation**, if it completes, keeps the agreement exactly when it
destroys no client but the last. -/
theorem opensOwn_step_iff {i : DeviceInput} (hd : d.Sound) (ho : OpensOwn d)
    (hos : i.env.os.Succeed) :
    DestroysLast d i ↔ ∀ d' o, device.step d i = .ok (d', o) → OpensOwn d' := by
  constructor
  · intro hlast d' o hstep
    have hd' := Device.step_sound hd hos hstep
    rcases Device.step_cases hd hos hstep with rfl | ⟨serverSocket, -, rfl⟩ |
      ⟨id, _, _, _, _, c, shm, k', shm', -, hc, hshm, hw, -, rfl⟩ |
      ⟨id, c, shm, hoperation, hc, hshm, rfl⟩
    · exact ho
    · exact opensOwn_constructed ho hd'
    · exact opensOwn_framed hd ho hc hshm hw hd'
    · refine (opensOwn_destroyed_iff hd').mpr (hlast id hoperation ?_)
      rw [Device.segment_of_live hc, hshm]
      exact Option.some_ne_none shm
  · obtain ⟨operation, env⟩ := i
    rintro hkeeps id rfl hsegment
    cases hc : d.clients id with
    | none => exact absurd (Device.segment_of_absent hc) hsegment
    | some c =>
      obtain ⟨shm, hshm⟩ := hd.shared id c hc
      have hstep : device.step d ⟨.destroy id, env⟩ = .ok (d.destroyed id shm, none) :=
        Device.step_destroy hc hshm
      exact (opensOwn_destroyed_iff (Device.step_sound hd hos hstep)).mp (hkeeps _ _ hstep)

end

/-- **The name in a request denotes the segment the client wrote to**, in every
state reached, along exactly the runs that destroy no client while another is
live; from whatever the kernel held before. -/
theorem opensOwn_iff_destroys_last (k : Kernel) (is : List DeviceInput)
    (his : ∀ i ∈ is, i.env.os.Succeed) :
    device.Safe (fun _ d => OpensOwn d) (Device.initial k) is ↔
      device.Guarded (fun _ d i => DestroysLast d i) (Device.initial k) is :=
  Machine.safe_iff_guarded (J := fun _ d => d.Sound) (initial_sound k) nofun
    (fun _ _ _ _ _ hd hos hstep => Device.step_sound hd hos hstep)
    (fun _ _ _ hd ho hos => opensOwn_step_iff hd ho hos) his

/-- Two clients, the first of which goes. -/
def firstOfTwoGoes : List DeviceInput :=
  [⟨.construct "0.0.0.0:50051", .steady fun _ _ => true⟩,
    ⟨.construct "0.0.0.0:50052", .steady fun _ _ => true⟩,
    ⟨.destroy 0, .steady fun _ _ => true⟩]

theorem opensOwn_iff_destroys_last_sample :
    device.Safe (fun _ d => OpensOwn d) (Device.initial Posix.Kernel.empty) firstOfTwoGoes ↔
      device.Guarded (fun _ d i => DestroysLast d i) (Device.initial Posix.Kernel.empty)
        firstOfTwoGoes :=
  opensOwn_iff_destroys_last Posix.Kernel.empty firstOfTwoGoes (by
    simp only [firstOfTwoGoes, List.forall_mem_cons]
    exact ⟨by decide, by decide, by decide, nofun⟩)

/-- **The client that stays loses the name**: whoever opens it gets another
object. -/
theorem remaining_client_loses_name :
    ∃ d h shm, device.run (Device.initial Posix.Kernel.empty) firstOfTwoGoes = .ok (d, h) ∧
      d.segment 1 = some shm ∧ (d.kernel.shmOpen shmName).2 ≠ shm.shmFd := by
  have hos : (Environment.steady fun _ _ => true).os.Succeed := by decide
  let d₀ := Device.initial Posix.Kernel.empty
  let d₁ := d₀.constructed "0.0.0.0:50051"
  let d₂ := d₁.constructed "0.0.0.0:50052"
  have hstep₁ : device.step d₀ ⟨.construct "0.0.0.0:50051", .steady fun _ _ => true⟩ =
      .ok (d₁, none) := Device.step_construct hos _
  have hstep₂ : device.step d₁ ⟨.construct "0.0.0.0:50052", .steady fun _ _ => true⟩ =
      .ok (d₂, none) := Device.step_construct hos _
  have hd₁ : d₁.Sound := Device.step_sound (initial_sound _) hos hstep₁
  have hd₂ : d₂.Sound := Device.step_sound hd₁ hos hstep₂
  have hstep₃ : device.step d₂ ⟨.destroy 0, .steady fun _ _ => true⟩ =
      .ok (d₂.destroyed 0 (setupSegment d₀.kernel), none) := Device.step_destroy rfl rfl
  have hd₃ := Device.step_sound hd₂ hos hstep₃
  have hseg : (d₂.destroyed 0 (setupSegment d₀.kernel)).segment 1 =
      some (setupSegment d₁.kernel) := rfl
  refine ⟨_, _, _, Machine.run_snoc_ok (Machine.run_snoc_ok (Machine.run_one hstep₁) hstep₂) hstep₃,
    hseg, fun heq => ?_⟩
  have hbound := (Posix.Kernel.shmOpen_eq_iff (hd₃.orderly.opened 1 _ hseg)).mp heq
  rw [Device.bound_destroyed] at hbound
  cases hbound

end LookoutVision
