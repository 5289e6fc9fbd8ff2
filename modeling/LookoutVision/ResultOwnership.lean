import LookoutVision.OwnedHeap
import LookoutVision.ResultMeta

/-!
# Who owns a result

`ResultMeta` has a meta hold its result; in the process it holds a pointer.  Here
are the results on a heap, the metas and the runs of chain functions that point
to them, and the functions of `gstlookoutvisionmeta.cc` as they allocate, copy
and delete.

`store` is the machine of all of them, interleaved on any number of buffers: a
chain function has its result, attaches it and deletes it; GStreamer copies a
meta to another buffer, refuses to give one, takes one away, or frees a buffer.
In every state a run reaches, every result has exactly one owner (`Owned`), and
no step of a run ever faults (`results_owned`).
-/

namespace LookoutVision

/-- A meta of this plugin: the buffer it is on, and its result. -/
structure MetaRecord where
  buffer : Nat
  result : Option Nat
deriving DecidableEq, Repr

/-- A run of the chain function on a buffer, from the moment it has its result,
and whether it has tried to attach it. -/
structure ChainRun where
  buffer : Nat
  result : Nat
  attached : Bool
deriving DecidableEq, Repr

/-- `GstLookoutVisionResult()`: every member is initialised to zero. -/
def GstLookoutVisionResult.zero : GstLookoutVisionResult := ⟨false, 0, .successful, ""⟩

/-- The results, and everything in the process that points to one.  Buffers, metas
and runs are numbered in the order they appear. -/
structure ResultStore where
  heap : OwnedHeap GstLookoutVisionResult
  buffers : Nat → Bool
  bufferCount : Nat
  metas : Nat → Option MetaRecord
  metaCount : Nat
  chains : Nat → Option ChainRun
  chainCount : Nat

namespace ResultStore

def empty : ResultStore := ⟨.empty, fun _ => false, 0, fun _ => none, 0, fun _ => none, 0⟩

variable (s : ResultStore)

def setMeta (m : Nat) (x : Option MetaRecord) : ResultStore :=
  { s with metas := Function.update s.metas m x }

def setChain (c : Nat) (x : Option ChainRun) : ResultStore :=
  { s with chains := Function.update s.chains c x }

/-! ## `gstlookoutvisionmeta.cc` -/

/-- `gst_lookout_vision_meta_init`, on the meta GStreamer has made. -/
def gstLookoutVisionMetaInit (buffer : Nat) : ResultStore × Nat :=
  ({ s.setMeta s.metaCount (some ⟨buffer, none⟩) with metaCount := s.metaCount + 1 }, s.metaCount)

/-- `gst_buffer_add_meta`, if GStreamer grants one. -/
def gstBufferAddMeta (buffer : Nat) (granted : Bool) : Option (ResultStore × Nat) :=
  if granted then some (s.gstLookoutVisionMetaInit buffer) else none

/-- `gst_buffer_add_lookout_vision_meta`: `new`, then the assignment. -/
def gstBufferAddLookoutVisionMeta (buffer : Nat) (granted : Bool) (result : Option Nat) :
    Except OwnedHeap.Fault (ResultStore × Option Nat) :=
  match s.gstBufferAddMeta buffer granted with
  | none => .ok (s, none)
  | some (s₁, m) =>
      let created := s₁.heap.new .zero
      match created.1.read result with
      | .error fault => .error fault
      | .ok value =>
          match created.1.write (some created.2) value with
          | .error fault => .error fault
          | .ok heap =>
              .ok (({ s₁ with heap := heap }).setMeta m (some ⟨buffer, some created.2⟩), some m)

/-- `gst_lookout_vision_meta_transform`. -/
def gstLookoutVisionMetaTransform (dest : Nat) (granted : Bool) (srcMeta : MetaRecord) :
    Except OwnedHeap.Fault (ResultStore × Bool) :=
  match s.gstBufferAddLookoutVisionMeta dest granted srcMeta.result with
  | .error fault => .error fault
  | .ok (s', added) => .ok (s', added.isSome)

/-- `gst_lookout_vision_meta_free`. -/
def gstLookoutVisionMetaFree (m : Nat) (x : MetaRecord) : Except OwnedHeap.Fault ResultStore :=
  match s.heap.delete x.result with
  | .error fault => .error fault
  | .ok heap => .ok (({ s with heap := heap }).setMeta m (some { x with result := none }))

/-! ## The chain function, and GStreamer -/

/-- A chain function has its result, from `DetectAnomalies` or made by itself. -/
def detect (buffer : Nat) (value : GstLookoutVisionResult) : ResultStore :=
  let created := s.heap.new value
  { s with
    heap := created.1
    chains := Function.update s.chains s.chainCount (some ⟨buffer, created.2, false⟩)
    chainCount := s.chainCount + 1 }

/-- It attaches the result; what that returns is not looked at. -/
def attach (c : Nat) (x : ChainRun) (granted : Bool) : Except OwnedHeap.Fault ResultStore :=
  match s.gstBufferAddLookoutVisionMeta x.buffer granted (some x.result) with
  | .error fault => .error fault
  | .ok (s', _) => .ok (s'.setChain c (some { x with attached := true }))

/-- It reads the result's status for its message, and deletes the result. -/
def finish (c : Nat) (x : ChainRun) : Except OwnedHeap.Fault ResultStore :=
  match s.heap.read (some x.result) with
  | .error fault => .error fault
  | .ok _ =>
      match s.heap.delete (some x.result) with
      | .error fault => .error fault
      | .ok heap => .ok (({ s with heap := heap }).setChain c none)

/-- A meta goes: it is freed first. -/
def removeMeta (m : Nat) : Except OwnedHeap.Fault ResultStore :=
  match s.metas m with
  | none => .ok s
  | some x =>
      match s.gstLookoutVisionMetaFree m x with
      | .error fault => .error fault
      | .ok s' => .ok (s'.setMeta m none)

/-- The metas on a buffer. -/
def metasOf (buffer : Nat) : List Nat :=
  (List.range s.metaCount).filter fun m => (s.metas m).any fun x => x.buffer == buffer

/-- Some chain function is running on the buffer, and keeps it. -/
def running (buffer : Nat) : Bool :=
  (List.range s.chainCount).any fun c => (s.chains c).any fun x => x.buffer == buffer

/-- A buffer goes, after all its metas. -/
def destroyBuffer (buffer : Nat) : Except OwnedHeap.Fault ResultStore :=
  match (s.metasOf buffer).foldlM removeMeta s with
  | .error fault => .error fault
  | .ok s' => .ok { s' with buffers := Function.update s'.buffers buffer false }

end ResultStore

/-- What happens next in the process.  `granted` says whether GStreamer gives a
meta. -/
inductive StoreAction
  | newBuffer
  | detect (buffer : Nat) (value : GstLookoutVisionResult)
  | attach (chain : Nat) (granted : Bool)
  | finish (chain : Nat)
  | transform (srcMeta dest : Nat) (granted : Bool)
  | removeMeta (srcMeta : Nat)
  | destroyBuffer (buffer : Nat)
deriving DecidableEq, Repr

/-- One action.  What is not there to act on, or not at this point, is not acted
on. -/
def storeStep (s : ResultStore) : StoreAction → Except OwnedHeap.Fault ResultStore
  | .newBuffer => .ok { s with
      buffers := Function.update s.buffers s.bufferCount true
      bufferCount := s.bufferCount + 1 }
  | .detect buffer value => .ok (if s.buffers buffer then s.detect buffer value else s)
  | .attach c granted =>
      match s.chains c with
      | none => .ok s
      | some x => if x.attached then .ok s else s.attach c x granted
  | .finish c =>
      match s.chains c with
      | none => .ok s
      | some x => if x.attached then s.finish c x else .ok s
  | .transform m dest granted =>
      match s.metas m with
      | none => .ok s
      | some x =>
          if s.buffers dest then
            match s.gstLookoutVisionMetaTransform dest granted x with
            | .error fault => .error fault
            | .ok (s', _) => .ok s'
          else .ok s
  | .removeMeta m => s.removeMeta m
  | .destroyBuffer buffer =>
      if s.buffers buffer && !s.running buffer then s.destroyBuffer buffer else .ok s

/-- **The process's results as a machine.** -/
def store : Machine ResultStore StoreAction Unit OwnedHeap.Fault where
  step := fun s i =>
    match storeStep s i with
    | .error fault => .error fault
    | .ok s' => .ok (s', ())

namespace ResultStore

/-! ## The discipline -/

/-- Who can hold a result. -/
inductive Owner
  | ofMeta (m : Nat)
  | ofChain (c : Nat)
deriving DecidableEq, Repr

/-- What an owner points to. -/
def holds (s : ResultStore) : Owner → Option Nat
  | .ofMeta m => (s.metas m).bind MetaRecord.result
  | .ofChain c => (s.chains c).map ChainRun.result

/-- The result a meta shows. -/
def value (s : ResultStore) (m : Nat) : Option GstLookoutVisionResult :=
  (s.holds (.ofMeta m)).bind s.heap.object

/-- **The discipline**: every result has one owner, a meta or a chain function,
every meta has a result, and metas and chain functions are on live buffers. -/
structure Owned (s : ResultStore) : Prop where
  heap : s.heap.Partitioned s.holds
  nonnull : ∀ m x, s.metas m = some x → x.result ≠ none
  metas_lt : ∀ m, s.metaCount ≤ m → s.metas m = none
  chains_lt : ∀ c, s.chainCount ≤ c → s.chains c = none
  meta_buffer : ∀ m x, s.metas m = some x → s.buffers x.buffer = true
  chain_buffer : ∀ c x, s.chains c = some x → s.buffers x.buffer = true

/-- What a step does to the metas there were: they go for good, or show what they
showed. -/
structure Keeps (s s' : ResultStore) : Prop where
  count : s.metaCount ≤ s'.metaCount
  gone : ∀ m, m < s.metaCount → s.metas m = none → s'.metas m = none
  value : ∀ m, m < s.metaCount → s'.metas m ≠ none → s'.value m = s.value m

theorem Keeps.refl (s : ResultStore) : Keeps s s :=
  ⟨Nat.le_refl _, fun _ _ h => h, fun _ _ _ => rfl⟩

theorem Keeps.trans {s t u : ResultStore} (h : Keeps s t) (h' : Keeps t u) : Keeps s u where
  count := Nat.le_trans h.count h'.count
  gone := fun m hm hnone => h'.gone m (Nat.lt_of_lt_of_le hm h.count) (h.gone m hm hnone)
  value := by
    intro m hm hlive
    have hm' : m < t.metaCount := Nat.lt_of_lt_of_le hm h.count
    have hlive' : t.metas m ≠ none := fun hnone => hlive (h'.gone m hm' hnone)
    rw [h'.value m hm' hlive, h.value m hm hlive']

theorem owned_empty : Owned empty where
  heap := by
    have hholds : empty.holds = fun _ => none := by
      funext i
      cases i <;> rfl
    rw [hholds]
    exact .empty
  nonnull := fun m x h => by cases h
  metas_lt := fun _ _ => rfl
  chains_lt := fun _ _ => rfl
  meta_buffer := fun m x h => by cases h
  chain_buffer := fun c x h => by cases h

/-! ## What each function does to the discipline -/

section
variable {s s' : ResultStore} {m c a b : Nat}

theorem holds_setMeta (x : Option MetaRecord) :
    (s.setMeta m x).holds = Function.update s.holds (.ofMeta m) (x.bind MetaRecord.result) := by
  funext i
  cases i with
  | ofMeta m' =>
    by_cases hm : m' = m
    · rw [hm, Function.update_self]
      simp only [holds, setMeta, Function.update_self]
    · rw [Function.update_of_ne (fun h => hm (Owner.ofMeta.inj h))]
      simp only [holds, setMeta, Function.update_of_ne hm]
  | ofChain c => exact (Function.update_of_ne (fun h => Owner.noConfusion h) ..).symm

theorem holds_setChain (x : Option ChainRun) :
    (s.setChain c x).holds = Function.update s.holds (.ofChain c) (x.map ChainRun.result) := by
  funext i
  cases i with
  | ofMeta m => exact (Function.update_of_ne (fun h => Owner.noConfusion h) ..).symm
  | ofChain c' =>
    by_cases hc : c' = c
    · rw [hc, Function.update_self]
      simp only [holds, setChain, Function.update_self]
    · rw [Function.update_of_ne (fun h => hc (Owner.ofChain.inj h))]
      simp only [holds, setChain, Function.update_of_ne hc]

/-- A meta with the same pointer shows the same, where the object is the same. -/
theorem value_congr (hmeta : s'.metas m = s.metas m)
    (hheap : ∀ a, s.holds (.ofMeta m) = some a → s'.heap.object a = s.heap.object a) :
    s'.value m = s.value m := by
  have hholds : s'.holds (.ofMeta m) = s.holds (.ofMeta m) := by
    simp only [holds, hmeta]
  unfold value
  rw [hholds]
  cases h : s.holds (.ofMeta m) with
  | none => rfl
  | some a => exact hheap a h

theorem holds_ofMeta {x : MetaRecord} (hm : s.metas m = some x) :
    s.holds (.ofMeta m) = x.result := by
  simp only [holds, hm, Option.bind_some]

theorem holds_ofChain {x : ChainRun} (hc : s.chains c = some x) :
    s.holds (.ofChain c) = some x.result := by
  simp only [holds, hc, Option.map_some]

/-- What a meta of the discipline points to. -/
theorem Owned.result (ho : Owned s) {x : MetaRecord} (hm : s.metas m = some x) :
    ∃ a v, x.result = some a ∧ s.heap.object a = some v ∧ s.value m = some v := by
  obtain ⟨a, ha⟩ := Option.ne_none_iff_exists'.mp (ho.nonnull m x hm)
  obtain ⟨v, hv⟩ := ho.heap.object_of_holds ((holds_ofMeta hm).trans ha)
  refine ⟨a, v, ha, hv, ?_⟩
  simp only [value, holds_ofMeta hm, ha, Option.bind_some, hv]

/-! ### Attaching -/

/-- The store with one meta more, with a result of its own. -/
def added (s : ResultStore) (buffer : Nat) (v : GstLookoutVisionResult) : ResultStore :=
  { s.setMeta s.metaCount (some ⟨buffer, some s.heap.next⟩) with
    heap := (s.heap.new v).1
    metaCount := s.metaCount + 1 }

/-- **`gst_buffer_add_lookout_vision_meta`** with a result that is there: the new
meta has a copy of it. -/
theorem add_granted {r : Nat} {v : GstLookoutVisionResult} (hr : s.heap.object r = some v)
    (buffer : Nat) : s.gstBufferAddLookoutVisionMeta buffer true (some r) =
      .ok (s.added buffer v, some s.metaCount) := by
  have hlive : s.heap.object r ≠ none := by
    rw [hr]
    exact Option.some_ne_none v
  have hread : (s.heap.new .zero).1.read (some r) = .ok v := by
    refine OwnedHeap.read_of_object ?_
    rw [OwnedHeap.object_new_of_ne (Nat.ne_of_lt (OwnedHeap.lt_next hlive)), hr]
  obtain ⟨hlt, hwrite⟩ := OwnedHeap.write_of_object (h := (s.heap.new .zero).1)
    (a := s.heap.next) (y := v) OwnedHeap.object_new_self
  rw [OwnedHeap.put_new] at hwrite
  have hwrite' : (s.heap.new .zero).1.write (some (s.heap.new .zero).2) v =
      .ok (s.heap.new v).1 := hwrite
  simp only [gstBufferAddLookoutVisionMeta, gstBufferAddMeta, if_true, gstLookoutVisionMetaInit]
  simp only [setMeta, hread, hwrite', Function.update_idem]
  rfl

theorem holds_added (buffer : Nat) (v : GstLookoutVisionResult) :
    (s.added buffer v).holds =
      Function.update s.holds (.ofMeta s.metaCount) (some s.heap.next) :=
  holds_setMeta (s := s) (m := s.metaCount) (some ⟨buffer, some s.heap.next⟩)

theorem metas_added_of_ne {buffer : Nat} {v : GstLookoutVisionResult} (hm : m ≠ s.metaCount) :
    (s.added buffer v).metas m = s.metas m :=
  Function.update_of_ne hm ..

/-- A meta after an addition is the new one, or an old one. -/
theorem metas_added_eq_some {buffer : Nat} {v : GstLookoutVisionResult} {x : MetaRecord}
    (h : (s.added buffer v).metas m = some x) :
    x = ⟨buffer, some s.heap.next⟩ ∨ s.metas m = some x := by
  rcases Table.update_eq_some (t := s.metas) h with ⟨-, hnew⟩ | ⟨-, hold⟩
  · exact Or.inl (Option.some.inj hnew).symm
  · exact Or.inr hold

theorem metas_added_self {buffer : Nat} {v : GstLookoutVisionResult} :
    (s.added buffer v).metas s.metaCount = some ⟨buffer, some s.heap.next⟩ :=
  Function.update_self ..

/-- A copy shows what was copied. -/
theorem value_added {buffer : Nat} {v : GstLookoutVisionResult} :
    (s.added buffer v).value s.metaCount = some v := by
  simp only [value, holds_ofMeta metas_added_self, Option.bind_some]
  exact OwnedHeap.object_new_self

theorem owned_added (ho : Owned s) {buffer : Nat} (hb : s.buffers buffer = true)
    (v : GstLookoutVisionResult) : Owned (s.added buffer v) where
  heap := by
    have hfresh : s.holds (.ofMeta s.metaCount) = none := by
      simp only [holds, ho.metas_lt s.metaCount (Nat.le_refl _), Option.bind_none]
    rw [holds_added]
    exact ho.heap.new hfresh v
  nonnull := by
    intro m x hm
    rcases metas_added_eq_some hm with rfl | hold
    · exact Option.some_ne_none _
    · exact ho.nonnull m x hold
  metas_lt := by
    intro m hle
    have hlt : s.metaCount + 1 ≤ m := hle
    rw [metas_added_of_ne (by omega)]
    exact ho.metas_lt m (by omega)
  chains_lt := ho.chains_lt
  meta_buffer := by
    intro m x hm
    rcases metas_added_eq_some hm with rfl | hold
    · exact hb
    · exact ho.meta_buffer m x hold
  chain_buffer := ho.chain_buffer

theorem keeps_added (ho : Owned s) (buffer : Nat) (v : GstLookoutVisionResult) :
    Keeps s (s.added buffer v) where
  count := Nat.le_succ _
  gone := by
    intro m hm hnone
    rw [metas_added_of_ne (Nat.ne_of_lt hm)]
    exact hnone
  value := by
    intro m hm _
    refine value_congr (metas_added_of_ne (Nat.ne_of_lt hm)) fun a ha => ?_
    exact OwnedHeap.object_new_of_ne (Nat.ne_of_lt (OwnedHeap.lt_next (ho.heap.live _ a ha)))

/-- **Attaching a result that is there**, granted or refused. -/
theorem add_ok (ho : Owned s) {buffer r : Nat} (hb : s.buffers buffer = true)
    {v : GstLookoutVisionResult} (hr : s.heap.object r = some v) (granted : Bool) :
    ∃ s' made, s.gstBufferAddLookoutVisionMeta buffer granted (some r) = .ok (s', made) ∧
      Owned s' ∧ Keeps s s' ∧ s'.chains = s.chains := by
  cases granted with
  | false => exact ⟨s, none, rfl, ho, .refl s, rfl⟩
  | true =>
    exact ⟨_, _, add_granted hr buffer, owned_added ho hb v, keeps_added ho buffer v, rfl⟩

/-! ### Removing -/

/-- The store without a meta and its result. -/
def removed (s : ResultStore) (m a : Nat) (hlt : a < s.heap.next) : ResultStore :=
  ({ s with heap := s.heap.put a none hlt }).setMeta m none

/-- A meta after a removal is another one, and was there. -/
theorem metas_removed_eq_some {hlt : a < s.heap.next} {m' : Nat} {x : MetaRecord}
    (h : (s.removed m a hlt).metas m' = some x) : m' ≠ m ∧ s.metas m' = some x :=
  Table.update_none_eq_some (t := s.metas) h

theorem metas_removed_eq_none {hlt : a < s.heap.next} {m' : Nat} (h : s.metas m' = none) :
    (s.removed m a hlt).metas m' = none := by
  by_contra hne
  obtain ⟨x, hx⟩ := Option.ne_none_iff_exists'.mp hne
  rw [(metas_removed_eq_some hx).2] at h
  cases h

theorem owned_removed (ho : Owned s) (hholds : s.holds (.ofMeta m) = some a)
    (hlt : a < s.heap.next) : Owned (s.removed m a hlt) where
  heap := by
    have hholds' : (s.removed m a hlt).holds = Function.update s.holds (.ofMeta m) none :=
      holds_setMeta (s := { s with heap := s.heap.put a none hlt }) none
    rw [hholds']
    exact ho.heap.put_none hholds hlt
  nonnull := fun m' x hm' => ho.nonnull m' x (metas_removed_eq_some hm').2
  metas_lt := fun m' hle => metas_removed_eq_none (ho.metas_lt m' hle)
  chains_lt := ho.chains_lt
  meta_buffer := fun m' x hm' => ho.meta_buffer m' x (metas_removed_eq_some hm').2
  chain_buffer := ho.chain_buffer

theorem keeps_removed (ho : Owned s) (hholds : s.holds (.ofMeta m) = some a)
    (hlt : a < s.heap.next) : Keeps s (s.removed m a hlt) where
  count := Nat.le_refl _
  gone := fun m' _ hnone => metas_removed_eq_none hnone
  value := by
    intro m' _ hne
    obtain ⟨x, hx⟩ := Option.ne_none_iff_exists'.mp hne
    obtain ⟨hnem, hold⟩ := metas_removed_eq_some hx
    refine value_congr (hx.trans hold.symm) fun b hb => ?_
    -- Nobody else holds what was deleted.
    have hba : b ≠ a := by
      rintro rfl
      exact hnem (Owner.ofMeta.inj (ho.heap.unique _ _ b hb hholds))
    exact OwnedHeap.object_put_of_ne none hlt hba

/-- A meta that goes takes its result with it. -/
theorem removeMeta_ok (ho : Owned s) (m : Nat) :
    ∃ s', s.removeMeta m = .ok s' ∧ Owned s' ∧ Keeps s s' ∧
      s'.metas = Function.update s.metas m none ∧ s'.buffers = s.buffers ∧
        s'.chains = s.chains := by
  cases hm : s.metas m with
  | none =>
    refine ⟨s, by simp only [removeMeta, hm], ho, .refl s, ?_, rfl, rfl⟩
    rw [← hm, Function.update_eq_self]
  | some x =>
    obtain ⟨a, v, ha, hv, -⟩ := ho.result hm
    have hholds : s.holds (.ofMeta m) = some a := (holds_ofMeta hm).trans ha
    obtain ⟨hlt, hdelete⟩ := OwnedHeap.delete_of_object hv
    have hremove : s.removeMeta m = .ok (s.removed m a hlt) := by
      simp only [removeMeta, hm, gstLookoutVisionMetaFree, ha, hdelete]
      simp only [setMeta, Function.update_idem]
      rfl
    exact ⟨_, hremove, owned_removed ho hholds hlt, keeps_removed ho hholds hlt, rfl, rfl, rfl⟩

/-- All of some metas go, one after another. -/
theorem removeAll_ok (ho : Owned s) (ms : List Nat) :
    ∃ s', ms.foldlM removeMeta s = .ok s' ∧ Owned s' ∧ Keeps s s' ∧ s'.buffers = s.buffers ∧
      s'.chains = s.chains ∧ (∀ m x, s'.metas m = some x → s.metas m = some x) ∧
        ∀ m ∈ ms, s'.metas m = none := by
  refine Machine.foldlM_invariant (J := fun done s' => Owned s' ∧ Keeps s s' ∧
    s'.buffers = s.buffers ∧ s'.chains = s.chains ∧
      (∀ m x, s'.metas m = some x → s.metas m = some x) ∧ ∀ m ∈ done, s'.metas m = none)
    ?_ ⟨ho, .refl s, rfl, rfl, fun _ _ h => h, fun _ h => absurd h List.not_mem_nil⟩
  rintro done t m ⟨hot, hkeeps, hbuffers, hchains, hsub, hgone⟩ -
  obtain ⟨t', hok, hot', hkeeps', hmetas', hbuffers', hchains'⟩ := removeMeta_ok hot m
  refine ⟨t', hok, hot', hkeeps.trans hkeeps', hbuffers'.trans hbuffers, hchains'.trans hchains,
    ?_, ?_⟩
  · intro m' x hm'
    rw [hmetas'] at hm'
    exact hsub m' x (Table.update_none_eq_some hm').2
  · intro m' hm'
    rw [hmetas']
    by_cases hne : m' = m
    · rw [hne, Function.update_self]
    · rw [Function.update_of_ne hne]
      rcases List.mem_append.mp hm' with hdone | hlast
      · exact hgone m' hdone
      · exact absurd (List.mem_singleton.mp hlast) hne

/-- Every live meta of a buffer is among its metas. -/
theorem Owned.mem_metasOf (ho : Owned s) {x : MetaRecord} (hm : s.metas m = some x) :
    m ∈ s.metasOf x.buffer := by
  refine List.mem_filter.mpr ⟨List.mem_range.mpr ?_, ?_⟩
  · by_contra hle
    rw [ho.metas_lt m (Nat.not_lt.mp hle)] at hm
    cases hm
  · simp only [hm, Option.any_some, beq_self_eq_true]

/-- A buffer on which a chain function runs is seen to be running. -/
theorem Owned.running (ho : Owned s) {x : ChainRun} (hc : s.chains c = some x) :
    s.running x.buffer = true := by
  refine List.any_eq_true.mpr ⟨c, List.mem_range.mpr ?_, ?_⟩
  · by_contra hle
    rw [ho.chains_lt c (Nat.not_lt.mp hle)] at hc
    cases hc
  · simp only [hc, Option.any_some, beq_self_eq_true]

/-- **A buffer goes**, with all its metas, when no chain function has it. -/
theorem destroyBuffer_ok (ho : Owned s) {buffer : Nat} (hidle : s.running buffer = false) :
    ∃ s', s.destroyBuffer buffer = .ok s' ∧ Owned s' ∧ Keeps s s' := by
  obtain ⟨t, hall, hot, hkeeps, hbuffers, hchains, hsub, hgone⟩ :=
    removeAll_ok ho (s.metasOf buffer)
  have hdestroy : s.destroyBuffer buffer =
      .ok { t with buffers := Function.update t.buffers buffer false } := by
    simp only [destroyBuffer, hall]
  refine ⟨_, hdestroy, ⟨hot.heap, hot.nonnull, hot.metas_lt, hot.chains_lt, ?_, ?_⟩,
    ⟨hkeeps.count, hkeeps.gone, hkeeps.value⟩⟩
  · intro m x hm
    have hne : x.buffer ≠ buffer := by
      rintro rfl
      have hold := ho.mem_metasOf (hsub m x hm)
      have hmt : t.metas m = some x := hm
      rw [hgone m hold] at hmt
      cases hmt
    exact (Function.update_of_ne hne ..).trans (hot.meta_buffer m x hm)
  · intro c x hc
    have hne : x.buffer ≠ buffer := by
      rintro rfl
      have hc' : s.chains c = some x := by
        rw [← hchains]
        exact hc
      rw [ho.running hc'] at hidle
      cases hidle
    exact (Function.update_of_ne hne ..).trans (hot.chain_buffer c x hc)

/-! ### The chain function -/

/-- A chain function's result is held by it alone. -/
theorem owned_detect (ho : Owned s) {buffer : Nat} (hb : s.buffers buffer = true)
    (v : GstLookoutVisionResult) : Owned (s.detect buffer v) ∧ Keeps s (s.detect buffer v) := by
  have hfresh : s.holds (.ofChain s.chainCount) = none := by
    simp only [holds, ho.chains_lt s.chainCount (Nat.le_refl _), Option.map_none]
  have hholds : (s.detect buffer v).holds =
      Function.update s.holds (.ofChain s.chainCount) (some s.heap.next) :=
    holds_setChain (s := s) (c := s.chainCount) (some ⟨buffer, s.heap.next, false⟩)
  refine ⟨⟨?_, ho.nonnull, ho.metas_lt, ?_, ho.meta_buffer, ?_⟩, ⟨Nat.le_refl _,
    fun _ _ h => h, ?_⟩⟩
  · rw [hholds]
    exact ho.heap.new hfresh v
  · intro c hle
    have hlt : s.chainCount + 1 ≤ c := hle
    exact (Function.update_of_ne (by omega) ..).trans (ho.chains_lt c (by omega))
  · intro c x hc
    rcases Table.update_eq_some (t := s.chains) hc with ⟨-, ⟨⟩⟩ | ⟨-, hc⟩
    · exact hb
    · exact ho.chain_buffer c x hc
  · intro m _ _
    refine value_congr rfl fun a ha => ?_
    exact OwnedHeap.object_new_of_ne (Nat.ne_of_lt (OwnedHeap.lt_next (ho.heap.live _ a ha)))

/-- Having tried to attach, a chain function still has its result. -/
theorem owned_attached (ho : Owned s) {x : ChainRun} (hc : s.chains c = some x) :
    Owned (s.setChain c (some { x with attached := true })) ∧
      Keeps s (s.setChain c (some { x with attached := true })) := by
  have hholds : (s.setChain c (some { x with attached := true })).holds = s.holds := by
    rw [holds_setChain, Function.update_eq_self_iff, holds_ofChain hc]
    rfl
  have hlt : c < s.chainCount := by
    by_contra hle
    rw [ho.chains_lt c (Nat.not_lt.mp hle)] at hc
    cases hc
  refine ⟨⟨?_, ho.nonnull, ho.metas_lt, ?_, ho.meta_buffer, ?_⟩, ⟨Nat.le_refl _,
    fun _ _ h => h, fun _ _ _ => rfl⟩⟩
  · rw [hholds]
    exact ho.heap
  · intro c' hle
    have hle' : s.chainCount ≤ c' := hle
    exact (Function.update_of_ne (by omega) ..).trans (ho.chains_lt c' hle')
  · intro c' x' hc'
    rcases Table.update_eq_some (t := s.chains) hc' with ⟨-, ⟨⟩⟩ | ⟨-, hc'⟩
    · exact ho.chain_buffer c x hc
    · exact ho.chain_buffer c' x' hc'

theorem attach_ok (ho : Owned s) {x : ChainRun} (hc : s.chains c = some x) (granted : Bool) :
    ∃ s', s.attach c x granted = .ok s' ∧ Owned s' ∧ Keeps s s' := by
  obtain ⟨v, hv⟩ := ho.heap.object_of_holds (holds_ofChain hc)
  obtain ⟨t, made, hadd, hot, hkeeps, hchains⟩ :=
    add_ok ho (ho.chain_buffer c x hc) hv granted
  have hct : t.chains c = some x := by
    rw [hchains]
    exact hc
  obtain ⟨hot', hkeeps'⟩ := owned_attached hot hct
  exact ⟨_, by simp only [attach, hadd], hot', hkeeps.trans hkeeps'⟩

/-- The store without a run of a chain function and its result. -/
def finished (s : ResultStore) (c a : Nat) (hlt : a < s.heap.next) : ResultStore :=
  ({ s with heap := s.heap.put a none hlt }).setChain c none

theorem chains_finished_eq_some {hlt : a < s.heap.next} {c' : Nat} {x : ChainRun}
    (h : (s.finished c a hlt).chains c' = some x) : s.chains c' = some x :=
  (Table.update_none_eq_some (t := s.chains) h).2

theorem owned_finished (ho : Owned s) (hholds : s.holds (.ofChain c) = some a)
    (hlt : a < s.heap.next) : Owned (s.finished c a hlt) where
  heap := by
    have hholds' : (s.finished c a hlt).holds = Function.update s.holds (.ofChain c) none :=
      holds_setChain (s := { s with heap := s.heap.put a none hlt }) none
    rw [hholds']
    exact ho.heap.put_none hholds hlt
  nonnull := ho.nonnull
  metas_lt := ho.metas_lt
  chains_lt := by
    intro c' hle
    by_contra hne
    obtain ⟨x, hx⟩ := Option.ne_none_iff_exists'.mp hne
    have hold := chains_finished_eq_some hx
    rw [ho.chains_lt c' hle] at hold
    cases hold
  meta_buffer := ho.meta_buffer
  chain_buffer := fun c' x hc' => ho.chain_buffer c' x (chains_finished_eq_some hc')

theorem keeps_finished (ho : Owned s) (hholds : s.holds (.ofChain c) = some a)
    (hlt : a < s.heap.next) : Keeps s (s.finished c a hlt) where
  count := Nat.le_refl _
  gone := fun _ _ hnone => hnone
  value := by
    intro m _ _
    refine value_congr rfl fun b hb => ?_
    have hba : b ≠ a := by
      rintro rfl
      cases ho.heap.unique _ _ _ hb hholds
    exact OwnedHeap.object_put_of_ne none hlt hba

/-- **A chain function that is done** has deleted its result, and nobody else's. -/
theorem finish_ok (ho : Owned s) {x : ChainRun} (hc : s.chains c = some x) :
    ∃ s', s.finish c x = .ok s' ∧ Owned s' ∧ Keeps s s' := by
  have hholds : s.holds (.ofChain c) = some x.result := holds_ofChain hc
  obtain ⟨v, hv⟩ := ho.heap.object_of_holds hholds
  obtain ⟨hlt, hdelete⟩ := OwnedHeap.delete_of_object hv
  have hfinish : s.finish c x = .ok (s.finished c x.result hlt) := by
    simp only [finish, OwnedHeap.read_of_object hv, hdelete]
    rfl
  exact ⟨_, hfinish, owned_finished ho hholds hlt, keeps_finished ho hholds hlt⟩

/-! ### One action -/

theorem newBuffer_ok (ho : Owned s) :
    ∃ s', storeStep s .newBuffer = .ok s' ∧ Owned s' ∧ Keeps s s' := by
  have hbuffer : ∀ b, s.buffers b = true →
      Function.update s.buffers s.bufferCount true b = true := by
    intro b hb
    by_cases hne : b = s.bufferCount
    · rw [hne, Function.update_self]
    · rw [Function.update_of_ne hne]
      exact hb
  exact ⟨_, rfl, ⟨ho.heap, ho.nonnull, ho.metas_lt, ho.chains_lt,
    fun m x hm => hbuffer _ (ho.meta_buffer m x hm),
    fun c x hc => hbuffer _ (ho.chain_buffer c x hc)⟩,
    ⟨Nat.le_refl _, fun _ _ h => h, fun _ _ _ => rfl⟩⟩

/-- Copying a live meta to a live buffer. -/
theorem transform_ok (ho : Owned s) {x : MetaRecord} (hm : s.metas m = some x) {dest : Nat}
    (hdest : s.buffers dest = true) (granted : Bool) :
    ∃ s' copied, s.gstLookoutVisionMetaTransform dest granted x = .ok (s', copied) ∧
      Owned s' ∧ Keeps s s' := by
  obtain ⟨r, v, hresult, hv, -⟩ := ho.result hm
  obtain ⟨s', made, hadd, ho', hkeeps, -⟩ := add_ok ho hdest hv granted
  refine ⟨s', made.isSome, ?_, ho', hkeeps⟩
  simp only [gstLookoutVisionMetaTransform, hresult, hadd]

/-- **One action** never faults, and keeps the discipline and the metas. -/
theorem storeStep_ok (ho : Owned s) (i : StoreAction) :
    ∃ s', storeStep s i = .ok s' ∧ Owned s' ∧ Keeps s s' := by
  cases i with
  | newBuffer => exact newBuffer_ok ho
  | detect buffer v =>
    by_cases hb : s.buffers buffer = true
    · exact ⟨_, by simp only [storeStep, hb, if_true], owned_detect ho hb v⟩
    · exact ⟨s, by simp only [storeStep, hb, Bool.false_eq_true, if_false], ho, .refl s⟩
  | attach c granted =>
    cases hc : s.chains c with
    | none => exact ⟨s, by simp only [storeStep, hc], ho, .refl s⟩
    | some x =>
      by_cases hx : x.attached = true
      · exact ⟨s, by simp only [storeStep, hc, hx, if_true], ho, .refl s⟩
      · obtain ⟨s', hok, hkept⟩ := attach_ok ho hc granted
        exact ⟨s', by simp only [storeStep, hc, hx, Bool.false_eq_true, if_false, hok], hkept⟩
  | finish c =>
    cases hc : s.chains c with
    | none => exact ⟨s, by simp only [storeStep, hc], ho, .refl s⟩
    | some x =>
      by_cases hx : x.attached = true
      · obtain ⟨s', hok, hkept⟩ := finish_ok ho hc
        exact ⟨s', by simp only [storeStep, hc, hx, if_true, hok], hkept⟩
      · exact ⟨s, by simp only [storeStep, hc, hx, Bool.false_eq_true, if_false], ho, .refl s⟩
  | transform m dest granted =>
    cases hm : s.metas m with
    | none => exact ⟨s, by simp only [storeStep, hm], ho, .refl s⟩
    | some x =>
      by_cases hdest : s.buffers dest = true
      · obtain ⟨s', copied, hok, hkept⟩ := transform_ok ho hm hdest granted
        exact ⟨s', by simp only [storeStep, hm, hdest, if_true, hok], hkept⟩
      · exact ⟨s, by simp only [storeStep, hm, hdest, Bool.false_eq_true, if_false], ho, .refl s⟩
  | removeMeta m =>
    obtain ⟨s', hok, ho', hkeeps, -⟩ := removeMeta_ok ho m
    exact ⟨s', hok, ho', hkeeps⟩
  | destroyBuffer buffer =>
    by_cases hidle : (s.buffers buffer && !s.running buffer) = true
    · have hrunning : s.running buffer = false := by
        rw [Bool.and_eq_true, Bool.not_eq_true'] at hidle
        exact hidle.2
      obtain ⟨s', hok, hkept⟩ := destroyBuffer_ok ho hrunning
      exact ⟨s', by simp only [storeStep, hidle, if_true, hok], hkept⟩
    · exact ⟨s, by simp only [storeStep, hidle, Bool.false_eq_true, if_false], ho, .refl s⟩

/-! ## Runs -/

/-- **Every run completes**, and keeps the discipline and the metas. -/
theorem run_owned (ho : Owned s) (is : List StoreAction) :
    ∃ s' h, store.run s is = .ok (s', h) ∧ Owned s' ∧ Keeps s s' := by
  refine Machine.run_invariant (M := store) ⟨ho, .refl s⟩ ?_ is fun _ _ => trivial
  rintro h t i ⟨hot, hkeeps⟩ -
  obtain ⟨t', hok, hot', hkeeps'⟩ := storeStep_ok hot i
  exact ⟨t', (), by simp only [store, hok], hot', hkeeps.trans hkeeps'⟩

/-- The meta points to a live result, which no other meta points to and no chain
function will delete. -/
def SolelyOwns (s : ResultStore) (m : Nat) : Prop :=
  ∃ x a v, s.metas m = some x ∧ x.result = some a ∧ s.heap.object a = some v ∧
    (∀ m' x', s.metas m' = some x' → x'.result = some a → m' = m) ∧
    ∀ c y, s.chains c = some y → y.result ≠ a

theorem Owned.solelyOwns (ho : Owned s) (hm : s.metas m ≠ none) : SolelyOwns s m := by
  obtain ⟨x, hx⟩ := Option.ne_none_iff_exists'.mp hm
  obtain ⟨a, v, ha, hv, -⟩ := ho.result hx
  have hholds : s.holds (.ofMeta m) = some a := (holds_ofMeta hx).trans ha
  refine ⟨x, a, v, hx, ha, hv, fun m' x' hx' ha' => ?_, fun c y hy hya => ?_⟩
  · exact Owner.ofMeta.inj (ho.heap.unique _ _ a ((holds_ofMeta hx').trans ha') hholds)
  · have hchain : s.holds (.ofChain c) = some a := by
      rw [holds_ofChain hy, hya]
    cases ho.heap.unique _ _ a hholds hchain

/-- Where every buffer is gone, so is every result. -/
theorem Owned.object_eq_none (ho : Owned s) (hall : ∀ b, s.buffers b = false) (a : Nat) :
    s.heap.object a = none := by
  refine ho.heap.object_eq_none (fun i => ?_) a
  cases i with
  | ofMeta m =>
    cases hm : s.metas m with
    | none => simp only [holds, hm, Option.bind_none]
    | some x =>
      have hb := ho.meta_buffer m x hm
      rw [hall] at hb
      cases hb
  | ofChain c =>
    cases hc : s.chains c with
    | none => simp only [holds, hc, Option.map_none]
    | some x =>
      have hb := ho.chain_buffer c x hc
      rw [hall] at hb
      cases hb

end

/-- **Each attached result has exactly one owner.**  Along every interleaving, and
however it goes on (`more`):

* no step faults: nothing is read through `NULL` or deleted twice;
* a live meta is the one owner of a live result;
* a meta copied to a live buffer shows what its source shows;
* a meta shows, as long as it is there, what it once showed;
* where every buffer is gone, no result is left. -/
theorem results_owned (is more : List StoreAction) :
    ∃ s h u h', store.run .empty is = .ok (s, h) ∧
      store.run .empty (is ++ more) = .ok (u, h') ∧
      (∀ m, s.metas m ≠ none → SolelyOwns s m) ∧
      (∀ src dest, s.metas src ≠ none → s.buffers dest = true →
        ∃ t a v, store.step s (.transform src dest true) = .ok (t, ()) ∧
          t.metas s.metaCount = some ⟨dest, some a⟩ ∧ s.value src = some v ∧
          t.value s.metaCount = some v) ∧
      (∀ m, m < s.metaCount → u.metas m ≠ none → u.value m = s.value m) ∧
      ((∀ b, s.buffers b = false) → ∀ a, s.heap.object a = none) := by
  obtain ⟨s, h, hrun, ho, -⟩ := run_owned owned_empty is
  obtain ⟨u, h', hrun', -, hkeeps⟩ := run_owned ho more
  refine ⟨s, h, u, h ++ h', hrun, Machine.run_append_ok hrun hrun', fun m => ho.solelyOwns, ?_,
    hkeeps.value, ho.object_eq_none⟩
  intro src dest hsrc hdest
  obtain ⟨x, hx⟩ := Option.ne_none_iff_exists'.mp hsrc
  obtain ⟨r, v, hr, hv, hvalue⟩ := ho.result hx
  refine ⟨s.added dest v, s.heap.next, v, ?_, metas_added_self, hvalue, value_added⟩
  simp only [store, storeStep, hx, hdest, if_true, gstLookoutVisionMetaTransform, hr,
    add_granted hv]

end ResultStore
end LookoutVision
