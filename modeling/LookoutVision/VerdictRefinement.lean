import LookoutVision.ResultOwnership

/-!
# The results on the heap stand for verdicts

`ResultOwnership` has every result owned once.  Under that discipline the pointers of
metas and chain functions have a meaning: each stands for the verdict it points to
(`ResultStore.denote`).  Every function of `gstlookoutvisionmeta.cc` is then, on the
verdicts, an assignment, a copy or a removal (`storeStep_denotes`), in whatever order
the streaming threads' calls arrive, and a run of the store is the run of the
verdicts (`store_refines`).

What a meta shows is therefore what some chain function computed for a frame, however
often it was copied from buffer to buffer (`shown_was_detected`).
-/

namespace LookoutVision

/-- A meta, by what it says. -/
structure Verdict where
  buffer : Nat
  result : GstLookoutVisionResult
deriving DecidableEq, Repr

/-- A run of the chain function, by what it has computed. -/
structure Judging where
  buffer : Nat
  result : GstLookoutVisionResult
  attached : Bool
deriving DecidableEq, Repr

/-- The store without pointers. -/
@[ext]
structure Verdicts where
  buffers : Nat → Bool
  bufferCount : Nat
  metas : Nat → Option Verdict
  metaCount : Nat
  chains : Nat → Option Judging
  chainCount : Nat

namespace Verdicts

def empty : Verdicts := ⟨fun _ => false, 0, fun _ => none, 0, fun _ => none, 0⟩

variable (v : Verdicts)

/-- One more verdict on a buffer. -/
def add (buffer : Nat) (result : GstLookoutVisionResult) : Verdicts :=
  { v with
    metas := Function.update v.metas v.metaCount (some ⟨buffer, result⟩)
    metaCount := v.metaCount + 1 }

def setChain (c : Nat) (x : Option Judging) : Verdicts :=
  { v with chains := Function.update v.chains c x }

def running (buffer : Nat) : Bool :=
  (List.range v.chainCount).any fun c => (v.chains c).any fun x => x.buffer == buffer

/-- One action, on verdicts. -/
def step : StoreAction → Verdicts
  | .newBuffer => { v with
      buffers := Function.update v.buffers v.bufferCount true
      bufferCount := v.bufferCount + 1 }
  | .detect buffer result =>
      if v.buffers buffer then
        { v.setChain v.chainCount (some ⟨buffer, result, false⟩) with
          chainCount := v.chainCount + 1 }
      else v
  | .attach c granted =>
      match v.chains c with
      | none => v
      | some x =>
          if x.attached then v
          else (if granted then v.add x.buffer x.result else v).setChain c
            (some { x with attached := true })
  | .finish c =>
      match v.chains c with
      | none => v
      | some x => if x.attached then v.setChain c none else v
  | .transform m dest granted =>
      match v.metas m with
      | none => v
      | some x => if v.buffers dest && granted then v.add dest x.result else v
  | .removeMeta m => { v with metas := Function.update v.metas m none }
  | .destroyBuffer buffer =>
      if v.buffers buffer && !v.running buffer then
        { v with
          metas := fun m => (v.metas m).filter fun x => x.buffer != buffer
          buffers := Function.update v.buffers buffer false }
      else v

end Verdicts

namespace ResultStore

/-- What an owner's pointer points to. -/
def shows (s : ResultStore) : Owner → Option GstLookoutVisionResult := s.heap.contents s.holds

/-- **What a store stands for.** -/
def denote (s : ResultStore) : Verdicts where
  buffers := s.buffers
  bufferCount := s.bufferCount
  metas := fun m => (s.metas m).bind fun x => (s.shows (.ofMeta m)).map fun v => ⟨x.buffer, v⟩
  metaCount := s.metaCount
  chains := fun c => (s.chains c).bind fun x =>
    (s.shows (.ofChain c)).map fun v => ⟨x.buffer, v, x.attached⟩
  chainCount := s.chainCount

section
variable {s s' : ResultStore} {m c a : Nat}

/-! ## What each function does to the verdicts -/

/-- What a change to one meta does. -/
theorem denote_of_meta {x : Option MetaRecord} {y : Option GstLookoutVisionResult}
    (hshows : s'.shows = Function.update s.shows (.ofMeta m) y)
    (hmetas : s'.metas = Function.update s.metas m x) (hchains : s'.chains = s.chains) :
    s'.denote.metas = Function.update s.denote.metas m
        (x.bind fun x => y.map fun v => ⟨x.buffer, v⟩) ∧
      s'.denote.chains = s.denote.chains := by
  constructor
  · funext m'
    simp only [denote, hmetas, hshows]
    by_cases hm : m' = m
    · rw [hm, Function.update_self, Function.update_self, Function.update_self]
    · rw [Function.update_of_ne hm, Function.update_of_ne hm,
        Function.update_of_ne (fun h => hm (Owner.ofMeta.inj h))]
  · funext c
    simp only [denote, hchains, hshows]
    rw [Function.update_of_ne (fun h => Owner.noConfusion h)]

/-- What a change to one run of a chain function does. -/
theorem denote_of_chain {x : Option ChainRun} {y : Option GstLookoutVisionResult}
    (hshows : s'.shows = Function.update s.shows (.ofChain c) y)
    (hchains : s'.chains = Function.update s.chains c x) (hmetas : s'.metas = s.metas) :
    s'.denote.chains = Function.update s.denote.chains c
        (x.bind fun x => y.map fun v => ⟨x.buffer, v, x.attached⟩) ∧
      s'.denote.metas = s.denote.metas := by
  constructor
  · funext c'
    simp only [denote, hchains, hshows]
    by_cases hc : c' = c
    · rw [hc, Function.update_self, Function.update_self, Function.update_self]
    · rw [Function.update_of_ne hc, Function.update_of_ne hc,
        Function.update_of_ne (fun h => hc (Owner.ofChain.inj h))]
  · funext m
    simp only [denote, hmetas, hshows]
    rw [Function.update_of_ne (fun h => Owner.noConfusion h)]

theorem denote_added (ho : Owned s) (buffer : Nat) (v : GstLookoutVisionResult) :
    (s.added buffer v).denote = s.denote.add buffer v := by
  have hshows : (s.added buffer v).shows =
      Function.update s.shows (.ofMeta s.metaCount) (some v) := by
    unfold shows
    rw [holds_added]
    exact ho.heap.contents_new (.ofMeta s.metaCount) v
  obtain ⟨hmetas, hchains⟩ := denote_of_meta hshows rfl rfl
  exact Verdicts.ext rfl rfl hmetas rfl hchains rfl

/-- **Attaching** a result that is there, granted or refused. -/
theorem add_denotes (ho : Owned s) {buffer r : Nat} (hb : s.buffers buffer = true)
    {v : GstLookoutVisionResult} (hr : s.heap.object r = some v) (granted : Bool) :
    ∃ s' made, s.gstBufferAddLookoutVisionMeta buffer granted (some r) = .ok (s', made) ∧
      Owned s' ∧ s'.chains = s.chains ∧
      s'.denote = if granted then s.denote.add buffer v else s.denote := by
  cases granted with
  | false => exact ⟨s, none, rfl, ho, rfl, rfl⟩
  | true =>
    exact ⟨_, _, add_granted hr buffer, owned_added ho hb v, rfl, denote_added ho buffer v⟩

/-- **A meta goes.** -/
theorem removeMeta_denotes (ho : Owned s) (m : Nat) :
    ∃ s', s.removeMeta m = .ok s' ∧ Owned s' ∧ s'.denote = s.denote.step (.removeMeta m) ∧
      s'.metas = Function.update s.metas m none := by
  cases hm : s.metas m with
  | none =>
    have hsame : s.denote.metas m = none := by simp only [denote, hm, Option.bind_none]
    refine ⟨s, by simp only [removeMeta, hm], ho, ?_, ?_⟩
    · simp only [Verdicts.step, ← hsame, Function.update_eq_self]
    · rw [← hm, Function.update_eq_self]
  | some x =>
    obtain ⟨a, v, ha, hv, -⟩ := ho.result hm
    have hholds : s.holds (.ofMeta m) = some a := (holds_ofMeta hm).trans ha
    obtain ⟨hlt, hdelete⟩ := OwnedHeap.delete_of_object hv
    have hremove : s.removeMeta m = .ok (s.removed m a hlt) := by
      simp only [removeMeta, hm, gstLookoutVisionMetaFree, ha, hdelete]
      simp only [setMeta, Function.update_idem]
      rfl
    have hshows : (s.removed m a hlt).shows = Function.update s.shows (.ofMeta m) none := by
      have hholds' : (s.removed m a hlt).holds = Function.update s.holds (.ofMeta m) none :=
        holds_setMeta (s := { s with heap := s.heap.put a none hlt }) none
      unfold shows
      rw [hholds']
      exact ho.heap.contents_put_none hholds hlt
    obtain ⟨hmetas, hchains⟩ := denote_of_meta (x := none) hshows rfl rfl
    exact ⟨_, hremove, owned_removed ho hholds hlt,
      Verdicts.ext rfl rfl hmetas rfl hchains rfl, rfl⟩

/-- **A chain function has its result.** -/
theorem denote_detect (ho : Owned s) (buffer : Nat) (v : GstLookoutVisionResult) :
    (s.detect buffer v).denote =
      { s.denote.setChain s.chainCount (some ⟨buffer, v, false⟩) with
        chainCount := s.chainCount + 1 } := by
  have hshows : (s.detect buffer v).shows =
      Function.update s.shows (.ofChain s.chainCount) (some v) := by
    have hholds : (s.detect buffer v).holds =
        Function.update s.holds (.ofChain s.chainCount) (some s.heap.next) :=
      holds_setChain (s := s) (c := s.chainCount) (some ⟨buffer, s.heap.next, false⟩)
    unfold shows
    rw [hholds]
    exact ho.heap.contents_new (.ofChain s.chainCount) v
  obtain ⟨hchains, hmetas⟩ :=
    denote_of_chain (x := some ⟨buffer, s.heap.next, false⟩) hshows rfl rfl
  exact Verdicts.ext rfl rfl hmetas rfl hchains rfl

/-- **It is done with its result.** -/
theorem finish_denotes (ho : Owned s) {x : ChainRun} (hc : s.chains c = some x) :
    ∃ s', s.finish c x = .ok s' ∧ Owned s' ∧ s'.denote = s.denote.setChain c none := by
  have hholds : s.holds (.ofChain c) = some x.result := holds_ofChain hc
  obtain ⟨v, hv⟩ := ho.heap.object_of_holds hholds
  obtain ⟨hlt, hdelete⟩ := OwnedHeap.delete_of_object hv
  have hfinish : s.finish c x = .ok (s.finished c x.result hlt) := by
    simp only [finish, OwnedHeap.read_of_object hv, hdelete]
    rfl
  have hshows : (s.finished c x.result hlt).shows =
      Function.update s.shows (.ofChain c) none := by
    have hholds' : (s.finished c x.result hlt).holds =
        Function.update s.holds (.ofChain c) none :=
      holds_setChain (s := { s with heap := s.heap.put x.result none hlt }) none
    unfold shows
    rw [hholds']
    exact ho.heap.contents_put_none hholds hlt
  obtain ⟨hchains, hmetas⟩ := denote_of_chain (x := none) hshows rfl rfl
  exact ⟨_, hfinish, owned_finished ho hholds hlt, Verdicts.ext rfl rfl hmetas rfl hchains rfl⟩

/-! ## What the verdicts say of the store -/

theorem Owned.denote_meta (ho : Owned s) {x : MetaRecord} (hm : s.metas m = some x) :
    ∃ a v, x.result = some a ∧ s.heap.object a = some v ∧
      s.denote.metas m = some ⟨x.buffer, v⟩ := by
  obtain ⟨a, v, ha, hv, -⟩ := ho.result hm
  have hshows : s.shows (.ofMeta m) = some v := by
    rw [shows, OwnedHeap.contents_of_some ((holds_ofMeta hm).trans ha), hv]
  refine ⟨a, v, ha, hv, ?_⟩
  simp only [denote, hm, hshows, Option.bind_some, Option.map_some]

theorem Owned.denote_chain (ho : Owned s) {x : ChainRun} (hc : s.chains c = some x) :
    ∃ v, s.heap.object x.result = some v ∧ s.shows (.ofChain c) = some v ∧
      s.denote.chains c = some ⟨x.buffer, v, x.attached⟩ := by
  obtain ⟨v, hv⟩ := ho.heap.object_of_holds (holds_ofChain hc)
  have hshows : s.shows (.ofChain c) = some v := by
    rw [shows, OwnedHeap.contents_of_some (holds_ofChain hc), hv]
  refine ⟨v, hv, hshows, ?_⟩
  simp only [denote, hc, hshows, Option.bind_some, Option.map_some]

theorem denote_meta_none (hm : s.metas m = none) : s.denote.metas m = none := by
  simp only [denote, hm, Option.bind_none]

theorem denote_chain_none (hc : s.chains c = none) : s.denote.chains c = none := by
  simp only [denote, hc, Option.bind_none]

/-- A chain function runs on a buffer or not, with pointers and without. -/
theorem Owned.denote_running (ho : Owned s) (buffer : Nat) :
    s.denote.running buffer = s.running buffer := by
  have heach : ∀ c, ((s.denote.chains c).any fun x => x.buffer == buffer) =
      (s.chains c).any fun x => x.buffer == buffer := by
    intro c
    cases hc : s.chains c with
    | none => rw [denote_chain_none hc, Option.any_none, Option.any_none]
    | some x =>
      obtain ⟨v, -, -, hdenote⟩ := ho.denote_chain hc
      rw [hdenote, Option.any_some, Option.any_some]
  simp only [Verdicts.running, heach]
  rfl

/-- **A chain function attaches.** -/
theorem attach_denotes (ho : Owned s) {x : ChainRun} (hc : s.chains c = some x)
    {v : GstLookoutVisionResult} (hv : s.heap.object x.result = some v) (granted : Bool) :
    ∃ s', s.attach c x granted = .ok s' ∧ Owned s' ∧
      s'.denote = (if granted then s.denote.add x.buffer v else s.denote).setChain c
        (some ⟨x.buffer, v, true⟩) := by
  obtain ⟨t, made, hadd, hot, hchains, hdenote⟩ :=
    add_denotes ho (ho.chain_buffer c x hc) hv granted
  have hct : t.chains c = some x := by
    rw [hchains]
    exact hc
  obtain ⟨hot', -⟩ := owned_attached hot hct
  have hshown : t.shows (.ofChain c) = some v := by
    obtain ⟨w, hw, hshown, hold⟩ := hot.denote_chain hct
    obtain ⟨v', hv', -, hbefore⟩ := ho.denote_chain hc
    have hsame : t.denote.chains c = s.denote.chains c := by
      rw [hdenote]
      cases granted <;> rfl
    rw [hold, hbefore] at hsame
    obtain rfl := Option.some.inj (hv'.symm.trans hv)
    injection Option.some.inj hsame with _ hresult _
    rw [hshown, hresult]
  have hshows : (t.setChain c (some { x with attached := true })).shows =
      Function.update t.shows (.ofChain c) (some v) := by
    have hholds : (t.setChain c (some { x with attached := true })).holds = t.holds := by
      rw [holds_setChain, Function.update_eq_self_iff, holds_ofChain hct]
      rfl
    have hsame : (t.setChain c (some { x with attached := true })).shows = t.shows := by
      unfold shows
      rw [hholds]
      rfl
    rw [hsame, ← hshown, Function.update_eq_self]
  obtain ⟨hafter, hmetas⟩ :=
    denote_of_chain (x := some { x with attached := true }) hshows rfl rfl
  refine ⟨_, by simp only [attach, hadd], hot', ?_⟩
  rw [← hdenote]
  exact Verdicts.ext rfl rfl hmetas rfl hafter rfl

/-- **A buffer goes**, with what its metas say. -/
theorem destroyBuffer_denotes (ho : Owned s) {buffer : Nat} (hidle : s.running buffer = false) :
    ∃ s', s.destroyBuffer buffer = .ok s' ∧ Owned s' ∧
      s'.denote = { s.denote with
        metas := fun m => (s.denote.metas m).filter fun x => x.buffer != buffer
        buffers := Function.update s.denote.buffers buffer false } := by
  obtain ⟨s', hdestroy, ho', -⟩ := destroyBuffer_ok ho hidle
  refine ⟨s', hdestroy, ho', ?_⟩
  -- One after another, its metas go and no others.
  have hall : ∃ t, (s.metasOf buffer).foldlM removeMeta s = .ok t ∧ Owned t ∧
      t.denote = { s.denote with
        metas := fun m => if m ∈ s.metasOf buffer then none else s.denote.metas m } := by
    refine Machine.foldlM_invariant (J := fun done t => Owned t ∧ t.denote = { s.denote with
      metas := fun m => if m ∈ done then none else s.denote.metas m }) ?_ ⟨ho, ?_⟩
    · rintro done t m ⟨hot, hdenote⟩ -
      obtain ⟨t', hremove, hot', hdenote', -⟩ := removeMeta_denotes hot m
      refine ⟨t', hremove, hot', ?_⟩
      rw [hdenote', hdenote]
      refine Verdicts.ext rfl rfl (funext fun m' => ?_) rfl rfl rfl
      by_cases hm : m' = m
      · simp [Verdicts.step, hm]
      · simp [Verdicts.step, hm]
    · refine Verdicts.ext rfl rfl (funext fun m => ?_) rfl rfl rfl
      simp
  obtain ⟨t, hfold, -, hdenote⟩ := hall
  have hlast : s' = { t with buffers := Function.update t.buffers buffer false } := by
    simp only [destroyBuffer, hfold] at hdestroy
    exact (Except.ok.inj hdestroy).symm
  have hbuffers : t.buffers = s.buffers := congrArg Verdicts.buffers hdenote
  have hmetas : (fun m => if m ∈ s.metasOf buffer then none else s.denote.metas m) =
      fun m => (s.denote.metas m).filter fun x => x.buffer != buffer := by
    funext m
    cases hm : s.metas m with
    | none => simp [denote_meta_none hm]
    | some x =>
      obtain ⟨a, v, -, -, hmeta⟩ := ho.denote_meta hm
      have hmem : m ∈ s.metasOf buffer ↔ x.buffer = buffer := by
        constructor
        · intro hin
          simpa [hm] using (List.mem_filter.mp hin).2
        · rintro rfl
          exact ho.mem_metasOf hm
      simp [hmem, hmeta, Option.filter_some]
  have hgone : ({ t with buffers := Function.update t.buffers buffer false } :
      ResultStore).denote =
        { t.denote with buffers := Function.update t.buffers buffer false } := rfl
  rw [hlast, hgone, hdenote, hbuffers, hmetas]
  rfl

/-- **One action**, on pointers and on what they stand for. -/
theorem storeStep_denotes (ho : Owned s) (i : StoreAction) :
    ∃ s', storeStep s i = .ok s' ∧ Owned s' ∧ s'.denote = s.denote.step i := by
  cases i with
  | newBuffer =>
    obtain ⟨s', hok, ho', -⟩ := newBuffer_ok ho
    refine ⟨s', hok, ho', ?_⟩
    rw [← Except.ok.inj hok]
    rfl
  | detect buffer v =>
    have hbuffers : s.denote.buffers = s.buffers := rfl
    by_cases hb : s.buffers buffer = true
    · refine ⟨_, by simp only [storeStep, hb, if_true], (owned_detect ho hb v).1, ?_⟩
      simp only [Verdicts.step, hbuffers, hb, if_true]
      exact denote_detect ho buffer v
    · refine ⟨s, by simp only [storeStep, hb, Bool.false_eq_true, if_false], ho, ?_⟩
      simp only [Verdicts.step, hbuffers, hb, Bool.false_eq_true, if_false]
  | attach c granted =>
    cases hc : s.chains c with
    | none =>
      refine ⟨s, by simp only [storeStep, hc], ho, ?_⟩
      simp only [Verdicts.step, denote_chain_none hc]
    | some x =>
      obtain ⟨v, hv, -, hchain⟩ := ho.denote_chain hc
      by_cases hx : x.attached = true
      · refine ⟨s, by simp only [storeStep, hc, hx, if_true], ho, ?_⟩
        simp only [Verdicts.step, hchain, hx, if_true]
      · obtain ⟨s', hok, ho', hdenote⟩ := attach_denotes ho hc hv granted
        refine ⟨s', by simp only [storeStep, hc, hx, Bool.false_eq_true, if_false, hok], ho', ?_⟩
        simp only [Verdicts.step, hchain, hx, Bool.false_eq_true, if_false]
        exact hdenote
  | finish c =>
    cases hc : s.chains c with
    | none =>
      refine ⟨s, by simp only [storeStep, hc], ho, ?_⟩
      simp only [Verdicts.step, denote_chain_none hc]
    | some x =>
      obtain ⟨v, hv, -, hchain⟩ := ho.denote_chain hc
      by_cases hx : x.attached = true
      · obtain ⟨s', hok, ho', hdenote⟩ := finish_denotes ho hc
        refine ⟨s', by simp only [storeStep, hc, hx, if_true, hok], ho', ?_⟩
        simp only [Verdicts.step, hchain, hx, if_true]
        exact hdenote
      · refine ⟨s, by simp only [storeStep, hc, hx, Bool.false_eq_true, if_false], ho, ?_⟩
        simp only [Verdicts.step, hchain, hx, Bool.false_eq_true, if_false]
  | transform m dest granted =>
    have hbuffers : s.denote.buffers = s.buffers := rfl
    cases hm : s.metas m with
    | none =>
      refine ⟨s, by simp only [storeStep, hm], ho, ?_⟩
      simp only [Verdicts.step, denote_meta_none hm]
    | some x =>
      obtain ⟨r, v, hr, hv, hmeta⟩ := ho.denote_meta hm
      by_cases hdest : s.buffers dest = true
      · obtain ⟨s', made, hadd, ho', -, hdenote⟩ := add_denotes ho hdest hv granted
        refine ⟨s', ?_, ho', ?_⟩
        · simp only [storeStep, hm, hdest, if_true, gstLookoutVisionMetaTransform, hr, hadd]
        · simp only [Verdicts.step, hmeta, hbuffers, hdest, Bool.true_and]
          exact hdenote
      · refine ⟨s, by simp only [storeStep, hm, hdest, Bool.false_eq_true, if_false], ho, ?_⟩
        simp only [Verdicts.step, hmeta, hbuffers, hdest, Bool.false_and, Bool.false_eq_true,
          if_false]
  | removeMeta m =>
    obtain ⟨s', hok, ho', hdenote, -⟩ := removeMeta_denotes ho m
    exact ⟨s', hok, ho', hdenote⟩
  | destroyBuffer buffer =>
    have hbuffers : s.denote.buffers = s.buffers := rfl
    by_cases hidle : (s.buffers buffer && !s.running buffer) = true
    · have hrunning : s.running buffer = false := by
        rw [Bool.and_eq_true, Bool.not_eq_true'] at hidle
        exact hidle.2
      obtain ⟨s', hok, ho', hdenote⟩ := destroyBuffer_denotes ho hrunning
      refine ⟨s', by simp only [storeStep, hidle, if_true, hok], ho', ?_⟩
      simp only [Verdicts.step, hbuffers, ho.denote_running, hidle, if_true]
      exact hdenote
    · refine ⟨s, by simp only [storeStep, hidle, Bool.false_eq_true, if_false], ho, ?_⟩
      simp only [Verdicts.step, hbuffers, ho.denote_running, hidle, Bool.false_eq_true, if_false]

end

/-! ## Runs -/

/-- What a run leaves stands for what the same actions make of the verdicts. -/
theorem run_denotes {is : List StoreAction} {s : ResultStore}
    {h : List (StoreAction × Unit)} (hrun : store.run .empty is = .ok (s, h)) :
    Owned s ∧ s.denote = is.foldl Verdicts.step .empty := by
  induction is using List.reverseRecOn generalizing s h with
  | nil =>
    obtain ⟨rfl, -⟩ := Prod.mk.inj (Except.ok.inj hrun)
    exact ⟨owned_empty, rfl⟩
  | append_singleton is i ih =>
    obtain ⟨t, h', o, hpre, hstep, -⟩ := Machine.run_snoc_inv hrun
    obtain ⟨ho, hdenote⟩ := ih hpre
    obtain ⟨s', hok, ho', hdenote'⟩ := storeStep_denotes ho i
    simp only [store, hok] at hstep
    obtain ⟨rfl, -⟩ := Prod.mk.inj (Except.ok.inj hstep)
    refine ⟨ho', ?_⟩
    rw [hdenote', hdenote, List.foldl_append, List.foldl_cons, List.foldl_nil]

/-- **The store refines its verdicts**: along every interleaving every step completes,
and the store then stands for what the same actions make of the verdicts. -/
theorem store_refines (is : List StoreAction) :
    ∃ s h, store.run .empty is = .ok (s, h) ∧ Owned s ∧
      s.denote = is.foldl Verdicts.step .empty := by
  obtain ⟨s, h, hrun, -, -⟩ := run_owned owned_empty is
  exact ⟨s, h, hrun, run_denotes hrun⟩

end ResultStore

/-! ## Where a verdict comes from -/

/-- A result shown on a buffer was computed by a chain function, and for that very
buffer if no copy to it was granted. -/
structure Sourced (is : List StoreAction) (buffer : Nat) (result : GstLookoutVisionResult) :
    Prop where
  detected : ∃ origin, .detect origin result ∈ is
  original : (∀ srcMeta, .transform srcMeta buffer true ∉ is) → .detect buffer result ∈ is

/-- What all metas and all chain functions have to show comes from the actions. -/
structure AllSourced (is : List StoreAction) (v : Verdicts) : Prop where
  metas : ∀ m x, v.metas m = some x → Sourced is x.buffer x.result
  chains : ∀ c x, v.chains c = some x → .detect x.buffer x.result ∈ is

section
variable {is : List StoreAction} {i : StoreAction} {v : Verdicts}

theorem Sourced.snoc {buffer : Nat} {result : GstLookoutVisionResult}
    (h : Sourced is buffer result) : Sourced (is ++ [i]) buffer result where
  detected := by
    obtain ⟨origin, hmem⟩ := h.detected
    exact ⟨origin, List.mem_append_left _ hmem⟩
  original := fun hnone => List.mem_append_left _
    (h.original fun srcMeta hmem => hnone srcMeta (List.mem_append_left _ hmem))

theorem AllSourced.snoc (h : AllSourced is v) : AllSourced (is ++ [i]) v where
  metas := fun m x hm => (h.metas m x hm).snoc
  chains := fun c x hc => List.mem_append_left _ (h.chains c x hc)

theorem AllSourced.add (h : AllSourced is v) {buffer : Nat} {result : GstLookoutVisionResult}
    (hs : Sourced is buffer result) : AllSourced is (v.add buffer result) where
  metas := by
    intro m x hm
    rcases Table.update_eq_some (t := v.metas) hm with ⟨-, ⟨⟩⟩ | ⟨-, hold⟩
    · exact hs
    · exact h.metas m x hold
  chains := h.chains

theorem AllSourced.setChain (h : AllSourced is v) {c : Nat} {x : Option Judging}
    (hx : ∀ y, x = some y → .detect y.buffer y.result ∈ is) :
    AllSourced is (v.setChain c x) where
  metas := h.metas
  chains := by
    intro c' y hc
    rcases Table.update_eq_some (t := v.chains) hc with ⟨-, hnew⟩ | ⟨-, hold⟩
    · exact hx y hnew
    · exact h.chains c' y hold

/-- **One action.** -/
theorem AllSourced.step (h : AllSourced is v) (i : StoreAction) :
    AllSourced (is ++ [i]) (v.step i) := by
  have hkept : AllSourced (is ++ [i]) v := h.snoc
  cases i with
  | newBuffer => exact ⟨hkept.metas, hkept.chains⟩
  | detect buffer result =>
    simp only [Verdicts.step]
    split
    · have hset : AllSourced (is ++ [.detect buffer result])
          (v.setChain v.chainCount (some ⟨buffer, result, false⟩)) := by
        refine hkept.setChain fun y hy => ?_
        obtain rfl := Option.some.inj hy
        exact List.mem_append_right _ (List.mem_singleton_self _)
      exact ⟨hset.metas, hset.chains⟩
    · exact hkept
  | attach c granted =>
    simp only [Verdicts.step]
    split
    · exact hkept
    · rename_i x hc
      have hdetected := hkept.chains c x hc
      have hadded : AllSourced (is ++ [.attach c granted])
          (if granted then v.add x.buffer x.result else v) := by
        split
        · exact hkept.add ⟨⟨x.buffer, hdetected⟩, fun _ => hdetected⟩
        · exact hkept
      split
      · exact hkept
      · refine hadded.setChain fun y hy => ?_
        obtain rfl := Option.some.inj hy
        exact hdetected
  | finish c =>
    simp only [Verdicts.step]
    split
    · exact hkept
    · split
      · refine hkept.setChain fun y hy => ?_
        cases hy
      · exact hkept
  | transform m dest granted =>
    simp only [Verdicts.step]
    split
    · exact hkept
    · rename_i x hm
      split
      · rename_i hcopied
        obtain ⟨-, rfl⟩ := Bool.and_eq_true_iff.mp hcopied
        refine hkept.add ⟨(hkept.metas m x hm).detected, fun hnone => ?_⟩
        exact absurd (List.mem_append_right _ (List.mem_singleton_self _)) (hnone m)
      · exact hkept
  | removeMeta m =>
    refine ⟨fun m' x hm' => ?_, hkept.chains⟩
    exact hkept.metas m' x (Table.update_none_eq_some (t := v.metas) hm').2
  | destroyBuffer buffer =>
    simp only [Verdicts.step]
    split
    · refine ⟨fun m x hm => ?_, hkept.chains⟩
      exact hkept.metas m x (Option.filter_eq_some_iff.mp hm).1
    · exact hkept

theorem allSourced_run (is : List StoreAction) :
    AllSourced is (is.foldl Verdicts.step .empty) := by
  induction is using List.reverseRecOn with
  | nil =>
    constructor
    · intro m x hm
      cases hm
    · intro c x hc
      cases hc
  | append_singleton is i ih =>
    rw [List.foldl_append, List.foldl_cons, List.foldl_nil]
    exact ih.step i

end

/-- **A verdict shown was computed.**  Along every interleaving, what a meta points to
is a result that a chain function computed, and computed for the frame in that very
buffer unless a copy of a meta to it was granted. -/
theorem shown_was_detected (is : List StoreAction) :
    ∃ s h, store.run .empty is = .ok (s, h) ∧ ∀ m x, s.metas m = some x →
      ∃ result, s.value m = some result ∧ Sourced is x.buffer result := by
  obtain ⟨s, h, hrun, ho, -⟩ := ResultStore.run_owned ResultStore.owned_empty is
  obtain ⟨-, hdenote⟩ := ResultStore.run_denotes hrun
  refine ⟨s, h, hrun, fun m x hm => ?_⟩
  obtain ⟨a, result, ha, hobject, hvalue⟩ := ho.result hm
  obtain ⟨b, shown, hb, hobject', hmeta⟩ := ho.denote_meta hm
  obtain rfl := Option.some.inj (ha.symm.trans hb)
  obtain rfl := Option.some.inj (hobject.symm.trans hobject')
  have hsourced := allSourced_run is
  rw [← hdenote] at hsourced
  exact ⟨result, hvalue, hsourced.metas m _ hmeta⟩

end LookoutVision
