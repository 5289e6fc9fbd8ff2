import LookoutVision.OutcomeText

/-!
# Which verdict a reader finds

A buffer passes through `lookoutvision` elements, each with a model and a client
of its own, and through copies.  `passage` is the machine of one buffer's way:
its inputs are the hops, its outputs what each element attached.

An element adds its meta behind those that are there, a copy keeps their order,
and the reader takes the first one.  So the verdict it finds is that of the first
element on the way, however many followed; it is the latest verdict exactly when
the two are equal (`latest_verdict_iff`).
-/

namespace LookoutVision

/-- A buffer on its way, in a process where the plugin's meta is `registered` or
not yet. -/
structure Passage where
  registered : Bool
  buffer : GstBuffer
deriving DecidableEq, Repr

inductive Hop
  | lookoutVision (e : Element) (env : Environment)
  | copy (carried : String → Bool)

def passageStep (p : Passage) :
    Hop → Except Fault (Passage × Option GstLookoutVisionResult)
  | .lookoutVision e env =>
      match gstLookoutVisionChain env e p.buffer with
      | .error fault => .error fault
      | .ok c => .ok (⟨true, c.pushed.headD p.buffer⟩, some c.result)
  | .copy carried =>
      match gstBufferCopy carried p.buffer with
      | .error fault => .error fault
      | .ok copied => .ok (⟨p.registered, copied⟩, none)

/-- **A buffer's way as a machine.** -/
def passage : Machine Passage Hop (Option GstLookoutVisionResult) Fault := ⟨passageStep⟩

/-- The results attached on the way, in order. -/
def attached (h : List (Hop × Option GstLookoutVisionResult)) : List GstLookoutVisionResult :=
  h.filterMap Prod.snd

/-- The verdict of a hop on an image, if it makes one. -/
def Hop.verdict? (data : List UInt8) : Hop → Option GstLookoutVisionResult
  | .lookoutVision e env => some (verdict env e.filter data)
  | .copy _ => none

/-- The verdicts on an image along a way, in order. -/
def verdicts (data : List UInt8) (hops : List Hop) : List GstLookoutVisionResult :=
  hops.filterMap (Hop.verdict? data)

/-- A meta as `gst_buffer_add_lookout_vision_meta` leaves it. -/
def metaWith (result : GstLookoutVisionResult) : GstLookoutVisionMeta := ⟨some result⟩

/-- The element's client is in working order, and so are its system calls. -/
def Hop.InOrder : Hop → Prop
  | .lookoutVision e env =>
      ∃ build, Served build env.os ∧ Ready build e.kernel e.filter.inferenceClient
  | .copy _ => True

/-- **What a buffer is like on its way**: writable, with the bytes it started
with, and with one meta for each verdict, in order. -/
structure Underway (data : List UInt8) (h : List (Hop × Option GstLookoutVisionResult))
    (p : Passage) : Prop where
  writable : p.buffer.Writable
  bytes : p.buffer.data = data
  metas : p.buffer.lookoutVisionMetas = (attached h).map metaWith
  truthful : attached h = verdicts data (h.map Prod.fst)
  registered : attached h ≠ [] → p.registered = true

section
variable {data : List UInt8} {h : List (Hop × Option GstLookoutVisionResult)} {p p' : Passage}
  {hop : Hop} {o : Option GstLookoutVisionResult}

theorem attached_snoc : attached (h ++ [(hop, o)]) = attached h ++ o.toList := by
  unfold attached
  rw [List.filterMap_append]
  cases o <;> rfl

theorem verdicts_snoc (hops : List Hop) :
    verdicts data (hops ++ [hop]) = verdicts data hops ++ (hop.verdict? data).toList := by
  unfold verdicts
  rw [List.filterMap_append]
  cases hv : hop.verdict? data <;> simp [hv]

/-- An element's hop, for a run of the chain function that completes. -/
theorem Underway.chained (hu : Underway data h p) {e : Element} {env : Environment} {c : Chained}
    (hc : gstLookoutVisionChain env e p.buffer = .ok c) :
    Underway data (h ++ [(.lookoutVision e env, some c.result)])
      ⟨true, c.pushed.headD p.buffer⟩ := by
  have hverdict : c.result = verdict env e.filter data := by
    rw [(chain_pushes hc).1.result, hu.bytes]
  rw [(chain_pushes hc).2, List.headD_cons]
  refine ⟨addMeta_refcount.trans hu.writable, addMeta_data.trans hu.bytes, ?_, ?_, fun _ => rfl⟩
  · rw [lookoutVisionMetas_addMeta hu.writable, hu.metas, attached_snoc, List.map_append]
    rfl
  · rw [attached_snoc, List.map_append, List.map_singleton, verdicts_snoc, hu.truthful, hverdict]
    rfl

/-- Every meta on the way has its result. -/
theorem Underway.result_ne_none (hu : Underway data h p) :
    ∀ value ∈ p.buffer.lookoutVisionMetas, value.result ≠ none := by
  intro value hv
  rw [hu.metas] at hv
  obtain ⟨result, -, rfl⟩ := List.mem_map.mp hv
  exact Option.some_ne_none result

/-- A copy's hop completes, and changes nothing a reader can see. -/
theorem Underway.copied (hu : Underway data h p) (carried : String → Bool) :
    ∃ copied, gstBufferCopy carried p.buffer = .ok copied ∧
      Underway data (h ++ [(.copy carried, none)]) ⟨p.registered, copied⟩ := by
  obtain ⟨copied, hcopy, hw, hdata, hmetas⟩ := copy_ok carried hu.result_ne_none
  have hattached : attached (h ++ [(.copy carried, none)]) = attached h := by
    rw [attached_snoc]
    exact List.append_nil _
  refine ⟨copied, hcopy, hw, hdata.trans hu.bytes, ?_, ?_, ?_⟩
  · rw [hattached]
    exact hmetas.trans hu.metas
  · rw [hattached, List.map_append, List.map_singleton, verdicts_snoc, hu.truthful]
    exact (List.append_nil _).symm
  · rw [hattached]
    exact hu.registered

/-- One hop that completes keeps the buffer as it has to be. -/
theorem underway_step (hu : Underway data h p) (hs : passage.step p hop = .ok (p', o)) :
    Underway data (h ++ [(hop, o)]) p' := by
  change passageStep p hop = .ok (p', o) at hs
  cases hop with
  | lookoutVision e env =>
    cases hc : gstLookoutVisionChain env e p.buffer with
    | error fault =>
      simp only [passageStep, hc] at hs
      cases hs
    | ok c =>
      simp only [passageStep, hc] at hs
      obtain ⟨rfl, rfl⟩ := Prod.mk.inj (Except.ok.inj hs)
      exact hu.chained hc
  | copy carried =>
    obtain ⟨copied, hcopy, hu'⟩ := hu.copied carried
    simp only [passageStep, hcopy] at hs
    obtain ⟨rfl, rfl⟩ := Prod.mk.inj (Except.ok.inj hs)
    exact hu'

/-- A hop with a client in working order completes. -/
theorem underway_completes (hu : Underway data h p) (horder : hop.InOrder) :
    ∃ p' o, passage.step p hop = .ok (p', o) ∧ Underway data (h ++ [(hop, o)]) p' := by
  cases hop with
  | lookoutVision e env =>
    obtain ⟨build, hserved, hready⟩ := horder
    obtain ⟨c, hc, -⟩ := chain_ready hserved hready p.buffer
    refine ⟨_, _, ?_, hu.chained hc⟩
    show passageStep p (.lookoutVision e env) = _
    simp only [passageStep, hc]
  | copy carried =>
    obtain ⟨copied, hcopy, hu'⟩ := hu.copied carried
    refine ⟨_, _, ?_, hu'⟩
    show passageStep p (.copy carried) = _
    simp only [passageStep, hcopy]

/-- A reader finds the first of the verdicts. -/
theorem Underway.read (hu : Underway data h p) (hne : attached h ≠ []) :
    gstBufferGetLookoutVisionMeta p.registered p.buffer =
      .ok ((attached h).head?.map metaWith) := by
  rw [hu.registered hne]
  simp only [gstBufferGetLookoutVisionMeta, if_true, getMeta_eq_head?, hu.metas, List.head?_map]

end

theorem underway_start (registered : Bool) {buf : GstBuffer} (hw : buf.Writable)
    (hnone : ∀ m, GstMeta.lookoutVision m ∉ buf.metas) :
    Underway buf.data [] ⟨registered, buf⟩ :=
  ⟨hw, rfl, lookoutVisionMetas_eq_nil hnone, rfl, fun h => absurd rfl h⟩

theorem passage_underway {data : List UInt8} {p p' : Passage} (hu : Underway data [] p)
    {hops : List Hop} {h : List (Hop × Option GstLookoutVisionResult)}
    (hrun : passage.run p hops = .ok (p', h)) : Underway data h p' :=
  Machine.run_preserves hu (fun _ _ _ _ _ hu (_ : True) hs => underway_step hu hs)
    (fun _ _ => trivial) hrun

theorem passage_completes {data : List UInt8} {p : Passage} (hu : Underway data [] p) :
    ∀ hops, (∀ hop ∈ hops, Hop.InOrder hop) →
      ∃ p' h, passage.run p hops = .ok (p', h) ∧ Underway data h p' :=
  Machine.run_invariant hu fun _ _ _ hu horder => underway_completes hu horder

/-- **The reader finds the latest verdict exactly when the first element on the
way made the same one.**  With every client in working order every way is gone
to its end. -/
theorem latest_verdict_iff (registered : Bool) {buf : GstBuffer} (hw : buf.Writable)
    (hnone : ∀ m, GstMeta.lookoutVision m ∉ buf.metas) (hops : List Hop) :
    ((∀ hop ∈ hops, hop.InOrder) → ∃ p h, passage.run ⟨registered, buf⟩ hops = .ok (p, h)) ∧
    ∀ p h, passage.run ⟨registered, buf⟩ hops = .ok (p, h) →
      p.buffer.Writable ∧ attached h = verdicts buf.data hops ∧
      ∀ latest, (attached h).getLast? = some latest →
        (gstBufferGetLookoutVisionMeta p.registered p.buffer = .ok (some (metaWith latest)) ↔
          (verdicts buf.data hops).head? = (verdicts buf.data hops).getLast?) := by
  have hstart := underway_start registered hw hnone
  constructor
  · intro horder
    obtain ⟨p, h, hrun, -⟩ := passage_completes hstart hops horder
    exact ⟨p, h, hrun⟩
  · intro p h hrun
    have hu : Underway buf.data h p := passage_underway hstart hrun
    have hverdicts : attached h = verdicts buf.data hops := by
      rw [hu.truthful, Machine.run_inputs hrun]
    refine ⟨hu.writable, hverdicts, fun latest hlatest => ?_⟩
    have hne : attached h ≠ [] := by
      intro hnil
      rw [hnil] at hlatest
      cases hlatest
    rw [hu.read hne, ← hverdicts, hlatest]
    constructor
    · intro hread
      obtain ⟨first, hfirst, heq⟩ := Option.map_eq_some_iff.mp (Except.ok.inj hread)
      obtain rfl : first = latest := Option.some.inj (congrArg GstLookoutVisionMeta.result heq)
      exact hfirst
    · intro hfirst
      rw [hfirst]
      rfl

/-- Two elements and a copy between them, by what their agents answer. -/
def twoModels (first second : Environment) : List Hop :=
  [.lookoutVision (configuredElement 64 64) first, .copy fun _ => true,
    .lookoutVision (configuredElement 64 64) second]

theorem twoModels_inOrder (first second : Environment) :
    ∀ hop ∈ twoModels first second, hop.InOrder := by
  intro hop hmem
  simp only [twoModels, List.mem_cons, List.not_mem_nil, or_false] at hmem
  rcases hmem with rfl | rfl | rfl
  · exact ⟨.default, served_default, configuredElement_ready 64 64⟩
  · trivial
  · exact ⟨.default, served_default, configuredElement_ready 64 64⟩

theorem latest_verdict_iff_sample : ∃ p h,
    passage.run ⟨false, greyBuffer 64 64⟩
        (twoModels (.steady fun _ _ => true) (.steady fun _ _ => true)) = .ok (p, h) ∧
      gstBufferGetLookoutVisionMeta p.registered p.buffer =
        .ok (some (metaWith ⟨false, 0, .successful, ""⟩)) := by
  have hw : (greyBuffer 64 64).Writable := rfl
  obtain ⟨hcompletes, hreads⟩ := latest_verdict_iff false hw (fun _ => List.not_mem_nil)
    (twoModels (.steady fun _ _ => true) (.steady fun _ _ => true))
  obtain ⟨p, h, hrun⟩ := hcompletes (twoModels_inOrder _ _)
  obtain ⟨-, hverdicts, hread⟩ := hreads p h hrun
  refine ⟨p, h, hrun, (hread _ ?_).mpr rfl⟩
  rw [hverdicts]
  rfl

/-- Agents that find every frame anomalous, with confidence 1. -/
def anomalousAgent : Environment :=
  { Environment.steady fun _ _ => true with
    detectAnomalies := fun _ _ => .returned .success ⟨⟨true, 0x3f800000⟩⟩ }

/-- **The second model's verdict is never seen**: it finds an anomaly in a frame
the first one passed as normal, and a reader is told the frame is normal. -/
theorem second_verdict_unseen : ∃ p h,
    passage.run ⟨false, greyBuffer 64 64⟩
        (twoModels (.steady fun _ _ => true) anomalousAgent) = .ok (p, h) ∧
      p.buffer.Writable ∧
      (attached h).getLast? = some ⟨true, 0x3f800000, .successful, ""⟩ ∧
      gstBufferGetLookoutVisionMeta p.registered p.buffer =
        .ok (some (metaWith ⟨false, 0, .successful, ""⟩)) := by
  have hw : (greyBuffer 64 64).Writable := rfl
  obtain ⟨p, h, hrun, hu⟩ :=
    passage_completes (underway_start false hw fun _ => List.not_mem_nil)
      (twoModels (.steady fun _ _ => true) anomalousAgent) (twoModels_inOrder _ _)
  have hverdicts : attached h =
      [⟨false, 0, .successful, ""⟩, ⟨true, 0x3f800000, .successful, ""⟩] := by
    rw [hu.truthful, Machine.run_inputs hrun]
    rfl
  refine ⟨p, h, hrun, hu.writable, ?_, ?_⟩
  · rw [hverdicts]
    rfl
  · have hne : attached h ≠ [] := by
      rw [hverdicts]
      exact List.cons_ne_nil _ _
    rw [hu.read hne, hverdicts]
    rfl

end LookoutVision
