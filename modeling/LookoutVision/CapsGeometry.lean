import LookoutVision.AssignmentOrder
import Mathlib.Data.List.TakeWhile

/-!
# The geometry of a request and the caps before it

A request carries the dimensions `pad_probe` recorded last.  They ought to be
those of the latest caps event that had both; but the probe answers an event
without them by having itself removed, so it heeds the complete caps events
before the first incomplete one and no others (`run_recorded`).  The geometry is
the latest one all the same exactly when what comes later repeats it
(`request_geometry_iff`).
-/

namespace LookoutVision

/-! ## Caps events -/

/-- The dimensions of a caps event that has both. -/
def Caps.dimensions (caps : Caps) : Option (Int32 × Int32) :=
  match caps.width, caps.height with
  | some width, some height => some (width, height)
  | _, _ => none

def Caps.complete (caps : Caps) : Bool := caps.dimensions.isSome

/-- The dimensions of the latest caps event that has both, 0 and 0 when none
has. -/
def latestDimensions (cs : List Caps) : Int32 × Int32 :=
  (cs.filterMap Caps.dimensions).getLast?.getD (0, 0)

/-- The caps events before the first incomplete one. -/
def heeded (cs : List Caps) : List Caps := cs.takeWhile Caps.complete

/-- The first incomplete caps event and all that follow. -/
def unheeded (cs : List Caps) : List Caps := cs.dropWhile Caps.complete

/-- The last complete caps event from the first incomplete one on, if any,
repeats the dimensions in force before. -/
def RepeatsDimensions (cs : List Caps) : Prop :=
  ∀ dimensions, ((unheeded cs).filterMap Caps.dimensions).getLast? = some dimensions →
    dimensions = latestDimensions (heeded cs)

section
variable {cs : List Caps} {caps : Caps}

/-- As long as every event was complete, the next one is heeded if it is
complete. -/
theorem heeded_snoc_of_complete (h : cs.all Caps.complete = true) (caps : Caps) :
    heeded cs = cs ∧ heeded (cs ++ [caps]) = if caps.complete then cs ++ [caps] else cs := by
  have hall : ∀ c ∈ cs, c.complete = true := List.all_eq_true.mp h
  have hself : cs.takeWhile Caps.complete = cs := List.takeWhile_eq_self_iff.mpr hall
  refine ⟨hself, ?_⟩
  rw [heeded, List.takeWhile_append, hself, if_pos rfl]
  by_cases hc : caps.complete = true
  · simp [hc]
  · simp [hc]

/-- After an incomplete event no other is heeded. -/
theorem heeded_snoc_of_incomplete (h : cs.all Caps.complete = false) :
    heeded (cs ++ [caps]) = heeded cs := by
  have hlen : ¬ (cs.takeWhile Caps.complete).length = cs.length := by
    intro heq
    have hself : cs.takeWhile Caps.complete = cs :=
      (List.takeWhile_prefix Caps.complete).eq_of_length heq
    have hall : cs.all Caps.complete = true :=
      List.all_eq_true.mpr (List.takeWhile_eq_self_iff.mp hself)
    rw [h] at hall
    cases hall
  rw [heeded, List.takeWhile_append, if_neg hlen]
  rfl

theorem latestDimensions_snoc :
    latestDimensions (cs ++ [caps]) = caps.dimensions.getD (latestDimensions cs) := by
  simp only [latestDimensions, List.filterMap_append, List.getLast?_append]
  cases hd : caps.dimensions with
  | none => simp [hd]
  | some d => simp [hd]

/-- The dimensions heeded are the latest exactly when the later ones repeat
them. -/
theorem latestDimensions_heeded_iff (cs : List Caps) :
    latestDimensions (heeded cs) = latestDimensions cs ↔ RepeatsDimensions cs := by
  have hsplit : latestDimensions cs =
      (((unheeded cs).filterMap Caps.dimensions).getLast?).getD
        (latestDimensions (heeded cs)) := by
    conv_lhs => rw [← List.takeWhile_append_dropWhile (p := Caps.complete) (l := cs)]
    simp only [latestDimensions, List.filterMap_append, List.getLast?_append, heeded, unheeded]
    cases ((cs.dropWhile Caps.complete).filterMap Caps.dimensions).getLast? <;> rfl
  rw [hsplit, RepeatsDimensions]
  cases ((unheeded cs).filterMap Caps.dimensions).getLast? with
  | none => exact ⟨fun _ => nofun, fun _ => rfl⟩
  | some d =>
    constructor
    · intro h d' hd
      exact (Option.some.inj hd).symm.trans h.symm
    · exact fun h => (h d rfl).symm

end

/-! ## What the instance records -/

/-- The instance has recorded the latest heeded dimensions, and its probe is
installed as long as every caps event was complete. -/
structure Recorded (cs : List Caps) (filter : GstLookoutVision) : Prop where
  geometry : (filter.width, filter.height) = latestDimensions (heeded cs)
  probe : filter.sinkpad.probe = cs.all Caps.complete

/-- **One caps event.** -/
theorem Recorded.snoc {cs : List Caps} {filter : GstLookoutVision} (hr : Recorded cs filter)
    (caps : Caps) :
    Recorded (cs ++ [caps]) (gstLookoutVisionSinkEvent filter (.caps caps)) := by
  cases hall : cs.all Caps.complete with
  | false =>
    -- The probe is gone: the event passes unseen.
    have hprobe : filter.sinkpad.probe = false := hr.probe.trans hall
    have hsame : gstLookoutVisionSinkEvent filter (.caps caps) = filter := by
      simp [gstLookoutVisionSinkEvent, hprobe]
    rw [hsame]
    exact ⟨by rw [heeded_snoc_of_incomplete hall]; exact hr.geometry,
      by rw [hprobe, List.all_append, hall, Bool.false_and]⟩
  | true =>
    have hprobe : filter.sinkpad.probe = true := hr.probe.trans hall
    obtain ⟨hself, hsnoc⟩ := heeded_snoc_of_complete hall caps
    have hgeometry := hr.geometry
    rw [hself] at hgeometry
    cases hd : caps.dimensions with
    | none =>
      -- The probe asks to be removed and leaves the dimensions.
      have hc : caps.complete = false := by simp [Caps.complete, hd]
      have hevent : gstLookoutVisionSinkEvent filter (.caps caps) =
          { filter with sinkpad := ⟨false⟩ } := by
        obtain ⟨width, height⟩ := caps
        cases width <;> cases height <;>
          simp_all [gstLookoutVisionSinkEvent, padProbe, Caps.dimensions]
      rw [hevent]
      refine ⟨?_, by simp [hc]⟩
      rw [hsnoc, hc]
      exact hgeometry
    | some d =>
      have hc : caps.complete = true := by simp [Caps.complete, hd]
      have hevent : gstLookoutVisionSinkEvent filter (.caps caps) =
          { filter with width := d.1, height := d.2 } := by
        obtain ⟨width, height⟩ := caps
        cases width with
        | none => cases hd
        | some width =>
          cases height with
          | none => cases hd
          | some height =>
            obtain rfl : (width, height) = d := Option.some.inj hd
            simp [gstLookoutVisionSinkEvent, padProbe, hprobe]
      rw [hevent]
      refine ⟨?_, by simp [hprobe, hall, hc]⟩
      rw [hsnoc, hc, if_pos rfl, latestDimensions_snoc, hd]
      rfl

/-- The caps events among some inputs. -/
def capsEvents (is : List Input) : List Caps :=
  is.filterMap fun i => match i.action with
    | .sinkEvent (.caps caps) => some caps
    | _ => none

/-- **One entry.**  Only caps events bear on what is recorded. -/
theorem step_recorded {build : Build} {c : Configuration} {e e' : Element} {i : Input}
    {effects : List Effect} {is : List Input} (hr : Represents build c e)
    (hi : i.Admissible build) (hstep : elementStep e i = .ok (e', effects))
    (hrec : Recorded (capsEvents is) e.filter) :
    Recorded (capsEvents (is ++ [i])) e'.filter := by
  have hkeep : (∀ caps, i.action ≠ .sinkEvent (.caps caps)) →
      capsEvents (is ++ [i]) = capsEvents is := by
    intro hnot
    rw [capsEvents, List.filterMap_append]
    have hnone : capsEvents [i] = [] := by
      refine List.filterMap_eq_nil_iff.mpr fun j hj => ?_
      rw [List.mem_singleton.mp hj]
      split
      · rename_i caps hcaps
        exact absurd hcaps (hnot caps)
      · rfl
    exact (congrArg (capsEvents is ++ ·) hnone).trans (List.append_nil _)
  have hstepped := stepped_of_step hstep
  obtain ⟨action, env⟩ := i
  cases hstepped with
  | serverSocket socket =>
    rw [hkeep fun _ h => by cases h]
    exact ⟨hrec.geometry, hrec.probe⟩
  | modelComponent component =>
    rw [hkeep fun _ h => by cases h]
    refine ⟨Eq.trans ?_ hrec.geometry, Eq.trans ?_ hrec.probe⟩
    · dsimp only
      split <;> rfl
    · dsimp only
      split <;> rfl
  | modelStatusTimeout timeout =>
    rw [hkeep fun _ h => by cases h]
    exact ⟨hrec.geometry, hrec.probe⟩
  | sinkEvent event =>
    cases event with
    | other =>
      rw [hkeep fun _ h => by cases h]
      have hsame : gstLookoutVisionSinkEvent e.filter .other = e.filter := by
        unfold gstLookoutVisionSinkEvent
        split <;> rfl
      show Recorded _ (gstLookoutVisionSinkEvent e.filter .other)
      rw [hsame]
      exact hrec
    | caps caps =>
      have hsnoc : capsEvents (is ++ [⟨.sinkEvent (.caps caps), env⟩]) =
          capsEvents is ++ [caps] := by
        simp [capsEvents, List.filterMap_append]
      rw [hsnoc]
      exact hrec.snoc caps
  | chain hchain =>
    rw [hkeep fun _ h => by cases h]
    rw [(chain_chains hi.served hr.ready hchain).filter]
    exact ⟨hrec.geometry, hrec.probe⟩

/-- **Along every run** the instance has recorded the latest heeded
dimensions. -/
theorem run_recorded {build : Build} {os : Posix.Outcomes} (hos : Served build os) (k : Kernel)
    (is : List Input) (his : ∀ i ∈ is, i.Admissible build) :
    ∃ e₀ e h, gstLookoutVisionInit build os k = .ok e₀ ∧ element.run e₀ is = .ok (e, h) ∧
      Represents build (configuration h) e ∧ Recorded (capsEvents is) e.filter := by
  obtain ⟨e₀, hinit, hrep, hwidth, hheight, hprobe⟩ := init_represents hos k
  have hrec₀ : Recorded (capsEvents []) e₀.filter := ⟨by rw [hwidth, hheight]; rfl, hprobe⟩
  have hall : ∃ e h, element.run e₀ is = .ok (e, h) ∧
      Represents build (configuration h) e ∧ Recorded (capsEvents (h.map Prod.fst)) e.filter := by
    refine Machine.run_invariant ⟨hrep, hrec₀⟩ (fun h e i hinv hi => ?_) is his
    obtain ⟨hr, hrec⟩ := hinv
    obtain ⟨e', effects, hstep, hr'⟩ := step_represents hr hi
    refine ⟨e', effects, hstep, by rw [configuration_snoc]; exact hr', ?_⟩
    rw [List.map_append]
    exact step_recorded hr hi hstep hrec
  obtain ⟨e, h, hrun, hrep', hrec⟩ := hall
  rw [Machine.run_inputs hrun] at hrec
  exact ⟨e₀, e, h, hinit, hrun, hrep', hrec⟩

/-! ## The request for a buffer -/

/-- **The geometry of every request.**  After any run, the next buffer makes a
request if a component is set, with the heeded dimensions; they are those of the
latest caps event that had both exactly when whatever complete event followed an
incomplete one repeats them. -/
theorem request_geometry_iff (build : Build) (os : Posix.Outcomes) (k : Kernel)
    (is : List Input) (env : Environment) (buf : GstBuffer) (hos : Served build os)
    (his : ∀ i ∈ is, i.Admissible build) (hserved : Served build env.os) :
    ∃ e₀ e h e' effects, gstLookoutVisionInit build os k = .ok e₀ ∧
      element.run e₀ is = .ok (e, h) ∧
      element.step e ⟨.chain buf, env⟩ = .ok (e', effects) ∧
      (e.filter.modelComponent ≠ none → detectRequests effects ≠ []) ∧
      ∀ target request, (target, request) ∈ detectRequests effects →
        ((request.bitmap.width, request.bitmap.height) = latestDimensions (capsEvents is) ↔
          RepeatsDimensions (capsEvents is)) := by
  obtain ⟨e₀, e, h, hinit, hrun, hrep, hrec⟩ := run_recorded hos k is his
  obtain ⟨c, hchain, hspec⟩ := chain_ready hserved hrep.ready buf
  refine ⟨e₀, e, h, c.element, c.effects, hinit, hrun,
    by simp only [element, elementStep, hchain], ?_, ?_⟩
  · intro hset
    obtain ⟨component, hcomponent⟩ := Option.ne_none_iff_exists'.mp hset
    obtain ⟨request, hrequests, -⟩ := hspec.requested hcomponent
    rw [hrequests]
    exact List.cons_ne_nil _ _
  · intro target request hmem
    cases hcomponent : e.filter.modelComponent with
    | none =>
      rw [hspec.unrequested hcomponent] at hmem
      cases hmem
    | some component =>
      obtain ⟨request', hrequests, -, hwidth, hheight, -⟩ := hspec.requested hcomponent
      rw [hrequests] at hmem
      obtain ⟨-, rfl⟩ := Prod.mk.inj (List.mem_singleton.mp hmem)
      rw [hwidth, hheight, hrec.geometry, latestDimensions_heeded_iff]

/-- A component, a caps event without a width, and a complete one. -/
def capsAfterBadCaps : List Input :=
  [⟨.setProperty (.modelComponent (some "SampleModel")), .steady fun _ _ => true⟩,
    ⟨.sinkEvent (.caps ⟨none, some 480⟩), .steady fun _ _ => true⟩,
    ⟨.sinkEvent (.caps ⟨some 640, some 480⟩), .steady fun _ _ => true⟩]

theorem capsAfterBadCaps_admissible : ∀ i ∈ capsAfterBadCaps, i.Admissible .default := by
  simp only [capsAfterBadCaps, List.forall_mem_cons]
  exact ⟨⟨nofun, served_default⟩, ⟨trivial, served_default⟩, ⟨trivial, served_default⟩, nofun⟩

theorem request_geometry_sample :
    ∃ e₀ e h e' effects,
      gstLookoutVisionInit .default .allSucceed Posix.Kernel.empty = .ok e₀ ∧
      element.run e₀ capsAfterBadCaps = .ok (e, h) ∧
      element.step e ⟨.chain ⟨[1, 2, 3], 1, []⟩, .steady fun _ _ => true⟩ = .ok (e', effects) ∧
      (e.filter.modelComponent ≠ none → detectRequests effects ≠ []) ∧
      ∀ target request, (target, request) ∈ detectRequests effects →
        ((request.bitmap.width, request.bitmap.height) =
            latestDimensions (capsEvents capsAfterBadCaps) ↔
          RepeatsDimensions (capsEvents capsAfterBadCaps)) :=
  request_geometry_iff .default .allSucceed Posix.Kernel.empty capsAfterBadCaps
    (.steady fun _ _ => true) ⟨[1, 2, 3], 1, []⟩ served_default capsAfterBadCaps_admissible
    served_default

/-- **After one caps event without a width a later 640 by 480 is ignored**: the
buffer is sent as 0 by 0. -/
theorem stale_geometry :
    ∃ e₀ e h e' effects request,
      gstLookoutVisionInit .default .allSucceed Posix.Kernel.empty = .ok e₀ ∧
      element.run e₀ capsAfterBadCaps = .ok (e, h) ∧
      element.step e ⟨.chain ⟨[1, 2, 3], 1, []⟩, .steady fun _ _ => true⟩ = .ok (e', effects) ∧
      (defaultServerSocket, request) ∈ detectRequests effects ∧
      (request.bitmap.width, request.bitmap.height) = (0, 0) ∧
      latestDimensions (capsEvents capsAfterBadCaps) = (640, 480) := by
  let env : Environment := .steady fun _ _ => true
  have hserved : Served .default env.os := served_default
  have hos : Served .default .allSucceed := served_default
  obtain ⟨e₀, e, h, hinit, hrun, -, hrec⟩ :=
    run_recorded hos Posix.Kernel.empty capsAfterBadCaps capsAfterBadCaps_admissible
  -- The same run once more, step by step, for the component it leaves.
  obtain ⟨e₀', hinit', hrep₀, -⟩ := init_represents hos Posix.Kernel.empty
  obtain rfl := Except.ok.inj (hinit'.symm.trans hinit)
  obtain ⟨e₁, o₁, hstep₁, hrep₁⟩ := assign_represents hrep₀ (steady_steady fun _ _ => true)
    hserved (a := .modelComponent (some "SampleModel")) nofun
  obtain ⟨e₂, o₂, hstep₂, hrep₂⟩ :=
    step_represents (i := ⟨.sinkEvent (.caps ⟨none, some 480⟩), env⟩)
      hrep₁ ⟨trivial, hserved⟩
  obtain ⟨e₃, o₃, hstep₃, hrep₃⟩ :=
    step_represents (i := ⟨.sinkEvent (.caps ⟨some 640, some 480⟩), env⟩)
      hrep₂ ⟨trivial, hserved⟩
  have hrun' := Machine.run_snoc_ok (Machine.run_snoc_ok (Machine.run_one hstep₁) hstep₂) hstep₃
  obtain ⟨rfl, rfl⟩ := Prod.mk.inj (Except.ok.inj (hrun'.symm.trans hrun))
  obtain ⟨c, hchain, hspec⟩ := chain_ready hserved hrep₃.ready ⟨[1, 2, 3], 1, []⟩
  have hcomponent : e₃.filter.modelComponent = some "SampleModel" := hrep₃.component
  obtain ⟨request, hrequests, -, hwidth, hheight, -⟩ := hspec.requested hcomponent
  have htarget : e₃.filter.inferenceClient.stub.channel.target = defaultServerSocket :=
    hrep₃.addressed.stub
  refine ⟨e₀', e₃, _, c.element, c.effects, request, hinit, hrun,
    by simp only [element, elementStep, hchain, env], ?_, ?_, by decide⟩
  · rw [hrequests, htarget]
    exact List.mem_singleton_self _
  · rw [hwidth, hheight]
    exact hrec.geometry

end LookoutVision
