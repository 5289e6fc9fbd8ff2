import LookoutVision.CapsGeometry
import LookoutVision.MemoryRefinement

/-!
# What is left on the heap

Who owns what is settled (`Process.Owned`); here is what follows for whoever runs
the pipeline.  A string the application has read from a property stays readable and
as it was, through whatever is done to the instances (`property_read_stays`).  Once
every instance is finalized and every value unset, nothing the element allocated is
left but the caps of its probe: `pad_probe` makes one for every caps event it looks
at and frees none, so their number is read off the events (`only_caps_left`).
-/

namespace LookoutVision

/-! ## The events the probes look at -/

/-- The instances created so far, whether each that is left has its probe, and how
many caps events the probes have looked at. -/
structure Watch where
  probes : Nat → Option Bool
  created : Nat
  seen : Nat

namespace Watch

def start : Watch := ⟨fun _ => none, 0, 0⟩

/-- The next action.  A probe that looks at caps without dimensions is gone. -/
def note (w : Watch) : ProcessAction → Watch
  | .create =>
      { w with
        probes := Function.update w.probes w.created (some true)
        created := w.created + 1 }
  | .sinkEvent f (.caps caps) =>
      if w.probes f = some true then
        { w with probes := Function.update w.probes f (some caps.complete), seen := w.seen + 1 }
      else w
  | .finalize f => { w with probes := Function.update w.probes f none }
  | _ => w

/-- The watch kept over a run's actions. -/
def after (is : List ProcessInput) : Watch := is.foldl (fun w i => w.note i.action) .start

@[simp] theorem after_snoc (is : List ProcessInput) (i : ProcessInput) :
    after (is ++ [i]) = (after is).note i.action := by
  simp only [after, List.foldl_append, List.foldl_cons, List.foldl_nil]

end Watch

/-- The watch says how the application stands. -/
structure Watching (a : Application) (w : Watch) : Prop where
  probes : ∀ f, (a.filters f).map (fun filter => filter.sinkpad.probe) = w.probes f
  created : a.filterCount = w.created
  seen : a.probed = w.seen

section
variable {a a' : Application} {w : Watch} {build : Build} {i : ProcessInput}
  {effects : List Effect} {filter : GstLookoutVision} {f : Nat}

theorem Watching.update (hw : Watching a w) (x : Option GstLookoutVision) (k : Kernel) (n : Nat) :
    Watching { a.setFilter f x k with filterCount := n }
      { w with
        probes := Function.update w.probes f (x.map fun filter => filter.sinkpad.probe)
        created := n } where
  probes := by
    intro g
    by_cases hg : g = f
    · simp only [hg, Application.setFilter, Function.update_self]
    · simp only [Application.setFilter, Function.update_of_ne hg]
      exact hw.probes g
  created := rfl
  seen := hw.seen

/-- An entry that keeps the probe as it is keeps the watch as it is. -/
theorem Watching.keep (hw : Watching a w) (hf : a.filters f = some filter)
    {filter' : GstLookoutVision} (hprobe : filter'.sinkpad = filter.sinkpad) (k : Kernel) :
    Watching (a.setFilter f (some filter') k) w := by
  have hupdate := hw.update (f := f) (some filter') k a.filterCount
  have hsame : (some filter').map (fun filter => filter.sinkpad.probe) = w.probes f := by
    rw [← hw.probes f, hf, Option.map_some, Option.map_some, hprobe]
  rw [hsame, Function.update_eq_self, hw.created] at hupdate
  exact ⟨hupdate.probes, hw.created, hw.seen⟩

/-- Only an event on the sink pad touches the probe. -/
theorem sinkpad_of_step {e e' : Element} {i : Input} (h : elementStep e i = .ok (e', effects))
    (hquiet : ∀ event, i.action ≠ .sinkEvent event) : e'.filter.sinkpad = e.filter.sinkpad := by
  obtain ⟨action, env⟩ := i
  have hstep := stepped_of_step h
  rcases hstep with socket | component | timeout | event | hchain
  · rfl
  · split
    · rfl
    · rfl
  · rfl
  · exact absurd rfl (hquiet event)
  · rcases chain_ok hchain with ⟨-, rfl⟩ | ⟨-, d, -, -, rfl⟩
    · rfl
    · rfl

theorem Watching.entered (hw : Watching a w) (hf : a.filters f = some filter) {input : Input}
    (hquiet : ∀ event, input.action ≠ .sinkEvent event)
    (h : a.entered f filter input = .ok (a', effects)) : Watching a' w := by
  unfold Application.entered at h
  cases hstep : elementStep ⟨filter, a.kernel⟩ input with
  | error fault =>
    rw [hstep] at h
    cases h
  | ok r =>
    rw [hstep] at h
    obtain ⟨rfl, -⟩ := Prod.mk.inj (Except.ok.inj h)
    exact hw.keep hf (sinkpad_of_step hstep hquiet) r.1.kernel

/-- What an event makes of the probe. -/
theorem probe_sinkEvent (filter : GstLookoutVision) (caps : Caps) :
    (gstLookoutVisionSinkEvent filter (.caps caps)).sinkpad.probe =
      (filter.sinkpad.probe && caps.complete) := by
  unfold gstLookoutVisionSinkEvent
  cases hprobe : filter.sinkpad.probe with
  | false => exact hprobe
  | true =>
    obtain ⟨width, height⟩ := caps
    cases width with
    | none => rfl
    | some width =>
      cases height with
      | none => rfl
      | some height => exact hprobe

theorem Watching.sinkEvent (hw : Watching a w) (hf : a.filters f = some filter)
    (event : GstEvent) (k : Kernel) :
    Watching ({ a with probed := a.probed + Application.seen filter event }.setFilter f
        (some (gstLookoutVisionSinkEvent filter event)) k)
      (w.note (.sinkEvent f event)) := by
  have hprobe : w.probes f = some filter.sinkpad.probe := by
    rw [← hw.probes f, hf, Option.map_some]
  cases event with
  | other =>
    have hsame : gstLookoutVisionSinkEvent filter .other = filter := by
      simp only [gstLookoutVisionSinkEvent, padProbe, ite_self]
    rw [hsame]
    exact hw.keep hf rfl k
  | caps caps =>
    have hupdate := hw.update (f := f)
      (some (gstLookoutVisionSinkEvent filter (.caps caps))) k a.filterCount
    rw [Option.map_some, probe_sinkEvent] at hupdate
    simp only [Watch.note, Application.seen, hprobe]
    cases hp : filter.sinkpad.probe with
    | false =>
      rw [hp, Bool.false_and, ← hp, ← hprobe, Function.update_eq_self] at hupdate
      exact ⟨hupdate.probes, hw.created, hw.seen⟩
    | true =>
      rw [hp, Bool.true_and] at hupdate
      refine ⟨hupdate.probes, hw.created, ?_⟩
      show a.probed + 1 = w.seen + 1
      rw [hw.seen]

/-- **The watch is kept**, action by action. -/
theorem watching_step (hw : Watching a w) (h : a.step build i = .ok (a', effects)) :
    Watching a' (w.note i.action) := by
  obtain ⟨action, env⟩ := i
  cases action with
  | create =>
    simp only [Application.step] at h
    cases hinit : gstLookoutVisionInit build env.os a.kernel with
    | error fault =>
      rw [hinit] at h
      cases h
    | ok e =>
      rw [hinit] at h
      obtain ⟨rfl, -⟩ := Prod.mk.inj (Except.ok.inj h)
      obtain ⟨hprobe, -⟩ := init_fresh hinit
      have hupdate := hw.update (f := a.filterCount) (some e.filter) e.kernel (a.filterCount + 1)
      rw [Option.map_some, hprobe] at hupdate
      simp only [Watch.note, ← hw.created]
      exact hupdate
  | setValue v text =>
    obtain ⟨rfl, -⟩ := Prod.mk.inj (Except.ok.inj h)
    exact ⟨hw.probes, hw.created, hw.seen⟩
  | getProperty f property v =>
    simp only [Application.step] at h
    split at h
    · obtain ⟨rfl, -⟩ := Prod.mk.inj (Except.ok.inj h)
      exact hw
    · obtain ⟨rfl, -⟩ := Prod.mk.inj (Except.ok.inj h)
      exact ⟨hw.probes, hw.created, hw.seen⟩
  | setProperty f property v =>
    simp only [Application.step] at h
    split at h
    · obtain ⟨rfl, -⟩ := Prod.mk.inj (Except.ok.inj h)
      exact hw
    · rename_i filter hf
      exact hw.entered hf (fun event hevent => by cases hevent) h
  | setTimeout f timeout =>
    simp only [Application.step] at h
    split at h
    · obtain ⟨rfl, -⟩ := Prod.mk.inj (Except.ok.inj h)
      exact hw
    · rename_i filter hf
      exact hw.entered hf (fun event hevent => by cases hevent) h
  | sinkEvent f event =>
    simp only [Application.step] at h
    split at h
    · rename_i hf
      obtain ⟨rfl, -⟩ := Prod.mk.inj (Except.ok.inj h)
      have hnone : w.probes f = none := by
        rw [← hw.probes f, hf, Option.map_none]
      cases event with
      | other => exact hw
      | caps caps =>
        simp only [Watch.note, hnone, reduceCtorEq, if_false]
        exact hw
    · rename_i filter hf
      obtain ⟨rfl, -⟩ := Prod.mk.inj (Except.ok.inj h)
      exact hw.sinkEvent hf event a.kernel
  | chain f buf =>
    simp only [Application.step] at h
    split at h
    · obtain ⟨rfl, -⟩ := Prod.mk.inj (Except.ok.inj h)
      exact hw
    · rename_i filter hf
      exact hw.entered hf (fun event hevent => by cases hevent) h
  | finalize f =>
    simp only [Application.step] at h
    split at h
    · rename_i hf
      obtain ⟨rfl, -⟩ := Prod.mk.inj (Except.ok.inj h)
      have hnone : w.probes f = none := by
        rw [← hw.probes f, hf, Option.map_none]
      have hsame : Function.update w.probes f none = w.probes := by
        rw [← hnone, Function.update_eq_self]
      simp only [Watch.note, hsame]
      exact hw
    · rename_i filter hf
      obtain ⟨rfl, -⟩ := Prod.mk.inj (Except.ok.inj h)
      have hupdate := hw.update (f := f) none (filter.inferenceClient.delete a.kernel) w.created
      rw [Option.map_none] at hupdate
      exact ⟨hupdate.probes, hw.created, hw.seen⟩

end

/-- The watch over a run's actions says how the application stands after it. -/
theorem watching_over (build : Build) (k : Kernel) {is : List ProcessInput} {a : Application}
    {history : List (ProcessInput × List Effect)}
    (h : (application build).run (.start k) is = .ok (a, history)) :
    Watching a (.after is) := by
  induction is using List.reverseRecOn generalizing a history with
  | nil =>
    obtain ⟨rfl, -⟩ := Prod.mk.inj (Except.ok.inj h)
    exact ⟨fun _ => rfl, rfl, rfl⟩
  | append_singleton is i ih =>
    obtain ⟨a', history', effects, hrun, hstep, -⟩ := Machine.run_snoc_inv h
    rw [Watch.after_snoc]
    exact watching_step (ih hrun) hstep

/-- **Nothing but caps is left.**  Where a run ends with every instance finalized and
every value unset, each string, client, status and result has been freed, and of the
caps exactly those of the events the probes have looked at are still there. -/
theorem only_caps_left (build : Build) (k : Kernel) {is : List ProcessInput} {p : Process}
    {history : List (ProcessInput × List Effect)}
    (hrun : (process build).run (.start k) is = .ok (p, history))
    (hfilters : ∀ i, p.filters i = none) (hvalues : ∀ v, p.values v = none) :
    (∀ a, p.memory.strings.object a = none) ∧ (∀ a, p.memory.clients.object a = none) ∧
      (∀ a, p.memory.statuses.object a = none) ∧ (∀ a, p.memory.results.object a = none) ∧
      ∀ a, p.memory.anyCaps.object a ≠ none ↔ a < (Watch.after is).seen := by
  have hrefines := process_agree build k is
  rw [hrun] at hrefines
  obtain ⟨y, hy, ⟨howned, hdenote⟩, -⟩ := hrefines.ok_left
  have hwatch := watching_over build k hy
  have hstring : ∀ holder, p.holdsString holder = none := by
    intro holder
    cases holder with
    | property i property => simp only [Process.holdsString, hfilters i, Option.bind_none]
    | value v => exact hvalues v
  have hclient : ∀ i, p.holdsClient i = none := by
    intro i
    simp only [Process.holdsClient, hfilters i, Option.bind_none]
  have hseen : p.memory.anyCaps.next = (Watch.after is).seen := by
    rw [← hwatch.seen, ← hdenote]
    rfl
  refine ⟨howned.strings.object_eq_none hstring, howned.clients.object_eq_none hclient,
    howned.statuses, howned.results, fun a => ?_⟩
  rw [← hseen, ← Nat.not_le]
  exact not_congr (howned.anyCaps a)

/-- An instance that sees caps without a height, then caps with both dimensions, and
is finalized. -/
def shortLife : List ProcessInput :=
  [.create, .sinkEvent 0 (.caps ⟨some 1, none⟩), .sinkEvent 0 (.caps ⟨some 1, some 1⟩),
    .finalize 0].map fun action => ⟨action, .steady fun _ _ => true⟩

/-- One cap is left of it: the probe did not see the second event. -/
theorem only_caps_left_sample :
    ∃ p history, (process .default).run (.start Posix.Kernel.empty) shortLife = .ok (p, history) ∧
      (∀ a, p.memory.strings.object a = none) ∧ (∀ a, p.memory.clients.object a = none) ∧
      (∀ a, p.memory.statuses.object a = none) ∧ (∀ a, p.memory.results.object a = none) ∧
      ∀ a, p.memory.anyCaps.object a ≠ none ↔ a < 1 := by
  have hends : ∃ p history,
      (process .default).run (.start Posix.Kernel.empty) shortLife = .ok (p, history) ∧
        (∀ i, p.filters i = none) ∧ ∀ v, p.values v = none :=
    ⟨_, _, rfl, fun i => by rcases i with _ | i <;> rfl, fun _ => rfl⟩
  obtain ⟨p, history, hrun, hfilters, hvalues⟩ := hends
  exact ⟨p, history, hrun, only_caps_left .default Posix.Kernel.empty hrun hfilters hvalues⟩

/-! ## What the application has read -/

/-- Whether an action sets the value `v`. -/
def ProcessAction.writes (v : Nat) : ProcessAction → Bool
  | .setValue value _ => value == v
  | .getProperty _ _ value => value == v
  | _ => false

section
variable {a a' : Application} {build : Build} {i : ProcessInput} {effects : List Effect} {v : Nat}

theorem values_entered {f : Nat} {filter : GstLookoutVision} {input : Input}
    (h : a.entered f filter input = .ok (a', effects)) : a'.values = a.values := by
  unfold Application.entered at h
  split at h
  · cases h
  · obtain ⟨rfl, -⟩ := Prod.mk.inj (Except.ok.inj h)
    rfl

/-- Nothing that is done to an instance reaches the application's values. -/
theorem values_step (hi : i.action.writes v = false) (h : a.step build i = .ok (a', effects)) :
    a'.values v = a.values v := by
  obtain ⟨action, env⟩ := i
  cases action with
  | create =>
    simp only [Application.step] at h
    split at h
    · cases h
    · obtain ⟨rfl, -⟩ := Prod.mk.inj (Except.ok.inj h)
      rfl
  | setValue value text =>
    obtain ⟨rfl, -⟩ := Prod.mk.inj (Except.ok.inj h)
    exact Function.update_of_ne (Ne.symm (by simpa [ProcessAction.writes] using hi)) ..
  | getProperty f property value =>
    simp only [Application.step] at h
    split at h
    · obtain ⟨rfl, -⟩ := Prod.mk.inj (Except.ok.inj h)
      rfl
    · obtain ⟨rfl, -⟩ := Prod.mk.inj (Except.ok.inj h)
      exact Function.update_of_ne (Ne.symm (by simpa [ProcessAction.writes] using hi)) ..
  | setProperty f property value =>
    simp only [Application.step] at h
    split at h
    · obtain ⟨rfl, -⟩ := Prod.mk.inj (Except.ok.inj h)
      rfl
    · exact congrFun (values_entered h) v
  | setTimeout f timeout =>
    simp only [Application.step] at h
    split at h
    · obtain ⟨rfl, -⟩ := Prod.mk.inj (Except.ok.inj h)
      rfl
    · exact congrFun (values_entered h) v
  | sinkEvent f event =>
    simp only [Application.step] at h
    split at h
    · obtain ⟨rfl, -⟩ := Prod.mk.inj (Except.ok.inj h)
      rfl
    · exact congrFun (values_entered h) v
  | chain f buf =>
    simp only [Application.step] at h
    split at h
    · obtain ⟨rfl, -⟩ := Prod.mk.inj (Except.ok.inj h)
      rfl
    · exact congrFun (values_entered h) v
  | finalize f =>
    simp only [Application.step] at h
    split at h
    · obtain ⟨rfl, -⟩ := Prod.mk.inj (Except.ok.inj h)
      rfl
    · obtain ⟨rfl, -⟩ := Prod.mk.inj (Except.ok.inj h)
      rfl

end

/-- **What was read stays.**  The text a property had when it was read into a value is
the value's text after any further actions that do not set that value: assignments to
the same property, the end of the instance, whatever other instances do. -/
theorem property_read_stays (build : Build) (k : Kernel) {is js : List ProcessInput}
    {p q r : Process} {f v : Nat} {property : StringProperty} {env : Environment}
    {history history' : List (ProcessInput × List Effect)} {effects : List Effect}
    (hrun : (process build).run (.start k) is = .ok (p, history)) (hf : p.filters f ≠ none)
    (hget : (process build).step p ⟨.getProperty f property v, env⟩ = .ok (q, effects))
    (hafter : (process build).run q js = .ok (r, history'))
    (hjs : ∀ i ∈ js, i.action.writes v = false) :
    r.text (.value v) = p.text (.property f property) := by
  have hrefines := process_agree build k is
  rw [hrun] at hrefines
  obtain ⟨-, -, ⟨howned, -⟩, -⟩ := hrefines.ok_left
  obtain ⟨filter, hfilter⟩ := Option.ne_none_iff_exists'.mp hf
  obtain ⟨g, hg, hinstance⟩ := howned.instantiates hfilter
  have hread := step_refines howned build ⟨.getProperty f property v, env⟩
  have hget' : p.step build ⟨.getProperty f property v, env⟩ = .ok (q, effects) := hget
  rw [hget'] at hread
  obtain ⟨y, hy, hq⟩ := hread.ok_left
  -- What is read is the property's text.
  have hvalue : q.text (.value v) = p.text (.property f property) := by
    simp only [Application.step, hg] at hy
    rw [hinstance.text property]
    show q.denote.values v = property.get g
    rw [hq.2.1, ← Except.ok.inj hy]
    exact Function.update_self ..
  -- And no later action sets it.
  let Kept : Process → Prop := fun t => t.Owned ∧ t.text (.value v) = q.text (.value v)
  have hstep : ∀ (_ : List (ProcessInput × List Effect)) t i t' o, Kept t →
      i.action.writes v = false → (process build).step t i = .ok (t', o) → Kept t' := by
    intro _ t i t' o ht hi hstep
    have hlast := step_refines ht.1 build i
    have hstep' : t.step build i = .ok (t', o) := hstep
    rw [hstep'] at hlast
    obtain ⟨z, hz, ht'⟩ := hlast.ok_left
    refine ⟨ht'.1, Eq.trans ?_ ht.2⟩
    show t'.denote.values v = t.denote.values v
    rw [ht'.2.1]
    exact values_step hi hz
  have hq' : Kept q := ⟨hq.1, rfl⟩
  have hkept : Kept r := Machine.run_preserves hq' hstep hjs hafter
  exact hkept.2.trans hvalue

/-- The socket read from an instance, after the instance is finalized. -/
theorem property_read_stays_sample :
    ∃ p q r history history' effects,
      (process .default).run (.start Posix.Kernel.empty)
        [⟨.create, .steady fun _ _ => true⟩] = .ok (p, history) ∧ p.filters 0 ≠ none ∧
      (process .default).step p
        ⟨.getProperty 0 .serverSocket 7, .steady fun _ _ => true⟩ = .ok (q, effects) ∧
      (process .default).run q [⟨.finalize 0, .steady fun _ _ => true⟩] = .ok (r, history') ∧
      r.text (.value 7) = p.text (.property 0 .serverSocket) := by
  have hruns : ∃ p q r history history' effects,
      (process .default).run (.start Posix.Kernel.empty)
        [⟨.create, .steady fun _ _ => true⟩] = .ok (p, history) ∧ p.filters 0 ≠ none ∧
      (process .default).step p
        ⟨.getProperty 0 .serverSocket 7, .steady fun _ _ => true⟩ = .ok (q, effects) ∧
      (process .default).run q [⟨.finalize 0, .steady fun _ _ => true⟩] = .ok (r, history') :=
    ⟨_, _, _, _, _, _, rfl, Option.some_ne_none _, rfl, rfl⟩
  obtain ⟨p, q, r, history, history', effects, hrun, hf, hget, hafter⟩ := hruns
  exact ⟨p, q, r, history, history', effects, hrun, hf, hget, hafter,
    property_read_stays .default Posix.Kernel.empty hrun hf hget hafter (by simp; rfl)⟩

end LookoutVision
