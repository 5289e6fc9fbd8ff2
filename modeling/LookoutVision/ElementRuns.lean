import LookoutVision.ElementSteps

/-!
# What a history has configured

The abstract element: a `Configuration` is an address, a component and a
timeout, and a history determines one (`configuration`): the last address set,
the last timeout set, and the last component whose `StartModel` succeeded when
it was set.

`run_represents` is the simulation: the element made by
`gst_lookout_vision_init`, after any run on admissible inputs, holds the
configuration of its history, with the address in the element, in its client, in
the client's channel and in its stub alike.
-/

namespace LookoutVision

/-! ## Admissible inputs -/

/-- The values the property specifications admit, `NULL` excepted. -/
def Assignment.Admissible : Assignment → Prop
  | .serverSocket value => value ≠ none
  | .modelComponent value => value ≠ none
  | .modelStatusTimeout value => value ≤ maxModelStatusTimeout

/-- The `guint` timeouts a property admits survive the conversion to `int`. -/
theorem toInt_timeout {t : UInt32} (h : t ≤ maxModelStatusTimeout) :
    t.toInt32.toInt = t.toNat := by
  have hle : t.toBitVec.toNat ≤ 600 := h
  show t.toBitVec.toInt = t.toBitVec.toNat
  exact BitVec.toInt_eq_toNat_of_lt (by omega)

def Action.Admissible : Action → Prop
  | .setProperty assignment => assignment.Admissible
  | _ => True

/-- A non-`NULL` value or an event or a buffer, with system calls that succeed
where the build makes any. -/
structure Input.Admissible (build : Build) (i : Input) : Prop where
  action : i.action.Admissible
  served : Served build i.env.os

/-! ## The abstract element -/

structure Configuration where
  socket : String
  component : Option String
  timeout : UInt32
deriving DecidableEq, Repr

def Configuration.initial : Configuration :=
  ⟨defaultServerSocket, none, defaultModelStatusTimeout⟩

/-- The effect ends a `StartModel` of the component with `SUCCESSFUL`. -/
def Effect.Starts (component : String) : Effect → Prop
  | .started _ component' _ status => component' = component ∧ status = .successful
  | _ => False

instance (component : String) : DecidablePred (Effect.Starts component)
  | .started _ _ _ _ => inferInstanceAs (Decidable (_ ∧ _))
  | .call _ | .elementError _ | .push _ => inferInstanceAs (Decidable False)

/-- A `StartModel` of the component ended successfully among these effects. -/
def StartedAmong (component : String) (effects : List Effect) : Prop :=
  ∃ effect ∈ effects, effect.Starts component

instance (component : String) (effects : List Effect) :
    Decidable (StartedAmong component effects) :=
  inferInstanceAs (Decidable (∃ effect ∈ effects, effect.Starts component))

/-- The configuration after one more input with its effects. -/
def Configuration.after (c : Configuration) (r : Input × List Effect) : Configuration :=
  match r.1.action with
  | .setProperty (.serverSocket (some socket)) => { c with socket := socket }
  | .setProperty (.modelComponent (some component)) =>
      if StartedAmong component r.2 then { c with component := some component } else c
  | .setProperty (.modelStatusTimeout timeout) => { c with timeout := timeout }
  | _ => c

/-- **The configuration a history leaves.** -/
def configuration (h : History) : Configuration :=
  h.foldl Configuration.after .initial

@[simp] theorem configuration_snoc (h : History) (r : Input × List Effect) :
    configuration (h ++ [r]) = (configuration h).after r := by
  simp only [configuration, List.foldl_append, List.foldl_cons, List.foldl_nil]

/-! ## The simulation -/

/-- The address is the same in all four places. -/
structure Addressed (filter : GstLookoutVision) (socket : String) : Prop where
  element : filter.serverSocket = some socket
  client : filter.inferenceClient.serverSocket = socket
  channel : filter.inferenceClient.channel.target = socket
  stub : filter.inferenceClient.stub.channel.target = socket

/-- The element holds a configuration, and is in working order. -/
structure Represents (build : Build) (c : Configuration) (e : Element) : Prop where
  addressed : Addressed e.filter c.socket
  component : e.filter.modelComponent = c.component
  timeout : e.filter.modelStatusTimeout = c.timeout
  timeout_le : c.timeout ≤ maxModelStatusTimeout
  ready : Ready build e.kernel e.filter.inferenceClient

theorem init_represents {build : Build} {os : Posix.Outcomes} (hs : Served build os)
    (k : Kernel) : ∃ e, gstLookoutVisionInit build os k = .ok e ∧
      Represents build .initial e ∧ e.filter.width = 0 ∧ e.filter.height = 0 ∧
      e.filter.sinkpad.probe = true := by
  obtain ⟨k', shm, hnew, hready⟩ :=
    LookoutVisionInferenceClient.new_ready hs k defaultServerSocket
  refine ⟨_, by simp only [gstLookoutVisionInit, hnew]; rfl, ⟨⟨rfl, rfl, rfl, rfl⟩, rfl, rfl, ?_,
    hready⟩, rfl, rfl, rfl⟩
  decide

section
variable {build : Build} {filter : GstLookoutVision} {env : Environment}

theorem addressed_readdressed (socket : String) : Addressed (filter.readdressed socket) socket :=
  ⟨rfl, rfl, rfl, rfl⟩

/-- Whether an assignment of a component commits it is what its effects say. -/
theorem startedAmong_startEffects {component : String} :
    StartedAmong component (filter.startEffects env component) ↔
      (filter.start env component).status = .successful := by
  constructor
  · rintro ⟨effect, hmem, hstarts⟩
    cases effect with
    | started target component' timeout status =>
      obtain ⟨-, rfl⟩ := hstarts
      exact ((started_mem_startEffects env filter component).mp hmem).2.2.2.symm
    | _ => cases hstarts
  · intro hs
    exact ⟨_, (started_mem_startEffects env filter component).mpr ⟨rfl, rfl, rfl, rfl⟩, rfl, hs⟩

theorem sinkEvent_fields (filter : GstLookoutVision) (event : GstEvent) :
    ∃ sinkpad width height, gstLookoutVisionSinkEvent filter event =
      { filter with sinkpad := sinkpad, width := width, height := height } := by
  unfold gstLookoutVisionSinkEvent
  split
  · cases event with
    | other => exact ⟨_, _, _, rfl⟩
    | caps caps =>
      obtain ⟨width, height⟩ := caps
      cases width with
      | none => exact ⟨_, _, _, rfl⟩
      | some width =>
        cases height with
        | none => exact ⟨_, _, _, rfl⟩
        | some height => exact ⟨_, _, _, rfl⟩
  · exact ⟨_, _, _, rfl⟩

end

/-- **One step.**  An admissible input never faults, and moves the element to
the configuration its effects make of the old one. -/
theorem step_represents {build : Build} {c : Configuration} {e : Element} {i : Input}
    (hr : Represents build c e) (hi : i.Admissible build) :
    ∃ e' effects, element.step e i = .ok (e', effects) ∧
      Represents build (c.after (i, effects)) e' := by
  obtain ⟨action, env⟩ := i
  obtain ⟨hact, hserved⟩ := hi
  cases action with
  | setProperty assignment =>
    cases assignment with
    | serverSocket value =>
      obtain ⟨socket, rfl⟩ := Option.ne_none_iff_exists'.mp hact
      refine ⟨_, _, by simp only [element, elementStep, setProperty_serverSocket]; rfl, ?_⟩
      exact ⟨addressed_readdressed socket, hr.component, hr.timeout, hr.timeout_le,
        LookoutVisionInferenceClient.ready_setServerSocket hr.ready socket⟩
    | modelComponent value =>
      -- `StartedAmong` sees in the effects what `set_property` saw in the status.
      obtain ⟨component, rfl⟩ := Option.ne_none_iff_exists'.mp hact
      refine ⟨_, _, by simp only [element, elementStep, setProperty_modelComponent]; rfl, ?_⟩
      by_cases hs : (e.filter.start env component).status = .successful
      · simp only [Configuration.after, startedAmong_startEffects, hs, if_true]
        exact ⟨⟨hr.addressed.element, hr.addressed.client, hr.addressed.channel,
          hr.addressed.stub⟩, rfl, hr.timeout, hr.timeout_le, hr.ready⟩
      · simp only [Configuration.after, startedAmong_startEffects, hs, if_false]
        exact hr
    | modelStatusTimeout value =>
      exact ⟨_, _, rfl, ⟨hr.addressed.element, hr.addressed.client, hr.addressed.channel,
        hr.addressed.stub⟩, hr.component, rfl, hact, hr.ready⟩
  | sinkEvent event =>
    obtain ⟨sinkpad, width, height, he⟩ := sinkEvent_fields e.filter event
    refine ⟨_, _, by simp only [element, elementStep, he]; rfl, ?_⟩
    exact ⟨⟨hr.addressed.element, hr.addressed.client, hr.addressed.channel, hr.addressed.stub⟩,
      hr.component, hr.timeout, hr.timeout_le, hr.ready⟩
  | chain buf =>
    obtain ⟨r, hchain, hspec⟩ := chain_ready hserved hr.ready buf
    refine ⟨_, _, by simp only [element, elementStep, hchain]; rfl, ?_⟩
    have hf := hspec.filter
    refine ⟨⟨?_, ?_, ?_, ?_⟩, ?_, ?_, hr.timeout_le, hspec.ready⟩
    · rw [hf]; exact hr.addressed.element
    · rw [hf]; exact hr.addressed.client
    · rw [hf]; exact hr.addressed.channel
    · rw [hf]; exact hr.addressed.stub
    · rw [hf]; exact hr.component
    · rw [hf]; exact hr.timeout

/-- **The simulation along every run**, in either build, from whatever segment
was left over: the run completes, and the element holds the configuration of
its history. -/
theorem run_represents {build : Build} {e : Element}
    (hr : Represents build .initial e) (is : List Input)
    (hadm : ∀ i ∈ is, i.Admissible build) :
    ∃ e' h, element.run e is = .ok (e', h) ∧ Represents build (configuration h) e' := by
  refine Machine.run_invariant hr (fun h t i hinv hi => ?_) is hadm
  obtain ⟨t', effects, hs, hrep⟩ := step_represents hinv hi
  exact ⟨t', effects, hs, by rw [configuration_snoc]; exact hrep⟩

/-- **The exact-guard rule for the element.**  What one admissible entry keeps
exactly under a guard, a run keeps throughout exactly when every entry of it
meets that guard. -/
theorem always_iff_guarded {build : Build} {e₀ : Element} {P : History → Element → Prop}
    {G : History → Element → Input → Prop} (hr : Represents build .initial e₀)
    (hP₀ : P [] e₀)
    (hexact : ∀ h e i e' effects, Represents build (configuration h) e →
      Represents build (configuration (h ++ [(i, effects)])) e' → P h e →
      i.Admissible build → elementStep e i = .ok (e', effects) →
      (P (h ++ [(i, effects)]) e' ↔ G h e i))
    {is : List Input} (hadm : ∀ i ∈ is, i.Admissible build) :
    element.Always P e₀ is ↔ element.Guarded G e₀ is := by
  have hkeep : ∀ h e i e' effects, Represents build (configuration h) e →
      i.Admissible build → elementStep e i = .ok (e', effects) →
      Represents build (configuration (h ++ [(i, effects)])) e' := by
    intro h e i e' effects hrep hi hstep
    obtain ⟨e'', effects', hstep', hrep'⟩ := step_represents hrep hi
    obtain ⟨rfl, rfl⟩ := Prod.mk.inj (Except.ok.inj (hstep.symm.trans hstep'))
    rw [configuration_snoc]
    exact hrep'
  refine Machine.always_iff_guarded (J := fun h e => Represents build (configuration h) e)
    hr hP₀ hkeep (fun h e i hrep hP hi => ?_) hadm
  obtain ⟨e', effects, hstep, -⟩ := step_represents hrep hi
  have hiff := hexact h e i e' effects hrep (hkeep h e i e' effects hrep hi hstep) hP hi hstep
  constructor
  · exact fun hG => ⟨e', effects, hstep, hiff.mpr hG⟩
  · rintro ⟨e'', effects', hstep', hP'⟩
    obtain ⟨rfl, rfl⟩ := Prod.mk.inj (Except.ok.inj (hstep.symm.trans hstep'))
    exact hiff.mp hP'

end LookoutVision
