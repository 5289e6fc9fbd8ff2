import LookoutVision.AssignmentOrder

/-!
# Asking only where the model was seen running

A `DetectAnomalies` request ought to go to an address where a `StartModel` of
the component returned `SUCCESSFUL` since that address was set.  The two
branches of `set_property` that call `StartModel` treat its failure differently.
A component that does not start is not kept; an address on which the kept
component does not start is, and so is the component.

So the runs along which the element only asks where it has seen the model
running are exactly those in which no address is set whose `StartModel` of the
kept component fails (`asks_where_running_iff`).  Read as "the most recent
`StartModel` of the component on this address succeeded", the property also
breaks when the kept component is assigned again and fails to start.
-/

namespace LookoutVision

/-! ## What a history shows about starts -/

/-- The records from the last assignment of an address on, that assignment
included; the whole history when there was none. -/
def sinceSocket (h : History) : History :=
  h.foldl (fun acc r => match r.1.action with
    | .setProperty (.serverSocket _) => [r]
    | _ => acc ++ [r]) []

/-- Since the last assignment of an address, a `StartModel` of `component` on
`target` returned `SUCCESSFUL`. -/
def SeenRunning (h : History) (target component : String) : Prop :=
  ∃ r ∈ sinceSocket h, ∃ timeout, Effect.started target component timeout .successful ∈ r.2

/-- The status of a `StartModel` of `component` on `target`. -/
def Effect.startStatus (target component : String) : Effect → Option OperationStatus
  | .started target' component' _ status =>
      if target' = target ∧ component' = component then some status else none
  | _ => none

/-- The status of the most recent `StartModel` of `component` on `target`. -/
def latestStart (h : History) (target component : String) : Option OperationStatus :=
  ((h.flatMap Prod.snd).filterMap (Effect.startStatus target component)).getLast?

section
variable {h : History} {i : Input} {effects : List Effect} {target component : String}

theorem sinceSocket_socket {value : Option String}
    (hi : i.action = .setProperty (.serverSocket value)) :
    sinceSocket (h ++ [(i, effects)]) = [(i, effects)] := by
  simp only [sinceSocket, List.foldl_append, List.foldl_cons, List.foldl_nil, hi]

theorem sinceSocket_other (hi : ∀ value, i.action ≠ .setProperty (.serverSocket value)) :
    sinceSocket (h ++ [(i, effects)]) = sinceSocket h ++ [(i, effects)] := by
  simp only [sinceSocket, List.foldl_append, List.foldl_cons, List.foldl_nil]

/-- What was seen stays seen until the next address. -/
theorem SeenRunning.snoc (hs : SeenRunning h target component)
    (hi : ∀ value, i.action ≠ .setProperty (.serverSocket value)) :
    SeenRunning (h ++ [(i, effects)]) target component := by
  obtain ⟨r, hr, hstarted⟩ := hs
  exact ⟨r, by rw [sinceSocket_other hi]; exact List.mem_append_left _ hr, hstarted⟩

/-- On a new address only its own start was seen. -/
theorem seenRunning_socket {value : Option String}
    (hi : i.action = .setProperty (.serverSocket value)) :
    SeenRunning (h ++ [(i, effects)]) target component ↔
      ∃ timeout, Effect.started target component timeout .successful ∈ effects := by
  simp only [SeenRunning, sinceSocket_socket hi, List.mem_singleton, exists_eq_left]

/-- Only an address moves the configuration's. -/
theorem configuration_socket_snoc (hi : ∀ value, i.action ≠ .setProperty (.serverSocket value)) :
    (configuration (h ++ [(i, effects)])).socket = (configuration h).socket := by
  rw [configuration_snoc]
  unfold Configuration.after
  split
  · rename_i socket haction
    exact absurd haction (hi _)
  · split <;> rfl
  · rfl
  · rfl

theorem latestStart_snoc : latestStart (h ++ [(i, effects)]) target component =
    ((effects.filterMap (Effect.startStatus target component)).getLast?).or
      (latestStart h target component) := by
  simp [latestStart, List.filterMap_append, List.getLast?_append]

/-- Without a `StartModel` the most recent one is the same as before. -/
theorem latestStart_snoc_of_quiet
    (hq : effects.filterMap (Effect.startStatus target component) = []) :
    latestStart (h ++ [(i, effects)]) target component = latestStart h target component := by
  rw [latestStart_snoc, hq]
  rfl

end

section
variable (env : Environment) (filter : GstLookoutVision) (component : String)

/-- A `StartModel` is the most recent one of its component on its address, and
of no other. -/
theorem startStatus_startEffects (target component' : String) :
    (filter.startEffects env component).filterMap (Effect.startStatus target component') =
      if filter.inferenceClient.stub.channel.target = target ∧ component = component' then
        [(filter.start env component).status] else [] := by
  have hcalls : ((filter.start env component).calls.map Effect.call).filterMap
      (Effect.startStatus target component') = [] := by
    refine List.filterMap_eq_nil_iff.mpr fun effect he => ?_
    obtain ⟨call, -, rfl⟩ := List.mem_map.mp he
    rfl
  have herror : (if (filter.start env component).status = .successful then []
      else [Effect.elementError "Failed to start model"]).filterMap
      (Effect.startStatus target component') = [] := by
    split <;> rfl
  simp only [GstLookoutVision.startEffects, List.filterMap_append, hcalls, herror,
    List.nil_append, List.append_nil, List.filterMap_cons, List.filterMap_nil,
    Effect.startStatus]
  split <;> simp_all

/-- It is the most recent one on the address from then on. -/
theorem latestStart_startEffects (h : History) (i : Input) (component' : String) :
    latestStart (h ++ [(i, filter.startEffects env component)])
        filter.inferenceClient.stub.channel.target component' =
      if component = component' then some (filter.start env component).status
      else latestStart h filter.inferenceClient.stub.channel.target component' := by
  rw [latestStart_snoc, startStatus_startEffects]
  by_cases hc : component = component'
  · simp [hc]
  · simp [hc]

/-- A start is seen running exactly when it succeeded. -/
theorem started_successful_iff :
    (∃ timeout, Effect.started filter.inferenceClient.stub.channel.target component timeout
        .successful ∈ filter.startEffects env component) ↔
      (filter.start env component).status = .successful := by
  constructor
  · rintro ⟨timeout, hmem⟩
    exact ((started_mem_startEffects ..).mp hmem).2.2.2.symm
  · intro hs
    exact ⟨_, (started_mem_startEffects ..).mpr ⟨rfl, rfl, rfl, hs.symm⟩⟩

end

/-! ## What one entry starts -/

section
variable {build : Build} {c : Configuration} {e e' : Element} {i : Input}
  {effects : List Effect}

/-- **Every entry by what it starts.**  An address restarts the held component,
a component is started and kept if it succeeds, and anything else starts nothing
and leaves the component and the address. -/
theorem step_starts (hr : Represents build c e) (hi : i.Admissible build)
    (hstep : elementStep e i = .ok (e', effects)) :
    (∃ socket, i.action = .setProperty (.serverSocket (some socket)) ∧
      e'.filter = e.filter.readdressed socket ∧
      effects = match e.filter.modelComponent with
        | none => []
        | some component => (e.filter.readdressed socket).startEffects i.env component) ∨
    (∃ component, i.action = .setProperty (.modelComponent (some component)) ∧
      e'.filter = (if (e.filter.start i.env component).status = .successful then
        { e.filter with modelComponent := some component } else e.filter) ∧
      effects = e.filter.startEffects i.env component) ∨
    ((∀ value, i.action ≠ .setProperty (.serverSocket value)) ∧
      (∀ value, i.action ≠ .setProperty (.modelComponent value)) ∧
      e'.filter.serverSocket = e.filter.serverSocket ∧
      e'.filter.modelComponent = e.filter.modelComponent ∧
      ∀ target component, effects.filterMap (Effect.startStatus target component) = []) := by
  have hstepped := stepped_of_step hstep
  obtain ⟨action, env⟩ := i
  cases hstepped with
  | serverSocket socket => exact Or.inl ⟨socket, rfl, rfl, rfl⟩
  | modelComponent component => exact Or.inr (Or.inl ⟨component, rfl, rfl, rfl⟩)
  | modelStatusTimeout timeout =>
    exact Or.inr (Or.inr ⟨(fun _ h => by cases h), (fun _ h => by cases h), rfl, rfl,
      fun _ _ => rfl⟩)
  | sinkEvent event =>
    obtain ⟨sinkpad, width, height, he⟩ := sinkEvent_fields e.filter event
    exact Or.inr (Or.inr ⟨(fun _ h => by cases h), (fun _ h => by cases h),
      congrArg (·.serverSocket) he, congrArg (·.modelComponent) he, fun _ _ => rfl⟩)
  | chain hchain =>
    have hspec := chain_chains hi.served hr.ready hchain
    refine Or.inr (Or.inr ⟨(fun _ h => by cases h), (fun _ h => by cases h), ?_, ?_, ?_⟩)
    · rw [hspec.filter]
    · rw [hspec.filter]
    · intro target component
      refine List.filterMap_eq_nil_iff.mpr fun effect he => ?_
      simp only [Chained.effects, List.mem_append, List.mem_map] at he
      rcases he with ⟨_, -, rfl⟩ | ⟨_, -, rfl⟩ <;> rfl

end

/-! ## The property, and what keeps it -/

/-- The request of whatever buffer comes next goes to the address the client is
set to, and its component was seen running there. -/
def AsksWhereRunning (build : Build) (h : History) (e : Element) : Prop :=
  ∀ env buf, Served build env.os →
    ∃ e' effects, element.step e ⟨.chain buf, env⟩ = .ok (e', effects) ∧
      ∀ target request, (target, request) ∈ detectRequests effects →
        e.filter.serverSocket = some target ∧ SeenRunning h target request.modelComponent

/-- The held component was seen running on the current address. -/
def HoldsSeen (h : History) (e : Element) : Prop :=
  ∀ component, e.filter.modelComponent = some component →
    SeenRunning h (configuration h).socket component

/-- The held component's most recent `StartModel` on the current address
succeeded. -/
def HoldsStarted (h : History) (e : Element) : Prop :=
  ∀ socket component, e.filter.serverSocket = some socket →
    e.filter.modelComponent = some component →
      latestStart h socket component = some .successful

/-- An address set while a component is held is one where that component
starts. -/
def MovesWhereRunning (_ : History) (e : Element) (i : Input) : Prop :=
  ∀ socket component, i.action = .setProperty (.serverSocket (some socket)) →
    e.filter.modelComponent = some component →
      ((e.filter.readdressed socket).start i.env component).status = .successful

/-- And the held component, assigned again, starts. -/
def StaysWhereRunning (h : History) (e : Element) (i : Input) : Prop :=
  MovesWhereRunning h e i ∧
    ∀ component, i.action = .setProperty (.modelComponent (some component)) →
      e.filter.modelComponent = some component →
        (e.filter.start i.env component).status = .successful

section
variable {build : Build} {h : History} {e e' : Element} {i : Input} {effects : List Effect}

/-- Only a held component is asked about, and any buffer asks about it. -/
theorem asksWhereRunning_iff (hr : Represents build (configuration h) e) :
    AsksWhereRunning build h e ↔ HoldsSeen h e := by
  constructor
  · intro hasks component hm
    let env : Environment := .steady fun _ _ => true
    have hserved : Served build env.os := fun _ => ⟨rfl, rfl, rfl⟩
    obtain ⟨e', effects, hstep, hrequests⟩ := hasks env ⟨[], 1, []⟩ hserved
    obtain ⟨c, hchain, hspec⟩ := chain_ready hserved hr.ready ⟨[], 1, []⟩
    obtain ⟨request, heffects, hname, -⟩ := hspec.requested hm
    simp only [element, elementStep, hchain] at hstep
    obtain ⟨rfl, rfl⟩ := Prod.mk.inj (Except.ok.inj hstep)
    have hseen := (hrequests _ request (by rw [heffects]; exact List.mem_singleton_self _)).2
    rwa [hr.addressed.stub, hname] at hseen
  · intro hheld env buf hserved
    obtain ⟨c, hchain, hspec⟩ := chain_ready hserved hr.ready buf
    refine ⟨c.element, c.effects, by simp only [element, elementStep, hchain], ?_⟩
    intro target request hmem
    cases hm : e.filter.modelComponent with
    | none =>
      rw [hspec.unrequested hm] at hmem
      cases hmem
    | some component =>
      obtain ⟨request', heffects, hname, -⟩ := hspec.requested hm
      rw [heffects] at hmem
      obtain ⟨rfl, rfl⟩ := Prod.mk.inj (List.mem_singleton.mp hmem)
      rw [hr.addressed.stub, hname]
      exact ⟨hr.addressed.element, hheld component hm⟩

/-- **A new address** forgets what was seen: only the restart on it counts. -/
theorem holdsSeen_moved_iff {socket : String}
    (haction : i.action = .setProperty (.serverSocket (some socket)))
    (he' : e'.filter = e.filter.readdressed socket)
    (heffects : ∀ component, e.filter.modelComponent = some component →
      effects = (e.filter.readdressed socket).startEffects i.env component) :
    HoldsSeen (h ++ [(i, effects)]) e' ↔ MovesWhereRunning h e i := by
  have hsame : (configuration (h ++ [(i, effects)])).socket = socket := by
    simp only [configuration_snoc, Configuration.after, haction]
  have hexact : ∀ component, e.filter.modelComponent = some component →
      (SeenRunning (h ++ [(i, effects)]) socket component ↔
        ((e.filter.readdressed socket).start i.env component).status = .successful) := by
    intro component hm
    rw [seenRunning_socket haction, heffects component hm]
    exact started_successful_iff i.env (e.filter.readdressed socket) component
  unfold HoldsSeen
  rw [hsame, he']
  constructor
  · intro hall socket' component haction' hm
    rw [haction] at haction'
    cases haction'
    exact (hexact component hm).mp (hall component hm)
  · intro hmoves component hm
    exact (hexact component hm).mpr (hmoves socket component haction hm)

/-- **A component** is held from then on only if it was just seen running. -/
theorem holdsSeen_started (hseen : HoldsSeen h e) {component : String}
    (hstub : e.filter.inferenceClient.stub.channel.target = (configuration h).socket)
    (haction : i.action = .setProperty (.modelComponent (some component)))
    (he' : e'.filter = if (e.filter.start i.env component).status = .successful then
      { e.filter with modelComponent := some component } else e.filter)
    (heffects : effects = e.filter.startEffects i.env component) :
    HoldsSeen (h ++ [(i, effects)]) e' := by
  have hnot : ∀ value, i.action ≠ .setProperty (.serverSocket value) := by
    rw [haction]
    exact nofun
  unfold HoldsSeen
  rw [configuration_socket_snoc hnot, he']
  by_cases hs : (e.filter.start i.env component).status = .successful
  · rw [if_pos hs]
    intro component' hm
    obtain rfl : component = component' := Option.some.inj hm
    refine ⟨(i, effects), by rw [sinceSocket_other hnot]; simp, ?_⟩
    rw [heffects, ← hstub]
    exact (started_successful_iff i.env e.filter component).mpr hs
  · rw [if_neg hs]
    exact fun component' hm => (hseen component' hm).snoc hnot

/-- **One entry keeps asking where the model runs** exactly when it moves there
only. -/
theorem asks_step_iff (hr : Represents build (configuration h) e)
    (hasks : AsksWhereRunning build h e) (hi : i.Admissible build)
    (hstep : elementStep e i = .ok (e', effects))
    (hr' : Represents build (configuration (h ++ [(i, effects)])) e') :
    AsksWhereRunning build (h ++ [(i, effects)]) e' ↔ MovesWhereRunning h e i := by
  have hseen := (asksWhereRunning_iff hr).mp hasks
  rw [asksWhereRunning_iff hr']
  rcases step_starts hr hi hstep with ⟨socket, haction, he', heffects⟩ |
    ⟨component, haction, he', heffects⟩ | ⟨hnot, -, -, hcomponent, -⟩
  · exact holdsSeen_moved_iff haction he' fun component hm => by rw [heffects, hm]
  · refine ⟨fun _ socket _ haction' => ?_, fun _ =>
      holdsSeen_started hseen hr.addressed.stub haction he' heffects⟩
    rw [haction] at haction'
    cases haction'
  · refine ⟨fun _ socket _ haction' => absurd haction' (hnot _), fun _ component hm => ?_⟩
    rw [configuration_socket_snoc hnot]
    exact (hseen component (hcomponent ▸ hm)).snoc hnot

/-- **A new address** makes the restart on it the held component's most recent
start. -/
theorem holdsStarted_moved_iff {socket : String}
    (haction : i.action = .setProperty (.serverSocket (some socket)))
    (he' : e'.filter = e.filter.readdressed socket)
    (heffects : ∀ component, e.filter.modelComponent = some component →
      effects = (e.filter.readdressed socket).startEffects i.env component) :
    HoldsStarted (h ++ [(i, effects)]) e' ↔ StaysWhereRunning h e i := by
  have hlatest : ∀ component, e.filter.modelComponent = some component →
      latestStart (h ++ [(i, effects)]) socket component =
        some ((e.filter.readdressed socket).start i.env component).status := by
    intro component hm
    have hlast :=
      latestStart_startEffects i.env (e.filter.readdressed socket) component h i component
    rw [if_pos rfl, ← heffects component hm] at hlast
    exact hlast
  constructor
  · intro hall
    refine ⟨fun socket' component haction' hm => ?_, fun component haction' => ?_⟩
    · rw [haction] at haction'
      cases haction'
      have hlast := hall socket component (by rw [he']; rfl) (by rw [he']; exact hm)
      rw [hlatest component hm] at hlast
      exact Option.some.inj hlast
    · rw [haction] at haction'
      cases haction'
  · rintro ⟨hmoves, -⟩ socket' component hsocket' hm
    rw [he'] at hsocket' hm
    obtain rfl : socket = socket' := Option.some.inj hsocket'
    rw [hlatest component hm, hmoves socket component haction hm]

/-- **A component** that is held already, or that is held from then on, has this
start as its most recent one. -/
theorem holdsStarted_started_iff (hr : Represents build (configuration h) e)
    (hholds : HoldsStarted h e) {component : String}
    (haction : i.action = .setProperty (.modelComponent (some component)))
    (he' : e'.filter = if (e.filter.start i.env component).status = .successful then
      { e.filter with modelComponent := some component } else e.filter)
    (heffects : effects = e.filter.startEffects i.env component) :
    HoldsStarted (h ++ [(i, effects)]) e' ↔ StaysWhereRunning h e i := by
  have helement := hr.addressed.element
  have hmoves : MovesWhereRunning h e i := by
    intro socket component' haction'
    rw [haction] at haction'
    cases haction'
  have hstarts : ∀ component', latestStart (h ++ [(i, effects)]) (configuration h).socket
      component' = if component = component' then
        some (e.filter.start i.env component).status
      else latestStart h (configuration h).socket component' := by
    intro component'
    rw [heffects, ← hr.addressed.stub]
    exact latestStart_startEffects i.env e.filter component h i component'
  by_cases hs : (e.filter.start i.env component).status = .successful
  · rw [if_pos hs] at he'
    refine ⟨fun _ => ⟨hmoves, fun component' haction' _ => ?_⟩,
      fun _ socket component' hsocket' hm => ?_⟩
    · rw [haction] at haction'
      cases haction'
      exact hs
    · rw [he'] at hsocket' hm
      obtain rfl : component = component' := Option.some.inj hm
      obtain rfl : (configuration h).socket = socket :=
        Option.some.inj (helement.symm.trans hsocket')
      rw [hstarts component, if_pos rfl, hs]
  · rw [if_neg hs] at he'
    constructor
    · intro hall
      refine ⟨hmoves, fun component' haction' hm => ?_⟩
      rw [haction] at haction'
      cases haction'
      have hlast := hall (configuration h).socket component (by rw [he']; exact helement)
        (by rw [he']; exact hm)
      rw [hstarts component, if_pos rfl] at hlast
      exact Option.some.inj hlast
    · -- The start that failed was not of the held component.
      rintro ⟨-, hstays⟩ socket component' hsocket' hm
      rw [he'] at hsocket' hm
      obtain rfl : (configuration h).socket = socket :=
        Option.some.inj (helement.symm.trans hsocket')
      have hc : component ≠ component' := by
        rintro rfl
        exact hs (hstays component haction hm)
      rw [hstarts component', if_neg hc]
      exact hholds _ component' helement hm

/-- **One entry keeps the most recent start a success** exactly when it moves
and stays where the model runs. -/
theorem holds_step_iff (hr : Represents build (configuration h) e)
    (hholds : HoldsStarted h e) (hi : i.Admissible build)
    (hstep : elementStep e i = .ok (e', effects)) :
    HoldsStarted (h ++ [(i, effects)]) e' ↔ StaysWhereRunning h e i := by
  rcases step_starts hr hi hstep with ⟨socket, haction, he', heffects⟩ |
    ⟨component, haction, he', heffects⟩ | ⟨hnot, hnot', hsocket, hcomponent, hquiet⟩
  · exact holdsStarted_moved_iff haction he' fun component hm => by rw [heffects, hm]
  · exact holdsStarted_started_iff hr hholds haction he' heffects
  · refine ⟨fun _ => ⟨fun socket _ haction' => absurd haction' (hnot _),
      fun component haction' => absurd haction' (hnot' _)⟩,
      fun _ socket component hsocket' hm => ?_⟩
    rw [latestStart_snoc_of_quiet (hquiet socket component)]
    exact hholds socket component (hsocket ▸ hsocket') (hcomponent ▸ hm)

end

/-! ## Runs -/

/-- **The element asks only where it has seen the model running** along exactly
the runs that set no address on which the held component fails to start.  The
most recent `StartModel` of the held component was a success throughout exactly
the runs that, besides, never assign the held component again in vain. -/
theorem asks_where_running_iff (build : Build) (os : Posix.Outcomes) (k : Kernel)
    (is : List Input) (hos : Served build os) (his : ∀ i ∈ is, i.Admissible build) :
    ∃ e₀, gstLookoutVisionInit build os k = .ok e₀ ∧
      (element.Always (AsksWhereRunning build) e₀ is ↔
        element.Guarded MovesWhereRunning e₀ is) ∧
      (element.Always HoldsStarted e₀ is ↔ element.Guarded StaysWhereRunning e₀ is) := by
  obtain ⟨e₀, hinit, hrep, -⟩ := init_represents hos k
  have hnone : e₀.filter.modelComponent = none := hrep.component
  refine ⟨e₀, hinit, ?_, ?_⟩
  · refine always_iff_guarded hrep ?_ (fun h e i e' effects hr hr' hasks hi hstep =>
      asks_step_iff hr hasks hi hstep hr') his
    refine (asksWhereRunning_iff (h := []) hrep).mpr fun component hm => ?_
    rw [hnone] at hm
    cases hm
  · refine always_iff_guarded hrep ?_ (fun h e i e' effects hr _ hholds hi hstep =>
      holds_step_iff hr hholds hi hstep) his
    intro socket component _ hm
    rw [hnone] at hm
    cases hm

/-- A component, then another address. -/
def startThenMove (env : Environment) : List Input :=
  [⟨.setProperty (.modelComponent (some "SampleModel")), env⟩,
    ⟨.setProperty (.serverSocket (some "0.0.0.0:50052")), env⟩]

theorem startThenMove_admissible (env : Environment) :
    ∀ i ∈ startThenMove env, i.Admissible .default := by
  simp only [startThenMove, List.forall_mem_cons]
  exact ⟨⟨nofun, served_default⟩, ⟨nofun, served_default⟩, nofun⟩

/-- Agents that run every model. -/
theorem asks_where_running_sample :
    ∃ e₀, gstLookoutVisionInit .default .allSucceed Posix.Kernel.empty = .ok e₀ ∧
      (element.Always (AsksWhereRunning .default) e₀ (startThenMove (.steady fun _ _ => true)) ↔
        element.Guarded MovesWhereRunning e₀ (startThenMove (.steady fun _ _ => true))) ∧
      (element.Always HoldsStarted e₀ (startThenMove (.steady fun _ _ => true)) ↔
        element.Guarded StaysWhereRunning e₀ (startThenMove (.steady fun _ _ => true))) :=
  asks_where_running_iff .default .allSucceed Posix.Kernel.empty
    (startThenMove (.steady fun _ _ => true)) served_default (startThenMove_admissible _)

/-- The one agent on which every model runs is the default one. -/
def defaultAgentOnly : Environment :=
  .steady fun socket _ => socket == defaultServerSocket

/-- **A component moved to an agent that does not run it is kept**, and the next
buffer asks that agent about it. -/
theorem asks_unseen_model :
    ∃ e₀ e h e' effects request,
      gstLookoutVisionInit .default .allSucceed Posix.Kernel.empty = .ok e₀ ∧
      element.run e₀ (startThenMove defaultAgentOnly) = .ok (e, h) ∧
      element.step e ⟨.chain ⟨[1, 2, 3], 1, []⟩, defaultAgentOnly⟩ = .ok (e', effects) ∧
      ("0.0.0.0:50052", request) ∈ detectRequests effects ∧
      request.modelComponent = "SampleModel" ∧
      ¬ SeenRunning h "0.0.0.0:50052" "SampleModel" := by
  have hsteady : Steady (fun socket _ => socket == defaultServerSocket) defaultAgentOnly :=
    steady_steady _
  have hserved : Served .default defaultAgentOnly.os := served_default
  obtain ⟨e₀, hinit, hrep₀, -⟩ := init_represents served_default Posix.Kernel.empty
  obtain ⟨e₁, effects₁, hstep₁, hrep₁⟩ := assign_represents hrep₀ hsteady hserved
    (a := .modelComponent (some "SampleModel")) nofun
  obtain ⟨e₂, effects₂, hstep₂, hrep₂⟩ := assign_represents hrep₁ hsteady hserved
    (a := .serverSocket (some "0.0.0.0:50052")) nofun
  have hkept₁ : e₁.filter.modelComponent = some "SampleModel" := hrep₁.component
  have hkept₂ : e₂.filter.modelComponent = some "SampleModel" := hrep₂.component
  have hstub : e₂.filter.inferenceClient.stub.channel.target = "0.0.0.0:50052" :=
    hrep₂.addressed.stub
  obtain ⟨c, hchain, hspec⟩ := chain_ready hserved hrep₂.ready ⟨[1, 2, 3], 1, []⟩
  obtain ⟨request, hrequests, hname, -⟩ := hspec.requested hkept₂
  refine ⟨e₀, e₂, _, c.element, c.effects, request, hinit,
    Machine.run_snoc_ok (Machine.run_one hstep₁) hstep₂,
    by simp only [element, elementStep, hchain], ?_, hname, ?_⟩
  · rw [hrequests, hstub]
    exact List.mem_singleton_self _
  · rw [seenRunning_socket rfl]
    rintro ⟨timeout, hmem⟩
    have hi : (Input.mk (.setProperty (.serverSocket (some "0.0.0.0:50052")))
        defaultAgentOnly).Admissible .default := ⟨nofun, hserved⟩
    rcases step_starts hrep₁ hi hstep₂ with ⟨socket, haction, -, heffects⟩ |
      ⟨component, haction, -⟩ | ⟨hnot, -⟩
    · cases haction
      rw [heffects, hkept₁] at hmem
      have hs := ((started_mem_startEffects ..).mp hmem).2.2.2.symm
      have hrunning : ("0.0.0.0:50052" == defaultServerSocket) = true :=
        ((hsteady.startModel _ _ _).mp hs).2
      exact absurd hrunning (by decide)
    · cases haction
    · exact hnot _ rfl

end LookoutVision
