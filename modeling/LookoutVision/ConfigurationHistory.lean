import LookoutVision.ElementRuns

/-!
# Requests are addressed by the configuration history

Along every run, in either build, each entry into the element acts on the
configuration the history before it leaves (`FollowsConfiguration`): its RPCs go
to the latest address set, its buffer is sent for inference exactly when a
component was committed and names the latest one, its `StartModel` uses the
timeout in force and is recorded as it went, and a component whose `StartModel` fails
leaves no trace.
-/

namespace LookoutVision

/-! ## The latest committed component -/

/-- The record is an assignment of the component whose `StartModel` returned
`SUCCESSFUL`. -/
def Commits (component : String) (r : Input × List Effect) : Prop :=
  r.1.action = .setProperty (.modelComponent (some component)) ∧ StartedAmong component r.2

/-- The history's latest committing assignment committed `component`. -/
def LatestCommitted (h : History) (component : String) : Prop :=
  ∃ before r since, h = before ++ r :: since ∧ Commits component r ∧
    ∀ r' ∈ since, ∀ component', ¬ Commits component' r'

section
variable {h : History} {r : Input × List Effect} {component : String}

/-- A record commits one component, or leaves the component alone. -/
theorem after_component (c : Configuration) (r : Input × List Effect) :
    (∃ component, Commits component r ∧ (c.after r).component = some component) ∨
      ((∀ component, ¬ Commits component r) ∧ (c.after r).component = c.component) := by
  obtain ⟨⟨action, env⟩, effects⟩ := r
  by_cases hset : ∃ component, action = .setProperty (.modelComponent (some component))
  · obtain ⟨component, rfl⟩ := hset
    by_cases hs : StartedAmong component effects
    · exact Or.inl ⟨component, ⟨rfl, hs⟩, by simp [Configuration.after, hs]⟩
    · refine Or.inr ⟨?_, by simp [Configuration.after, hs]⟩
      rintro component' ⟨haction, hstarted⟩
      cases haction
      exact hs hstarted
  · refine Or.inr ⟨fun component hc => hset ⟨component, hc.1⟩, ?_⟩
    unfold Configuration.after
    split
    · rfl
    · rename_i component haction
      exact absurd ⟨component, haction⟩ hset
    · rfl
    · rfl

/-- **The configured component is the latest committed one**, and there is none
exactly when nothing was ever committed. -/
theorem configuration_component (h : History) :
    (∀ component, (configuration h).component = some component → LatestCommitted h component) ∧
      ((configuration h).component = none ↔ ∀ r ∈ h, ∀ component, ¬ Commits component r) := by
  induction h using List.reverseRecOn with
  | nil => exact ⟨(fun _ h => by cases h), (fun _ _ h => by cases h), fun _ => rfl⟩
  | append_singleton h r ih =>
    obtain ⟨ihsome, ihnone⟩ := ih
    rw [configuration_snoc]
    rcases after_component (configuration h) r with ⟨component, hc, hafter⟩ | ⟨hno, hafter⟩
    · rw [hafter]
      refine ⟨?_, (fun h => by cases h), fun hall => absurd hc (hall r (by simp) component)⟩
      intro component' he
      obtain rfl := Option.some.inj he
      exact ⟨h, r, [], rfl, hc, fun _ hr' => by cases hr'⟩
    · rw [hafter]
      refine ⟨?_, ihnone.trans ⟨?_, fun hall r' hr' => hall r' (List.mem_append_left _ hr')⟩⟩
      · -- The latest commit stays the latest, with one more record since.
        intro component hcomp
        obtain ⟨before, r', since, rfl, hc, hsince⟩ := ihsome component hcomp
        refine ⟨before, r', since ++ [r], by simp, hc, ?_⟩
        intro r'' hr''
        rcases List.mem_append.mp hr'' with hr'' | hr''
        · exact hsince r'' hr''
        · rw [List.mem_singleton.mp hr'']
          exact hno
      · intro hall r' hr'
        rcases List.mem_append.mp hr' with hr' | hr'
        · exact hall r' hr'
        · rw [List.mem_singleton.mp hr']
          exact hno

end

/-! ## One entry after a history -/

/-- The component an entry starts, if it starts one: the one assigned, or on a change of
address the one there is. -/
def Configuration.attempt (c : Configuration) : Action → Option String
  | .setProperty (.modelComponent (some component)) => some component
  | .setProperty (.serverSocket (some _)) => c.component
  | _ => none

/-- **What an entry does, in terms of the history before it.** -/
structure FollowsConfiguration (h : History) (i : Input) (e e' : Element)
    (effects : List Effect) : Prop where
  /-- Every RPC goes to the latest address set, by this very entry included. -/
  addressed : ∀ call ∈ calls effects,
    call.target = ((configuration h).after (i, effects)).socket
  /-- A buffer is sent for inference if and only if a component was committed
  before it. -/
  requested : ∀ buf, i.action = .chain buf →
    (detectRequests effects ≠ [] ↔ ∃ r ∈ h, ∃ component, Commits component r)
  /-- Only a buffer is, at most once, and it names the latest committed
  component. -/
  request : ∀ target request, (target, request) ∈ detectRequests effects →
    (∃ buf, i.action = .chain buf) ∧ detectRequests effects = [(target, request)] ∧
      LatestCommitted h request.modelComponent
  /-- Every start attempt uses the timeout in force, and is recorded with the status that
  `StartModel` returned in this entry's environment. -/
  started : ∀ target component timeout status,
    Effect.started target component timeout status ∈ effects ↔
      (configuration h).attempt i.action = some component ∧
        target = ((configuration h).after (i, effects)).socket ∧
        timeout = (configuration h).timeout.toNat ∧
        status = (e'.filter.inferenceClient.startModel i.env component timeout).status
  /-- Its RPCs are those of that `StartModel`. -/
  asked : ∀ component, (configuration h).attempt i.action = some component →
    calls effects = (e'.filter.inferenceClient.startModel i.env component
      (configuration h).timeout.toNat).calls
  /-- A component whose `StartModel` fails changes no field and no later
  request. -/
  failed : ∀ component, i.action = .setProperty (.modelComponent (some component)) →
    ¬ StartedAmong component effects →
      e' = e ∧ ∀ later, element.run e' later = element.run e later

section
variable {build : Build} {h : History} {e e' : Element} {i : Input} {env : Environment}

/-- An entry without effects that starts nothing and is no buffer. -/
theorem FollowsConfiguration.silent (hchain : ∀ buf, i.action ≠ .chain buf)
    (hset : ∀ component, i.action ≠ .setProperty (.modelComponent (some component)))
    (hattempt : (configuration h).attempt i.action = none) :
    FollowsConfiguration h i e e' [] where
  addressed := fun _ hcall => by cases hcall
  requested := fun buf hbuf => absurd hbuf (hchain buf)
  request := fun _ _ hrequest => by cases hrequest
  started := by
    intro target component timeout status
    rw [hattempt]
    refine ⟨fun hmem => (by cases hmem), ?_⟩
    rintro ⟨hnone, -⟩
    cases hnone
  asked := by
    intro component hsome
    rw [hattempt] at hsome
    cases hsome
  failed := fun component hc => absurd hc (hset component)

/-- An entry that is no buffer and starts a model, at the address then set and
with the timeout in force. -/
theorem FollowsConfiguration.start {filter : GstLookoutVision} {component : String}
    (hr : Represents build (configuration h) e) (hchain : ∀ buf, i.action ≠ .chain buf)
    (hsocket : filter.inferenceClient.stub.channel.target =
      ((configuration h).after (i, filter.startEffects env component)).socket)
    (htimeout : filter.modelStatusTimeout = (configuration h).timeout)
    (hattempt : (configuration h).attempt i.action = some component)
    (henv : i.env = env) (hclient : e'.filter.inferenceClient = filter.inferenceClient)
    (hfailed : ∀ component', i.action = .setProperty (.modelComponent (some component')) →
      ¬ StartedAmong component' (filter.startEffects env component) → e' = e) :
    FollowsConfiguration h i e e' (filter.startEffects env component) where
  addressed := fun call hcall => (calls_startEffects env filter component call hcall).trans hsocket
  requested := fun buf hbuf => absurd hbuf (hchain buf)
  request := by
    intro target request hmem
    rw [detectRequests_startEffects] at hmem
    cases hmem
  started := by
    intro target component' timeout status
    have hforce : filter.modelStatusTimeout.toInt32.toInt = (configuration h).timeout.toNat := by
      rw [htimeout]
      exact toInt_timeout hr.timeout_le
    rw [started_mem_startEffects, GstLookoutVision.start, hattempt, hsocket, hforce, henv, hclient]
    constructor
    · rintro ⟨rfl, rfl, rfl, rfl⟩
      exact ⟨rfl, rfl, rfl, rfl⟩
    · rintro ⟨hsame, rfl, rfl, rfl⟩
      obtain rfl := Option.some.inj hsame
      exact ⟨rfl, rfl, rfl, rfl⟩
  asked := by
    intro component' hsame
    obtain rfl := Option.some.inj (hattempt.symm.trans hsame)
    rw [calls_startEffects_eq, GstLookoutVision.start, htimeout, toInt_timeout hr.timeout_le, henv,
      hclient]
  failed := by
    intro component' hset hnot
    obtain rfl := hfailed component' hset hnot
    exact ⟨rfl, fun _ => rfl⟩

/-- **A buffer** is sent for inference if a component is held. -/
theorem FollowsConfiguration.chained {buf : GstBuffer} {c : Chained}
    (hr : Represents build (configuration h) e) (hspec : Chains build env e buf c) :
    FollowsConfiguration h ⟨.chain buf, env⟩ e c.element c.effects := by
  obtain ⟨hlatest, hnever⟩ := configuration_component h
  have hpush : ∀ target component timeout status,
      Effect.started target component timeout status ∉ c.effects := by
    intro target component timeout status hmem
    simp only [Chained.effects, List.mem_append, List.mem_map] at hmem
    rcases hmem with ⟨_, -, h⟩ | ⟨_, -, h⟩ <;> cases h
  -- The frame's entry starts nothing, and records nothing of the kind.
  have hnostart : ∀ target component timeout status,
      Effect.started target component timeout status ∈ c.effects ↔
        (configuration h).attempt (.chain buf) = some component ∧
          target = ((configuration h).after (⟨.chain buf, env⟩, c.effects)).socket ∧
          timeout = (configuration h).timeout.toNat ∧
          status = (c.element.filter.inferenceClient.startModel env component timeout).status := by
    intro target component timeout status
    refine ⟨fun hmem => absurd hmem (hpush _ _ _ _), ?_⟩
    rintro ⟨hsome, -⟩
    cases hsome
  cases hm : e.filter.modelComponent with
  | none =>
    have hnone : (configuration h).component = none := hr.component.symm.trans hm
    have hrequests := hspec.unrequested hm
    refine ⟨?_, ?_, ?_, hnostart, fun _ hsome => (by cases hsome), fun _ hset => by cases hset⟩
    · intro call hcall
      rw [Chained.effects, (hspec.silent hm).1, hspec.pushed] at hcall
      cases hcall
    · intro _ _
      refine ⟨fun hne => absurd hrequests hne, ?_⟩
      rintro ⟨r, hr', component, hc⟩
      exact absurd hc (hnever.mp hnone r hr' component)
    · intro target request hmem
      rw [hrequests] at hmem
      cases hmem
  | some component =>
    have hsome : (configuration h).component = some component := hr.component.symm.trans hm
    obtain ⟨request, hrequests, hname, -⟩ := hspec.requested hm
    refine ⟨?_, ?_, ?_, hnostart, fun _ hsome => (by cases hsome), fun _ hset => by cases hset⟩
    · intro call hcall
      obtain ⟨request', hcalls, -⟩ := hspec.request component hm
      rw [Chained.effects, hcalls, hspec.pushed] at hcall
      rw [List.mem_singleton.mp hcall]
      exact hr.addressed.stub
    · intro _ _
      refine ⟨fun _ => ?_, fun _ => by rw [hrequests]; exact List.cons_ne_nil _ _⟩
      by_contra hno
      have hnone := hnever.mpr fun r hr' component hc => hno ⟨r, hr', component, hc⟩
      rw [hsome] at hnone
      cases hnone
    · intro target request' hmem
      rw [hrequests] at hmem
      obtain ⟨rfl, rfl⟩ := Prod.mk.inj (List.mem_singleton.mp hmem)
      exact ⟨⟨buf, rfl⟩, hrequests, hname ▸ hlatest component hsome⟩

/-- **One entry**, whatever it is. -/
theorem step_follows {effects : List Effect} (hr : Represents build (configuration h) e)
    (hi : i.Admissible build) (hstep : elementStep e i = .ok (e', effects)) :
    FollowsConfiguration h i e e' effects := by
  have hstepped := stepped_of_step hstep
  obtain ⟨action, env⟩ := i
  cases hstepped with
  | serverSocket socket =>
    cases hm : e.filter.modelComponent with
    | none =>
      exact .silent (fun _ h => by cases h) (fun _ h => by cases h) (hr.component.symm.trans hm)
    | some component =>
      exact .start hr (fun _ h => by cases h) rfl hr.timeout (hr.component.symm.trans hm) rfl rfl
        (fun _ h => by cases h)
  | modelComponent component =>
    refine .start hr (fun _ h => by cases h) (hr.addressed.stub.trans ?_) hr.timeout rfl rfl ?_ ?_
    · simp only [Configuration.after]
      split <;> rfl
    · dsimp only
      split <;> rfl
    · intro component' hc hnot
      cases hc
      rw [startedAmong_startEffects] at hnot
      rw [if_neg hnot]
  | modelStatusTimeout timeout => exact .silent (fun _ h => by cases h) (fun _ h => by cases h) rfl
  | sinkEvent event => exact .silent (fun _ h => by cases h) (fun _ h => by cases h) rfl
  | chain hchain => exact .chained hr (chain_chains hi.served hr.ready hchain)

end

/-- **Requests are addressed by the configuration history.**  Every entry of
every run of the element, whatever the agents answer, follows the configuration
of the history before it. -/
theorem requests_follow_configuration (build : Build) (os : Posix.Outcomes) (k : Kernel)
    (is : List Input) (i : Input) (hos : Served build os)
    (his : ∀ j ∈ is, j.Admissible build) (hi : i.Admissible build) :
    ∃ e₀ e h e' effects, gstLookoutVisionInit build os k = .ok e₀ ∧
      element.run e₀ is = .ok (e, h) ∧ h.map Prod.fst = is ∧
      element.step e i = .ok (e', effects) ∧ FollowsConfiguration h i e e' effects := by
  obtain ⟨e₀, hinit, hrep, -⟩ := init_represents hos k
  obtain ⟨e, h, hrun, hrep'⟩ := run_represents hrep is his
  obtain ⟨e', effects, hstep, -⟩ := step_represents hrep' hi
  exact ⟨e₀, e, h, e', effects, hinit, hrun, Machine.run_inputs hrun, hstep,
    step_follows hrep' hi hstep⟩

/-- A buffer after one successful assignment, in the shared-memory build. -/
theorem requests_follow_configuration_sample :
    ∃ e₀ e h e' effects,
      gstLookoutVisionInit .sharedMemory .allSucceed Posix.Kernel.empty = .ok e₀ ∧
      element.run e₀ [⟨.setProperty (.modelComponent (some "SampleModel")),
        .steady fun _ _ => true⟩] = .ok (e, h) ∧
      h.map Prod.fst = [⟨.setProperty (.modelComponent (some "SampleModel")),
        .steady fun _ _ => true⟩] ∧
      element.step e ⟨.chain ⟨[1, 2, 3], 1, []⟩, .steady fun _ _ => true⟩ =
        .ok (e', effects) ∧
      FollowsConfiguration h ⟨.chain ⟨[1, 2, 3], 1, []⟩, .steady fun _ _ => true⟩
        e e' effects :=
  requests_follow_configuration .sharedMemory .allSucceed Posix.Kernel.empty
    [⟨.setProperty (.modelComponent (some "SampleModel")), .steady fun _ _ => true⟩]
    ⟨.chain ⟨[1, 2, 3], 1, []⟩, .steady fun _ _ => true⟩ (fun _ => by decide)
    (by
      intro j hj
      obtain rfl := List.mem_singleton.mp hj
      exact ⟨by simp [Action.Admissible, Assignment.Admissible], fun _ => ⟨rfl, rfl, rfl⟩⟩)
    ⟨trivial, fun _ => ⟨rfl, rfl, rfl⟩⟩

end LookoutVision
