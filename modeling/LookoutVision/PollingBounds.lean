import LookoutVision.PollingLoop
import Mathlib.Data.Rat.Floor

/-!
# How long a `StartModel` polls

The loop of `waitForModelStatusWithTimeout` has no counter: it looks at the
clock, asks, and sleeps.  Whatever the agent answers and however long each answer
takes, every round moves the clock by the five seconds of its sleep at least, so
the rounds are bounded by the timeout (`waitLoop_waits`, by induction on the
rounds).  A round whose answer is `RUNNING` is the last one, and nothing else a
round can see ends the wait early.  What a round sees is the agent's answer to that
poll at that time (`Asks`), so the bounds hold of every sequence of answers.

`start_polls_bounded` says this of `StartModel`, which terminates and returns
because `waitLoop` is a total function: its measure is the time left.
-/

namespace LookoutVision

/-- A `DescribeModel` call of a wait: when it was begun, what it returned and how
many seconds it took. -/
structure Poll where
  begun : Nat
  outcome : RpcOutcome DescribeModelResponse
  latency : Nat

namespace Poll

/-- The call as it is recorded. -/
def call (target component : String) (poll : Poll) : Call :=
  ⟨target, .describeModel ⟨component⟩ poll.begun poll.outcome poll.latency⟩

/-- It returned OK with that status. -/
def Saw (expected : ModelStatus) (poll : Poll) : Prop :=
  ∃ status reply, poll.outcome = .returned status reply ∧ status.ok = true ∧
    reply.modelDescription.status = expected

theorem saw_iff {expected : ModelStatus} {poll : Poll} :
    poll.Saw expected ↔
      LookoutVisionInferenceClient.getModelStatus poll.outcome = some expected := by
  unfold Saw LookoutVisionInferenceClient.getModelStatus
  cases poll.outcome with
  | threw what =>
    constructor
    · rintro ⟨_, _, h, -⟩
      cases h
    · intro h
      cases h
  | returned status reply =>
    by_cases hok : status.ok = true
    · simp [hok]
    · simp [hok]

end Poll

/-- **What the polls of a wait are**, `n` polls on and from `now` on: each is the agent's
answer to that many polls at that time, and the next one is begun when the answer is
there and the sleep is over. -/
structure Asks (env : Environment) (target component : String) (n now : Nat)
    (polls : List Poll) : Prop where
  answered : ∀ k poll, polls[k]? = some poll →
    env.describeModel target ⟨component⟩ (n + k) poll.begun = (poll.outcome, poll.latency)
  first : ∀ poll, polls[0]? = some poll → poll.begun = now
  next : ∀ k poll later, polls[k]? = some poll → polls[k + 1]? = some later →
    later.begun = poll.begun + poll.latency + pollingIntervalInSeconds

/-- **What a wait does from `now` on**: it polls only while there is time, at
most once in five seconds, and not again once it saw the status; it has reached
the status exactly if a poll saw it; it ends with its last poll, or after the sleep that
follows; and without the status that is soon after the deadline. -/
structure Waits (expected : ModelStatus) (timeout : Int) (start now : Nat) (polls : List Poll)
    (w : LookoutVisionInferenceClient.Wait) : Prop where
  begun : ∀ poll ∈ polls, now ≤ poll.begun ∧ (poll.begun : Int) - start < timeout
  count : 5 * (polls.length : Int) < max 0 (start + timeout - now) + 5
  final : ∀ before poll after, polls = before ++ poll :: after → poll.Saw expected → after = []
  reached : w.reached = true ↔ ∃ poll ∈ polls, poll.Saw expected
  ended : ∀ poll, polls.getLast? = some poll →
    w.finished = poll.begun + poll.latency + if w.reached then 0 else pollingIntervalInSeconds
  expired : timeout ≤ (now : Int) - start → polls = [] ∧ w.finished = now
  lasted : w.reached = false → (now : Int) - start < timeout → ∃ poll, polls.getLast? = some poll ∧
    (w.finished : Int) < start + timeout + 5 + poll.latency

section
variable {env : Environment} {target component : String} {n now : Nat} {polls : List Poll}
  {poll : Poll}

theorem asks_nil : Asks env target component n now [] where
  answered := by
    intro k poll hk
    cases hk
  first := by
    intro poll h
    cases h
  next := by
    intro k poll later hk
    cases hk

/-- One more poll, before the others. -/
theorem Asks.cons
    (h : Asks env target component (n + 1)
      (poll.begun + poll.latency + pollingIntervalInSeconds) polls)
    (hbegun : poll.begun = now)
    (hanswer : env.describeModel target ⟨component⟩ n now = (poll.outcome, poll.latency)) :
    Asks env target component n now (poll :: polls) where
  answered := by
    intro k p hk
    cases k with
    | zero =>
      obtain rfl := Option.some.inj hk
      rw [hbegun]
      exact hanswer
    | succ k =>
      have hlater := h.answered k p hk
      rw [show n + 1 + k = n + (k + 1) by omega] at hlater
      exact hlater
  first := by
    intro p hp
    obtain rfl := Option.some.inj hp
    exact hbegun
  next := by
    intro k p later hk hlater
    cases k with
    | zero =>
      obtain rfl := Option.some.inj hk
      exact h.first later hlater
    | succ k => exact h.next k p later hk hlater

end

section
variable {expected : ModelStatus} {timeout : Int} {start now : Nat} {polls : List Poll}
  {w : LookoutVisionInferenceClient.Wait} {poll : Poll}

/-- The round that sees the status. -/
theorem waits_saw (hlt : (now : Int) - start < timeout) (hbegun : poll.begun = now)
    (hsaw : poll.Saw expected) (hreached : w.reached = true)
    (hfinished : w.finished = now + poll.latency) :
    Waits expected timeout start now [poll] w where
  begun := by
    intro p hp
    obtain rfl := List.mem_singleton.mp hp
    exact ⟨Nat.le_of_eq hbegun.symm, by omega⟩
  count := by
    rw [List.length_singleton]
    omega
  final := by
    intro before p after he _
    have hlen := congrArg List.length he
    simp only [List.length_append, List.length_cons, List.length_nil] at hlen
    exact List.eq_nil_of_length_eq_zero (by omega)
  reached := ⟨fun _ => ⟨poll, List.mem_singleton_self _, hsaw⟩, fun _ => hreached⟩
  ended := by
    intro p hp
    obtain rfl : poll = p := Option.some.inj hp
    rw [hfinished, hbegun, hreached]
    rfl
  expired := by
    intro hle
    omega
  lasted := by
    intro hnot
    rw [hreached] at hnot
    cases hnot

/-- A round that does not, and the rounds after its sleep. -/
theorem Waits.again (h : Waits expected timeout start (now + poll.latency + 5) polls w)
    (hlt : (now : Int) - start < timeout) (hbegun : poll.begun = now)
    (hnot : ¬ poll.Saw expected) : Waits expected timeout start now (poll :: polls) w where
  begun := by
    intro p hp
    rcases List.mem_cons.mp hp with rfl | hp
    · exact ⟨Nat.le_of_eq hbegun.symm, by omega⟩
    · obtain ⟨hle, hin⟩ := h.begun p hp
      exact ⟨by omega, hin⟩
  count := by
    have hcount := h.count
    rw [List.length_cons]
    omega
  final := by
    intro before p after he hsaw
    cases before with
    | nil =>
      obtain ⟨rfl, -⟩ := List.cons.inj he
      exact absurd hsaw hnot
    | cons first before =>
      obtain ⟨-, he⟩ := List.cons.inj he
      exact h.final before p after he hsaw
  reached := by
    rw [h.reached, List.exists_mem_cons_iff]
    exact ⟨Or.inr, fun hor => hor.resolve_left hnot⟩
  ended := by
    intro p hp
    cases hlast : polls.getLast? with
    | some last =>
      rw [List.getLast?_cons, hlast] at hp
      obtain rfl := Option.some.inj hp
      exact h.ended last hlast
    | none =>
      -- The sleep after this poll used up the time.
      obtain rfl := List.getLast?_eq_none_iff.mp hlast
      obtain rfl : poll = p := Option.some.inj hp
      have hunseen : w.reached = false := by
        apply Bool.eq_false_iff.mpr
        intro hreached
        obtain ⟨p, hp, -⟩ := h.reached.mp hreached
        cases hp
      have hexpired : timeout ≤ ((now + poll.latency + 5 : Nat) : Int) - start := by
        apply Int.not_lt.mp
        intro hmore
        obtain ⟨p, hp, -⟩ := h.lasted hunseen hmore
        cases hp
      rw [(h.expired hexpired).2, hbegun, hunseen]
      rfl
  expired := by
    intro hle
    omega
  lasted := by
    intro hfail _
    rw [List.getLast?_cons]
    by_cases hmore : ((now + poll.latency + 5 : Nat) : Int) - start < timeout
    · obtain ⟨p, hlast, hfinished⟩ := h.lasted hfail hmore
      exact ⟨p, by rw [hlast]; rfl, hfinished⟩
    · -- The sleep used up the time: this poll is the last one.
      obtain ⟨rfl, hfinished⟩ := h.expired (by omega)
      refine ⟨poll, rfl, ?_⟩
      rw [hfinished]
      omega

/-- A wait without time left. -/
theorem waits_expired (hge : timeout ≤ (now : Int) - start) (hfinished : w.finished = now)
    (hreached : w.reached = false) : Waits expected timeout start now [] w where
  begun := by
    intro p hp
    cases hp
  count := by
    rw [List.length_nil]
    omega
  final := by
    intro before p after he
    simp at he
  reached := by
    rw [hreached]
    constructor
    · intro h
      cases h
    · rintro ⟨p, hp, -⟩
      cases hp
  ended := by
    intro p hp
    cases hp
  expired := fun _ => ⟨rfl, hfinished⟩
  lasted := by
    intro _ hlt
    omega

end

namespace LookoutVisionInferenceClient
variable (env : Environment) (c : LookoutVisionInferenceClient) (component : String)

/-- **Every wait**, by induction on its rounds. -/
theorem waitLoop_waits (expected : ModelStatus) (timeout : Int) (start n now : Nat) :
    ∃ polls : List Poll,
      (c.waitLoop env component expected timeout start n now).polls =
        polls.map (Poll.call c.stub.channel.target component) ∧
      Asks env c.stub.channel.target component n now polls ∧
      Waits expected timeout start now polls
        (c.waitLoop env component expected timeout start n now) := by
  fun_induction waitLoop c env component expected timeout start n now with
  | case1 n now hlt request answer poll hreached =>
    refine ⟨[⟨now, answer.1, answer.2⟩], rfl, .cons asks_nil rfl rfl, waits_saw hlt rfl ?_ rfl rfl⟩
    exact Poll.saw_iff.mpr hreached
  | case2 n now hlt request answer poll hnot rest ih =>
    obtain ⟨polls, hpolls, hasks, hwaits⟩ := ih
    have hunseen : ¬ (⟨now, answer.1, answer.2⟩ : Poll).Saw expected :=
      fun hsaw => hnot (Poll.saw_iff.mp hsaw)
    have hround : Waits expected timeout start now (⟨now, answer.1, answer.2⟩ :: polls) rest :=
      Waits.again hwaits hlt rfl hunseen
    refine ⟨⟨now, answer.1, answer.2⟩ :: polls, ?_, .cons hasks rfl rfl,
      ⟨hround.begun, hround.count, hround.final, hround.reached, hround.ended, hround.expired,
        hround.lasted⟩⟩
    exact congrArg (poll :: ·) hpolls
  | case3 n now hlt => exact ⟨[], rfl, asks_nil, waits_expired (Int.not_lt.mp hlt) rfl rfl⟩

/-- What is asked of a `StartModel` call that polled as `polls` say. -/
structure PollsBounded (timeout : Int) (polls : List Poll) : Prop where
  /-- These are its `DescribeModel` calls, after the one `StartModel` RPC. -/
  calls : (c.startModel env component timeout).calls =
    ⟨c.stub.channel.target, .startModel ⟨component⟩
      (env.startModel c.stub.channel.target ⟨component⟩)⟩ ::
      polls.map (Poll.call c.stub.channel.target component)
  /-- The agent's answers are what it gives to the `n`-th call at that time, and take as
  long. -/
  answered : ∀ n poll, polls[n]? = some poll →
    env.describeModel c.stub.channel.target ⟨component⟩ n poll.begun =
      (poll.outcome, poll.latency)
  first : ∀ poll, polls[0]? = some poll → poll.begun = env.clock
  next : ∀ n poll later, polls[n]? = some poll → polls[n + 1]? = some later →
    later.begun = poll.begun + poll.latency + 5
  count : (polls.length : Int) ≤ ⌈(timeout : Rat) / 5⌉
  none_at_zero : timeout = 0 → polls = []
  begun : ∀ poll ∈ polls, env.clock ≤ poll.begun ∧ (poll.begun : Int) < env.clock + timeout
  /-- After a poll that returned OK with `RUNNING` there is none. -/
  final : ∀ before poll after, polls = before ++ poll :: after → poll.Saw .running → after = []
  successful : (c.startModel env component timeout).status = .successful ↔
    ∃ poll ∈ polls, poll.Saw .running
  /-- It ends with the last answer, or after the sleep that follows. -/
  ended : ∀ poll, polls.getLast? = some poll →
    (c.startModel env component timeout).finished = poll.begun + poll.latency +
      if (c.startModel env component timeout).status = .successful then 0 else 5
  lasted : (c.startModel env component timeout).status = .failed → 0 < timeout →
    ∃ poll, polls.getLast? = some poll ∧
      ((c.startModel env component timeout).finished : Int) - env.clock <
        timeout + 5 + poll.latency

/-- **The polling loop is sound, bounded and ends**, whatever `StartModel` and
every `DescribeModel` return and however long they take. -/
theorem start_polls_bounded {timeout : Int} (hpos : 0 ≤ timeout) :
    ∃ polls, PollsBounded env c component timeout polls := by
  obtain ⟨polls, hpolls, hasks, hwaits⟩ :=
    waitLoop_waits env c component .running timeout env.clock 0 env.clock
  have hcount := hwaits.count
  refine ⟨polls, congrArg (_ :: ·) hpolls, fun n poll hn => ?_, hasks.first, hasks.next, ?_, ?_,
    ?_, hwaits.final, startModel_status.trans hwaits.reached, fun poll hlast => ?_, ?_⟩
  · have hanswer := hasks.answered n poll hn
    rw [Nat.zero_add] at hanswer
    exact hanswer
  · rw [Int.le_ceil_iff, lt_div_iff₀ (by norm_num)]
    have hlt : ((polls.length : Int) - 1) * 5 < timeout := by omega
    exact_mod_cast hlt
  · intro h0
    exact (hwaits.expired (by omega)).1
  · intro poll hpoll
    obtain ⟨hle, hin⟩ := hwaits.begun poll hpoll
    exact ⟨hle, by omega⟩
  · simp only [startModel_status]
    exact hwaits.ended poll hlast
  · intro hfailed hlt
    have hnot : (c.waitLoop env component .running timeout env.clock 0 env.clock).reached =
        false := by
      refine Bool.eq_false_iff.mpr fun hreached => ?_
      rw [startModel_status.mpr hreached] at hfailed
      cases hfailed
    obtain ⟨poll, hlast, hfinished⟩ := hwaits.lasted hnot (by omega)
    refine ⟨poll, hlast, ?_⟩
    have hsame : (c.startModel env component timeout).finished =
        (c.waitLoop env component .running timeout env.clock 0 env.clock).finished := rfl
    rw [hsame]
    omega

/-- An agent on which `StartModel` throws; the first `DescribeModel` throws after two
seconds, the second ends with an error after one, and from then on the model runs. -/
def hesitantAgent : Environment :=
  { Environment.steady fun _ _ => true with
    startModel := fun _ _ => .threw "Connection refused"
    describeModel := fun _ _ n _ =>
      match n with
      | 0 => (.threw "Connection refused", 2)
      | 1 => (.returned ⟨14, "Unavailable"⟩ ⟨⟨.stopped⟩⟩, 1)
      | _ => (.returned .success ⟨⟨.running⟩⟩, 0) }

theorem start_polls_bounded_sample :
    ∃ polls, PollsBounded hesitantAgent
      ⟨"0.0.0.0:50051", ⟨"0.0.0.0:50051"⟩, ⟨⟨"0.0.0.0:50051"⟩⟩, none⟩ "SampleModel" 14 polls :=
  start_polls_bounded _ _ _ (by decide)

end LookoutVisionInferenceClient
end LookoutVision
