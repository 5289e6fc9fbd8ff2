import LookoutVision.ElementRuns
import LookoutVision.PollingLoop

/-!
# The order of two property assignments

Assigning a component starts it, on the address and with the timeout in force at
that moment, and keeps it only if the start succeeded.  Where every model's
status is fixed, an assignment is therefore a function of configurations
(`Configuration.assign`), and the element computes it (`assign_represents`).

Two assignments to different properties commute as far as that one decision does
(`OrderImmaterial`): an address and a component need the component to fare alike
on the old and the new address, a component and a timeout need both timeouts to
allow polling or neither.  An address and a timeout always commute.
-/

namespace LookoutVision

inductive Property
  | serverSocket
  | modelComponent
  | modelStatusTimeout
deriving DecidableEq, Repr

def Assignment.property : Assignment → Property
  | .serverSocket _ => .serverSocket
  | .modelComponent _ => .modelComponent
  | .modelStatusTimeout _ => .modelStatusTimeout

/-- The element's configuration fields: `server_socket`, `model_component` and
`model_status_timeout`. -/
def settings (e : Element) : Option String × Option String × UInt32 :=
  (e.filter.serverSocket, e.filter.modelComponent, e.filter.modelStatusTimeout)

/-! ## Assignments as functions of configurations -/

/-- What an assignment makes of a configuration where `running` fixes every
model's status. -/
def Configuration.assign (running : String → String → Bool) (c : Configuration) :
    Assignment → Configuration
  | .serverSocket (some socket) => { c with socket := socket }
  | .modelComponent (some component) =>
      if 0 < c.timeout ∧ running c.socket component = true then
        { c with component := some component }
      else c
  | .modelStatusTimeout timeout => { c with timeout := timeout }
  | _ => c

section
variable {build : Build} {running : String → String → Bool} {c : Configuration} {e : Element}

theorem Represents.settings_eq (h : Represents build c e) :
    settings e = (some c.socket, c.component, c.timeout) := by
  rw [settings, h.addressed.element, h.component, h.timeout]

/-- A timeout in the property's range leaves time to poll unless it is zero. -/
theorem timeout_pos_iff {t : UInt32} (h : t ≤ maxModelStatusTimeout) :
    0 < t.toInt32.toInt ↔ 0 < t := by
  rw [toInt_timeout h, UInt32.lt_iff_toNat_lt]
  exact Int.natCast_pos

/-- **An assignment in a steady environment** is `Configuration.assign`. -/
theorem assign_represents {env : Environment} (hr : Represents build c e)
    (hsteady : Steady running env) (hserved : Served build env.os) {a : Assignment}
    (ha : a.Admissible) :
    ∃ e' effects, element.step e ⟨.setProperty a, env⟩ = .ok (e', effects) ∧
      Represents build (c.assign running a) e' := by
  obtain ⟨e', effects, hstep, hrep⟩ :=
    step_represents (i := ⟨.setProperty a, env⟩) hr ⟨ha, hserved⟩
  refine ⟨e', effects, hstep, ?_⟩
  suffices hc : c.after (⟨.setProperty a, env⟩, effects) = c.assign running a by
    rw [← hc]; exact hrep
  cases a with
  | serverSocket value => cases value <;> rfl
  | modelStatusTimeout value => rfl
  | modelComponent value =>
    obtain ⟨component, rfl⟩ := Option.ne_none_iff_exists'.mp ha
    simp only [element, elementStep, setProperty_modelComponent] at hstep
    obtain ⟨-, rfl⟩ := Prod.mk.inj (Except.ok.inj hstep)
    have hstart : StartedAmong component (e.filter.startEffects env component) ↔
        0 < c.timeout ∧ running c.socket component = true := by
      rw [startedAmong_startEffects, GstLookoutVision.start, hsteady.startModel,
        hr.addressed.stub, hr.timeout, timeout_pos_iff hr.timeout_le]
    simp only [Configuration.after, Configuration.assign, hstart]

end

/-! ## When two assignments commute -/

/-- The decision to keep a component comes out the same before and after the
other assignment, or makes no difference. -/
def OrderImmaterial (running : String → String → Bool) (c : Configuration) :
    Assignment → Assignment → Prop
  | .serverSocket (some socket), .modelComponent (some component)
  | .modelComponent (some component), .serverSocket (some socket) =>
      c.component = some component ∨ c.timeout = 0 ∨
        running socket component = running c.socket component
  | .modelComponent (some component), .modelStatusTimeout timeout
  | .modelStatusTimeout timeout, .modelComponent (some component) =>
      c.component = some component ∨ running c.socket component = false ∨
        (0 < c.timeout ↔ 0 < timeout)
  | _, _ => True

section
variable {running : String → String → Bool} {c : Configuration}

theorem assign_socket_component (socket component : String) :
    (c.assign running (.serverSocket (some socket))).assign running
        (.modelComponent (some component)) =
      (c.assign running (.modelComponent (some component))).assign running
        (.serverSocket (some socket)) ↔
    c.component = some component ∨ c.timeout = 0 ∨
      running socket component = running c.socket component := by
  obtain ⟨s, m, t⟩ := c
  simp only [Configuration.assign]
  -- Without time to poll neither order keeps the component.
  by_cases ht : t = 0
  · subst ht
    simp
  · have hpos : 0 < t := UInt32.pos_iff_ne_zero.mpr ht
    by_cases hnew : running socket component = true <;>
      by_cases hold : running s component = true <;>
        simp [hpos, ht, hnew, hold, eq_comm]

theorem assign_component_timeout (component : String) (timeout : UInt32) :
    (c.assign running (.modelComponent (some component))).assign running
        (.modelStatusTimeout timeout) =
      (c.assign running (.modelStatusTimeout timeout)).assign running
        (.modelComponent (some component)) ↔
    c.component = some component ∨ running c.socket component = false ∨
      (0 < c.timeout ↔ 0 < timeout) := by
  obtain ⟨s, m, t⟩ := c
  simp only [Configuration.assign]
  by_cases hrun : running s component = true
  · by_cases ht : 0 < t <;> by_cases ht' : 0 < timeout <;> simp [hrun, ht, ht', eq_comm]
  · simp [hrun]

/-- **Two assignments to different properties commute exactly when
`OrderImmaterial` says so.** -/
theorem assign_comm_iff {a b : Assignment} (ha : a.Admissible) (hb : b.Admissible)
    (hab : a.property ≠ b.property) :
    (c.assign running a).assign running b = (c.assign running b).assign running a ↔
      OrderImmaterial running c a b := by
  cases a with
  | serverSocket value =>
    obtain ⟨socket, rfl⟩ := Option.ne_none_iff_exists'.mp ha
    cases b with
    | serverSocket _ => exact absurd rfl hab
    | modelComponent value =>
      obtain ⟨component, rfl⟩ := Option.ne_none_iff_exists'.mp hb
      exact assign_socket_component socket component
    | modelStatusTimeout timeout => exact ⟨fun _ => trivial, fun _ => rfl⟩
  | modelComponent value =>
    obtain ⟨component, rfl⟩ := Option.ne_none_iff_exists'.mp ha
    cases b with
    | serverSocket value =>
      obtain ⟨socket, rfl⟩ := Option.ne_none_iff_exists'.mp hb
      exact eq_comm.trans (assign_socket_component socket component)
    | modelComponent _ => exact absurd rfl hab
    | modelStatusTimeout timeout => exact assign_component_timeout component timeout
  | modelStatusTimeout timeout =>
    cases b with
    | serverSocket value =>
      obtain ⟨socket, rfl⟩ := Option.ne_none_iff_exists'.mp hb
      exact ⟨fun _ => trivial, fun _ => rfl⟩
    | modelComponent value =>
      obtain ⟨component, rfl⟩ := Option.ne_none_iff_exists'.mp hb
      exact eq_comm.trans (assign_component_timeout component timeout)
    | modelStatusTimeout _ => exact absurd rfl hab

end

/-! ## The element -/

/-- Both orders complete, with the same configuration fields at the end. -/
def SameEitherWay (e : Element) (a b : Assignment) (env₁ env₂ env₃ env₄ : Environment) : Prop :=
  ∃ e₁ h₁ e₂ h₂,
    element.run e [⟨.setProperty a, env₁⟩, ⟨.setProperty b, env₂⟩] = .ok (e₁, h₁) ∧
    element.run e [⟨.setProperty b, env₃⟩, ⟨.setProperty a, env₄⟩] = .ok (e₂, h₂) ∧
    settings e₁ = settings e₂

section
variable {build : Build} {running : String → String → Bool} {c : Configuration} {e : Element}

/-- Two assignments in steady environments. -/
theorem assign_twice {env₁ env₂ : Environment} (hr : Represents build c e)
    (h₁ : Steady running env₁) (h₂ : Steady running env₂) (hs₁ : Served build env₁.os)
    (hs₂ : Served build env₂.os) {a b : Assignment} (ha : a.Admissible) (hb : b.Admissible) :
    ∃ e' h, element.run e [⟨.setProperty a, env₁⟩, ⟨.setProperty b, env₂⟩] = .ok (e', h) ∧
      Represents build ((c.assign running a).assign running b) e' := by
  obtain ⟨e₁, o₁, hstep₁, hrep₁⟩ := assign_represents hr h₁ hs₁ ha
  obtain ⟨e₂, o₂, hstep₂, hrep₂⟩ := assign_represents hrep₁ h₂ hs₂ hb
  exact ⟨e₂, _, Machine.run_snoc_ok (Machine.run_one hstep₁) hstep₂, hrep₂⟩

theorem sameEitherWay_iff {env₁ env₂ env₃ env₄ : Environment} (hr : Represents build c e)
    (hsteady : ∀ env ∈ [env₁, env₂, env₃, env₄], Steady running env ∧ Served build env.os)
    {a b : Assignment} (ha : a.Admissible) (hb : b.Admissible)
    (hab : a.property ≠ b.property) :
    SameEitherWay e a b env₁ env₂ env₃ env₄ ↔ OrderImmaterial running c a b := by
  simp only [List.forall_mem_cons] at hsteady
  obtain ⟨⟨h₁, hs₁⟩, ⟨h₂, hs₂⟩, ⟨h₃, hs₃⟩, ⟨h₄, hs₄⟩, -⟩ := hsteady
  obtain ⟨f, hf, hrun, hrep⟩ := assign_twice hr h₁ h₂ hs₁ hs₂ ha hb
  obtain ⟨g, hg, hrun', hrep'⟩ := assign_twice hr h₃ h₄ hs₃ hs₄ hb ha
  have hsame : settings f = settings g ↔
      (c.assign running a).assign running b = (c.assign running b).assign running a := by
    rw [hrep.settings_eq, hrep'.settings_eq]
    constructor
    · intro heq
      simp only [Prod.mk.injEq, Option.some.injEq] at heq
      obtain ⟨hsocket, hcomponent, htimeout⟩ := heq
      cases hx : (c.assign running a).assign running b
      cases hy : (c.assign running b).assign running a
      simp_all
    · exact fun heq => by rw [heq]
  rw [← assign_comm_iff ha hb hab, ← hsame]
  constructor
  · rintro ⟨e₁, o₁, e₂, o₂, hr₁, hr₂, heq⟩
    obtain ⟨rfl, -⟩ := Prod.mk.inj (Except.ok.inj (hr₁.symm.trans hrun))
    obtain ⟨rfl, -⟩ := Prod.mk.inj (Except.ok.inj (hr₂.symm.trans hrun'))
    exact heq
  · exact fun heq => ⟨f, hf, g, hg, hrun, hrun', heq⟩

end

/-- The order of two assignments to different properties never matters, from any
state the element reaches. -/
def OrderNeverMatters : Prop :=
  ∀ (build : Build) (os : Posix.Outcomes) (k : Kernel) (is : List Input)
    (e₀ e : Element) (h : History) (running : String → String → Bool)
    (env₁ env₂ env₃ env₄ : Environment) (a b : Assignment),
    Served build os → (∀ i ∈ is, i.Admissible build) →
    gstLookoutVisionInit build os k = .ok e₀ → element.run e₀ is = .ok (e, h) →
    (∀ env ∈ [env₁, env₂, env₃, env₄], Steady running env ∧ Served build env.os) →
    a.Admissible → b.Admissible → a.property ≠ b.property →
    (∀ t, a = .modelStatusTimeout t ∨ b = .modelStatusTimeout t → 0 < t) →
    SameEitherWay e a b env₁ env₂ env₃ env₄

/-- **The order matters** to a fresh element whose model runs on the new address
only: with the address first the component is kept, with the component first it
is not. -/
theorem not_orderNeverMatters : ¬ OrderNeverMatters := by
  intro hall
  let running : String → String → Bool := fun socket _ => socket == "0.0.0.0:50051"
  let env := Environment.steady running
  obtain ⟨e, hinit, hrep, -⟩ := init_represents served_default Posix.Kernel.empty
  have hsteady : ∀ env' ∈ [env, env, env, env],
      Steady running env' ∧ Served .default env'.os := by
    simp only [List.forall_mem_cons]
    exact ⟨⟨steady_steady running, served_default⟩, ⟨steady_steady running, served_default⟩,
      ⟨steady_steady running, served_default⟩, ⟨steady_steady running, served_default⟩, nofun⟩
  have hsocket : (Assignment.serverSocket (some "0.0.0.0:50051")).Admissible := nofun
  have hcomponent : (Assignment.modelComponent (some "SampleModel")).Admissible := nofun
  have hsame := hall .default .allSucceed Posix.Kernel.empty [] e e [] running env env env env
    (.serverSocket (some "0.0.0.0:50051")) (.modelComponent (some "SampleModel"))
    served_default nofun hinit rfl hsteady hsocket hcomponent nofun
    (by rintro t (h | h) <;> cases h)
  have himmaterial := (sameEitherWay_iff hrep hsteady hsocket hcomponent nofun).mp hsame
  revert himmaterial
  simp only [OrderImmaterial, running]
  decide

/-- **Exactly when the order of two assignments is immaterial**, from every state
the element reaches. -/
theorem assignment_order (build : Build) (os : Posix.Outcomes) (k : Kernel) (is : List Input)
    (running : String → String → Bool) (env₁ env₂ env₃ env₄ : Environment) (a b : Assignment)
    (hos : Served build os) (his : ∀ i ∈ is, i.Admissible build)
    (hsteady : ∀ env ∈ [env₁, env₂, env₃, env₄], Steady running env ∧ Served build env.os)
    (ha : a.Admissible) (hb : b.Admissible) (hab : a.property ≠ b.property) :
    ∃ e₀ e h, gstLookoutVisionInit build os k = .ok e₀ ∧ element.run e₀ is = .ok (e, h) ∧
      settings e =
        (some (configuration h).socket, (configuration h).component, (configuration h).timeout) ∧
      (SameEitherWay e a b env₁ env₂ env₃ env₄ ↔
        OrderImmaterial running (configuration h) a b) := by
  obtain ⟨e₀, hinit, hrep₀, -⟩ := init_represents hos k
  obtain ⟨e, h, hrun, hrep⟩ := run_represents hrep₀ is his
  exact ⟨e₀, e, h, hinit, hrun, hrep.settings_eq,
    sameEitherWay_iff hrep hsteady ha hb hab⟩

/-- A component and a timeout, right after construction. -/
theorem assignment_order_sample :
    ∃ e₀ e h, gstLookoutVisionInit .default .allSucceed Posix.Kernel.empty = .ok e₀ ∧
      element.run e₀ [] = .ok (e, h) ∧
      settings e =
        (some (configuration h).socket, (configuration h).component, (configuration h).timeout) ∧
      (SameEitherWay e (.modelComponent (some "SampleModel")) (.modelStatusTimeout 5)
          (.steady fun _ _ => true) (.steady fun _ _ => true)
          (.steady fun _ _ => true) (.steady fun _ _ => true) ↔
        OrderImmaterial (fun _ _ => true) (configuration h)
          (.modelComponent (some "SampleModel")) (.modelStatusTimeout 5)) :=
  assignment_order .default .allSucceed Posix.Kernel.empty [] (fun _ _ => true)
    (.steady fun _ _ => true) (.steady fun _ _ => true)
    (.steady fun _ _ => true) (.steady fun _ _ => true)
    (.modelComponent (some "SampleModel")) (.modelStatusTimeout 5) served_default nofun
    (by
      intro env henv
      obtain rfl : env = .steady fun _ _ => true := by simpa using henv
      exact ⟨steady_steady _, served_default⟩)
    nofun (show (5 : UInt32) ≤ maxModelStatusTimeout by decide) nofun

end LookoutVision
