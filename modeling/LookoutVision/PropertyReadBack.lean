import LookoutVision.AssignmentOrder

/-!
# Reading a property and writing it back

`gst_lookout_vision_get_property` hands out the three configuration fields as
they are.  Both string properties admit `NULL`, but `set_property` passes the
string it is given to a parameter of type `std::string`, which `NULL` is not
(`step_of_isNull`).  Every other value is accepted in every state, whatever the
agent answers (`returnsNormally_iff`).

No run that completes leaves `server_socket` `NULL` (`Machine.run_preserves` over
`step_serverSocket`), so the one property that cannot be written back is
`model-component`, as long as no component has been started
(`property_read_back`).
-/

namespace LookoutVision

/-! ## Reading a property -/

/-- `gst_lookout_vision_get_property`: a copy of the field. -/
def gstLookoutVisionGetProperty (filter : GstLookoutVision) : Property → Assignment
  | .serverSocket => .serverSocket filter.serverSocket
  | .modelComponent => .modelComponent filter.modelComponent
  | .modelStatusTimeout => .modelStatusTimeout filter.modelStatusTimeout

/-- A `NULL` string. -/
def Assignment.isNull : Assignment → Bool
  | .serverSocket value => value.isNone
  | .modelComponent value => value.isNone
  | .modelStatusTimeout _ => false

/-- `set_property` comes back from the assignment. -/
def ReturnsNormally (env : Environment) (e : Element) (a : Assignment) : Prop :=
  ∃ e' effects, element.step e ⟨.setProperty a, env⟩ = .ok (e', effects)

/-- Reading the property and writing the value back succeeds and changes none of
the three fields. -/
def WritesBack (env : Environment) (e : Element) (p : Property) : Prop :=
  ∃ e' effects, element.step e
      ⟨.setProperty (gstLookoutVisionGetProperty e.filter p), env⟩ = .ok (e', effects) ∧
    settings e' = settings e

section
variable {env : Environment} {e : Element}

/-- `NULL` ends the call where the client would take it as a `std::string`: first thing
for `model-component`, after the field is freed and set to it for `server-socket`. -/
theorem step_of_isNull {a : Assignment} (ha : a.isNull = true) :
    element.step e ⟨.setProperty a, env⟩ = .error .nullString := by
  cases a with
  | serverSocket value =>
    obtain rfl := Option.isNone_iff_eq_none.mp ha
    rfl
  | modelComponent value =>
    obtain rfl := Option.isNone_iff_eq_none.mp ha
    rfl
  | modelStatusTimeout value => cases ha

/-- What `set_property` makes of the three fields: the property's own becomes the
value, except that a component whose start fails is dropped. -/
theorem step_of_value (env : Environment) (e : Element) {a : Assignment}
    (ha : a.isNull = false) :
    ∃ e' effects, element.step e ⟨.setProperty a, env⟩ = .ok (e', effects) ∧
      (settings e' = settings e ∨ settings e' = match a with
        | .serverSocket value => (value, e.filter.modelComponent, e.filter.modelStatusTimeout)
        | .modelComponent value => (e.filter.serverSocket, value, e.filter.modelStatusTimeout)
        | .modelStatusTimeout value =>
            (e.filter.serverSocket, e.filter.modelComponent, value)) := by
  cases a with
  | serverSocket value =>
    cases value with
    | none => cases ha
    | some socket =>
      refine ⟨_, _, by simp only [element, elementStep, setProperty_serverSocket]; rfl, ?_⟩
      exact .inr rfl
  | modelComponent value =>
    cases value with
    | none => cases ha
    | some component =>
      refine ⟨_, _, by simp only [element, elementStep, setProperty_modelComponent]; rfl, ?_⟩
      by_cases hs : (e.filter.start env component).status = .successful
      · rw [if_pos hs]
        exact .inr rfl
      · rw [if_neg hs]
        exact .inl rfl
  | modelStatusTimeout value => exact ⟨_, _, rfl, .inr rfl⟩

/-- **Which values are accepted**, in any state and whatever the agent answers. -/
theorem returnsNormally_iff {a : Assignment} : ReturnsNormally env e a ↔ a.isNull = false := by
  constructor
  · rintro ⟨e', effects, hstep⟩
    apply Bool.eq_false_iff.mpr
    intro ha
    rw [step_of_isNull ha] at hstep
    cases hstep
  · intro ha
    obtain ⟨e', effects, hstep, -⟩ := step_of_value env e ha
    exact ⟨e', effects, hstep⟩

/-- A value that was read is written back over itself, unless it is `NULL`. -/
theorem writesBack_iff {p : Property} :
    WritesBack env e p ↔ (gstLookoutVisionGetProperty e.filter p).isNull = false := by
  constructor
  · rintro ⟨e', effects, hstep, -⟩
    exact returnsNormally_iff.mp ⟨e', effects, hstep⟩
  · intro hp
    obtain ⟨e', effects, hstep, hset⟩ := step_of_value env e hp
    refine ⟨e', effects, hstep, ?_⟩
    rcases hset with hsame | hset
    · exact hsame
    · rw [hset]
      cases p <;> rfl

/-! ## The states the element reaches -/

/-- No step that completes leaves the address `NULL`. -/
theorem step_serverSocket {i : Input} {e' : Element} {effects : List Effect}
    (hs : e.filter.serverSocket ≠ none) (hstep : element.step e i = .ok (e', effects)) :
    e'.filter.serverSocket ≠ none := by
  have hstepped := stepped_of_step hstep
  obtain ⟨action, env⟩ := i
  cases hstepped with
  | serverSocket socket => exact Option.some_ne_none socket
  | modelComponent component =>
    dsimp only
    split
    · exact hs
    · exact hs
  | modelStatusTimeout timeout => exact hs
  | sinkEvent event =>
    obtain ⟨sinkpad, width, height, he⟩ := sinkEvent_fields e.filter event
    show (gstLookoutVisionSinkEvent e.filter event).serverSocket ≠ none
    rw [he]
    exact hs
  | chain hchain =>
    rcases chain_ok hchain with ⟨-, rfl⟩ | ⟨component, d, -, -, rfl⟩
    · exact hs
    · exact hs

theorem init_serverSocket {build : Build} {os : Posix.Outcomes} {k : Kernel}
    (hinit : gstLookoutVisionInit build os k = .ok e) :
    e.filter.serverSocket = some defaultServerSocket := by
  unfold gstLookoutVisionInit at hinit
  split at hinit
  · cases hinit
  · obtain rfl := Except.ok.inj hinit
    rfl

end

/-- **Which values can be written**, from every state the element reaches and
whatever the agent answers: every value but `NULL`; so each property's own value,
unless it is the component and none has been kept. -/
theorem property_read_back (build : Build) (os : Posix.Outcomes) (k : Kernel) (is : List Input)
    {e₀ e : Element} {h : History} (hinit : gstLookoutVisionInit build os k = .ok e₀)
    (hrun : element.run e₀ is = .ok (e, h)) (env : Environment) :
    (∀ a, ReturnsNormally env e a ↔ a.isNull = false) ∧
      ∀ p, WritesBack env e p ↔ ¬ (p = .modelComponent ∧ e.filter.modelComponent = none) := by
  have hsocket : e.filter.serverSocket ≠ none := by
    have hinit₀ : e₀.filter.serverSocket ≠ none := by
      rw [init_serverSocket hinit]
      exact Option.some_ne_none _
    exact Machine.run_preserves hinit₀
      (fun _ _ _ _ _ hs (_ : True) hstep => step_serverSocket hs hstep)
      (fun _ _ => trivial) hrun
  refine ⟨fun a => returnsNormally_iff, fun p => ?_⟩
  rw [writesBack_iff]
  cases p with
  | serverSocket =>
    refine ⟨fun _ hp => Property.noConfusion hp.1, fun _ => ?_⟩
    exact Option.isNone_eq_false_iff.mpr (Option.isSome_iff_ne_none.mpr hsocket)
  | modelComponent =>
    show e.filter.modelComponent.isNone = false ↔ _
    rw [Option.isNone_eq_false_iff, Option.isSome_iff_ne_none]
    exact ⟨fun hne hp => hne hp.2, fun hne hm => hne ⟨rfl, hm⟩⟩
  | modelStatusTimeout => exact ⟨fun _ hp => Property.noConfusion hp.1, fun _ => rfl⟩

/-- The three properties of an element whose timeout has been set to zero. -/
theorem property_read_back_sample :
    ∃ e₀ e h, gstLookoutVisionInit .default .allSucceed Posix.Kernel.empty = .ok e₀ ∧
      element.run e₀ [⟨.setProperty (.modelStatusTimeout 0), .steady fun _ _ => true⟩] =
        .ok (e, h) ∧
      (∀ a, ReturnsNormally (.steady fun _ _ => true) e a ↔ a.isNull = false) ∧
      ∀ p, WritesBack (.steady fun _ _ => true) e p ↔
        ¬ (p = .modelComponent ∧ e.filter.modelComponent = none) :=
  ⟨_, _, _, rfl, rfl, property_read_back .default .allSucceed Posix.Kernel.empty
    [⟨.setProperty (.modelStatusTimeout 0), .steady fun _ _ => true⟩] rfl rfl
    (.steady fun _ _ => true)⟩

/-- **A fresh element's `model-component` reads as `NULL`**, and writing that back
throws whatever the agent answers. -/
theorem fresh_component_faults :
    ∃ e₀, gstLookoutVisionInit .default .allSucceed Posix.Kernel.empty = .ok e₀ ∧
      element.run e₀ [] = .ok (e₀, []) ∧
      gstLookoutVisionGetProperty e₀.filter .modelComponent = .modelComponent none ∧
      ∀ env, element.step e₀ ⟨.setProperty (.modelComponent none), env⟩ =
          .error .nullString ∧
        ¬ WritesBack env e₀ .modelComponent :=
  ⟨_, rfl, rfl, rfl, fun _ => ⟨rfl, fun h => Bool.noConfusion (writesBack_iff.mp h)⟩⟩

end LookoutVision
