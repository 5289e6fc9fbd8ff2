import LookoutVision.AgentContract
import LookoutVision.UnlockedEntries

/-!
# One entry at a time

`Unlocked` takes the entries into an instance apart into statements; `element` has them
whole.  Where every entry ends before the next begins the two are the same: what the
statements of an entry leave stands for the instance the entry leaves, and the RPCs are
those of its effects.  So every run of the element is one of the interleavings, and one of
the safe ones: a thread that is alone keeps to the discipline (`sequential_run`).  What can
go wrong in an interleaving is only what overlaps.
-/

namespace Machine
variable {State Input Output Fault : Type} {M : Machine State Input Output Fault}
  {s t u : State} {is js : List Input} {h k : List (Input × Output)}
  {G : State → Input → Prop}

/-- A run that goes on is a run, and another one from where it ended. -/
theorem run_append_inv (hr : M.run s is = .ok (t, h)) (hk : M.run s (is ++ js) = .ok (u, k)) :
    ∃ k', M.run t js = .ok (u, k') := by
  induction js using List.reverseRecOn generalizing u k with
  | nil =>
    rw [List.append_nil, hr] at hk
    obtain ⟨rfl, -⟩ := Prod.mk.inj (Except.ok.inj hk)
    exact ⟨[], rfl⟩
  | append_singleton js j ih =>
    rw [← List.append_assoc] at hk
    obtain ⟨v, k₀, o, hpre, hstep, -⟩ := run_snoc_inv hk
    obtain ⟨k', hk'⟩ := ih hpre
    exact ⟨_, run_snoc_ok hk' hstep⟩

theorem guarded_one {i : Input} (hi : G s i) : M.Guarded (fun _ => G) s [i] := by
  show M.Guarded (fun _ => G) s ([] ++ [i])
  refine guarded_snoc.mpr ⟨guarded_nil, fun t h hr => ?_⟩
  obtain ⟨rfl, -⟩ := Prod.mk.inj (Except.ok.inj hr)
  exact hi

/-- Where a guard asks nothing of the history, guarded runs make a guarded run. -/
theorem guarded_append (hr : M.run s is = .ok (t, h)) (hg : M.Guarded (fun _ => G) s is)
    (hg' : M.Guarded (fun _ => G) t js) : M.Guarded (fun _ => G) s (is ++ js) := by
  induction js using List.reverseRecOn with
  | nil => rwa [List.append_nil]
  | append_singleton js j ih =>
    obtain ⟨hjs, hlast⟩ := guarded_snoc.mp hg'
    rw [← List.append_assoc]
    refine guarded_snoc.mpr ⟨ih hjs, fun v k hk => ?_⟩
    obtain ⟨k', hk'⟩ := run_append_inv hr hk
    exact hlast v k' hk'

end Machine

namespace LookoutVision
namespace Unlocked

/-- What a call asks: the address and the component. -/
def asks (call : Call) : String × String := (call.target, call.rpc.modelComponent)

/-- What is shared stands for an instance: its strings, each in its place, and its stub. -/
structure Reflects (s : Shared) (f : GstLookoutVision) : Prop where
  text : ∀ property : StringProperty,
    (s.pointers property).bind s.strings.object = property.get f
  live : ∀ property a, s.pointers property = some a → s.strings.object a ≠ none
  apart : ∀ property property' a, s.pointers property = some a →
    s.pointers property' = some a → property = property'
  stub : ∃ a, s.stub = some a ∧ s.stubs.object a = some f.inferenceClient.stub ∧
    ∀ b, s.stubs.object b ≠ none ↔ b = a

/-- The rest of an entry, with nothing in between: what it leaves and the RPCs it makes. -/
inductive Completes : Shared → Option Remaining → Shared → List (String × String) → Prop
  | done {s : Shared} : Completes s none s []
  | statement {s s' s'' : Shared} {remaining : Remaining} {rest : Option Remaining}
      {rpc : Option (String × String)} {rpcs : List (String × String)}
      (h : s.statement remaining = .ok (s', rest, rpc)) (hrest : Completes s' rest s'' rpcs) :
      Completes s (some remaining) s'' (rpc.toList ++ rpcs)

section
variable {s s' : Shared} {f f' : GstLookoutVision} {component : String} {after : Option String}
  {rpcs : List (String × String)}

/-! ## Statements on an instance at rest -/

theorem Reflects.congr (h : Reflects s f)
    (hget : ∀ property : StringProperty, property.get f' = property.get f)
    (hstub : f'.inferenceClient.stub = f.inferenceClient.stub) : Reflects s f' where
  text := fun property => (h.text property).trans (hget property).symm
  live := h.live
  apart := h.apart
  stub := by
    rw [hstub]
    exact h.stub

theorem Reflects.copy (h : Reflects s f) (property : StringProperty) :
    s.copy property = .ok (property.get f) := by
  rw [← h.text property]
  cases hp : s.pointers property with
  | none => simp only [Shared.copy, hp, Option.bind_none]
  | some a =>
    obtain ⟨x, hx⟩ := Option.ne_none_iff_exists'.mp (h.live property a hp)
    simp only [Shared.copy, hp, OwnedHeap.read_of_object hx, Option.bind_some, hx]

/-- **A string is freed and replaced.** -/
theorem Reflects.assign (h : Reflects s f) (property : StringProperty) (value : String) :
    ∃ s', s.free property = .ok s' ∧ ∀ f' : GstLookoutVision,
      property.get f' = some value →
      (∀ property', property' ≠ property → property'.get f' = property'.get f) →
      f'.inferenceClient.stub = f.inferenceClient.stub →
        Reflects (s'.store property value) f' := by
  obtain ⟨s', hfree⟩ := Shared.free_ok_iff.mpr (h.live property)
  refine ⟨s', hfree, fun f' hvalue hothers hstub => ?_⟩
  obtain ⟨strings, rfl, hdelete⟩ := Shared.free_inv hfree
  obtain ⟨hnext, -, hkept⟩ := OwnedHeap.delete_inv hdelete
  -- The string of the other property is where it was.
  have hother : ∀ property' a, property' ≠ property → s.pointers property' = some a →
      (strings.new value).1.object a = s.strings.object a ∧ a ≠ strings.next := by
    intro property' a hne ha
    have hlt : a < strings.next := by
      rw [hnext]
      exact OwnedHeap.lt_next (h.live property' a ha)
    have hapart : s.pointers property ≠ some a := fun ha' => hne (h.apart _ _ a ha ha')
    refine ⟨?_, Nat.ne_of_lt hlt⟩
    rw [OwnedHeap.object_new_of_ne (Nat.ne_of_lt hlt), hkept a hapart]
  have hpointer : ∀ property' a,
      Function.update s.pointers property (some strings.next) property' = some a →
      (property' = property ∧ a = strings.next) ∨
        (property' ≠ property ∧ s.pointers property' = some a) := by
    intro property' a ha
    rcases Table.update_eq_some ha with ⟨hp, ha⟩ | hold
    · exact Or.inl ⟨hp, (Option.some.inj ha).symm⟩
    · exact Or.inr hold
  refine ⟨fun property' => ?_, fun property' a ha => ?_, fun property' property'' a ha ha' => ?_,
    by rw [hstub]; exact h.stub⟩
  · show (Function.update s.pointers property (some strings.next) property').bind
      (strings.new value).1.object = property'.get f'
    by_cases hp : property' = property
    · rw [hp, Function.update_self, hvalue, Option.bind_some, OwnedHeap.object_new_self]
    · rw [Function.update_of_ne hp, hothers property' hp, ← h.text property']
      cases ha : s.pointers property' with
      | none => rfl
      | some a => rw [Option.bind_some, Option.bind_some, (hother property' a hp ha).1]
  · show (strings.new value).1.object a ≠ none
    rcases hpointer property' a ha with ⟨-, rfl⟩ | ⟨hp, hold⟩
    · rw [OwnedHeap.object_new_self]
      exact Option.some_ne_none value
    · rw [(hother property' a hp hold).1]
      exact h.live property' a hold
  · rcases hpointer property' a ha with ⟨hp, hnew⟩ | ⟨hp, hold⟩ <;>
      rcases hpointer property'' a ha' with ⟨hp', hnew'⟩ | ⟨hp', hold'⟩
    · rw [hp, hp']
    · exact absurd hnew (hother property'' a hp' hold').2
    · exact absurd hnew' (hother property' a hp hold).2
    · exact h.apart property' property'' a hold hold'

/-- **The stub is replaced.** -/
theorem Reflects.resetStub (h : Reflects s f) (socket : String) :
    ∃ s', s.resetStub socket = .ok s' ∧ ∀ f' : GstLookoutVision,
      (∀ property : StringProperty, property.get f' = property.get f) →
      f'.inferenceClient.stub = ⟨⟨socket⟩⟩ → Reflects s' f' := by
  obtain ⟨a, hstub, -, hlive⟩ := h.stub
  obtain ⟨stubs, hreset, -, hnew, hthere⟩ := Shared.resetStub_ok hstub hlive socket
  refine ⟨_, hreset, fun f' hget hclient => ⟨fun property => ?_, h.live, h.apart, ?_⟩⟩
  · rw [hget]
    exact h.text property
  · rw [hclient]
    exact ⟨_, rfl, hnew, hthere⟩

/-- **The RPCs of a start**, one after another. -/
theorem Reflects.calls (h : Reflects s f) (polls : Nat)
    (hafter : Completes s (after.map .freeComponent) s' rpcs) :
    Completes s (some (.call component polls after)) s'
      (List.replicate (polls + 1) (f.inferenceClient.stub.channel.target, component) ++ rpcs) := by
  obtain ⟨a, hstub, hobject, -⟩ := h.stub
  have hcall : ∀ polls, s.statement (.call component polls after) =
      .ok (s, some (.awaitReturn a component polls after),
        some (f.inferenceClient.stub.channel.target, component)) := by
    intro polls
    simp only [Shared.statement, hstub, OwnedHeap.read_of_object hobject]
    rfl
  have hread := OwnedHeap.read_of_object hobject
  induction polls with
  | zero =>
    have hreturn : s.statement (.awaitReturn a component 0 after) =
        .ok (s, after.map .freeComponent, none) := by
      simp only [Shared.statement, hread]
      rfl
    exact .statement (hcall 0) (.statement hreturn hafter)
  | succ polls ih =>
    have hreturn : s.statement (.awaitReturn a component (polls + 1) after) =
        .ok (s, some (.call component polls after), none) := by
      simp only [Shared.statement, hread]
      rfl
    exact .statement (hcall (polls + 1)) (.statement hreturn ih)

end

/-! ## Whole entries -/

section
variable {s : Shared} {e : Element} {f : GstLookoutVision} {env : Environment}

/-- A start's RPCs go to the client's address and are about the component. -/
theorem asks_start (env : Environment) (filter : GstLookoutVision) (component : String) :
    ∃ polls, (calls (filter.startEffects env component)).map asks =
      List.replicate (polls + 1) (filter.inferenceClient.stub.channel.target, component) := by
  rw [calls_startEffects_eq]
  refine ⟨((filter.start env component).calls.length - 1), List.eq_replicate_iff.mpr ⟨?_, ?_⟩⟩
  · rw [List.length_map]
    show _ = ((_ :: _ : List Call).length - 1) + 1
    rw [List.length_cons, Nat.add_sub_cancel]
    rfl
  · intro asked hasked
    obtain ⟨call, hcall, rfl⟩ := List.mem_map.mp hasked
    rcases List.mem_cons.mp hcall with rfl | hpoll
    · rfl
    · obtain ⟨begun, outcome, latency, rfl⟩ :=
        waitLoop_polls env filter.inferenceClient component _ _ _ _ _ call hpoll
      rfl

/-- **An address is set.** -/
theorem completes_serverSocket (h : Reflects s f) (env : Environment) (socket : String) :
    ∃ entry s' effects, gstLookoutVisionSetProperty env f (.serverSocket (some socket)) =
        .ok (f.readdressed socket, effects) ∧
      Completes s (some (Entry.begin entry)) s' ((calls effects).map asks) ∧
      Reflects s' (f.readdressed socket) := by
  obtain ⟨s₁, hfree, hstored⟩ := h.assign .serverSocket socket
  have hnamed : Reflects (s₁.store .serverSocket socket)
      { f with serverSocket := some socket } := by
    refine hstored _ rfl (fun property hne => ?_) rfl
    cases property with
    | serverSocket => exact absurd rfl hne
    | modelComponent => rfl
  obtain ⟨s₂, hreset, hreplaced⟩ := hnamed.resetStub socket
  have hreaddressed : Reflects s₂ (f.readdressed socket) := by
    refine hreplaced _ (fun property => ?_) rfl
    cases property <;> rfl
  have hprefix : ∀ polls rpcs s', Completes s₂ (some (.copyComponent polls)) s' rpcs →
      Completes s (some (.freeSocket socket polls)) s' rpcs := by
    intro polls rpcs s' hrest
    have hcopied : (s₁.store .serverSocket socket).statement (.copySocket polls) =
        .ok (s₁.store .serverSocket socket, some (.resetStub socket polls), none) := by
      simp only [Shared.statement, hnamed.copy]
      rfl
    have hfreed : s.statement (.freeSocket socket polls) =
        .ok (s₁, some (.storeSocket (s.pointers .serverSocket) socket polls), none) := by
      simp only [Shared.statement, hfree]
      rfl
    have hreset' : (s₁.store .serverSocket socket).statement (.resetStub socket polls) =
        .ok (s₂, some (.copyComponent polls), none) := by
      simp only [Shared.statement, hreset]
      rfl
    have hassigned : s₁.statement
        (.storeSocket (s.pointers .serverSocket) socket polls) =
          .ok (s₁.store .serverSocket socket, some (.copySocket polls), none) := rfl
    exact .statement hfreed (.statement hassigned
      (.statement hcopied (.statement hreset' hrest)))
  rw [setProperty_serverSocket]
  have hcopy := hreaddressed.copy .modelComponent
  cases hcomponent : f.modelComponent with
  | none =>
    have hget : StringProperty.get .modelComponent (f.readdressed socket) = none := hcomponent
    rw [hget] at hcopy
    refine ⟨.setServerSocket socket 0, s₂, _, rfl, ?_, hreaddressed⟩
    have hlast : s₂.statement (.copyComponent 0) = .ok (s₂, none, none) := by
      simp only [Shared.statement, hcopy]
      rfl
    exact hprefix 0 _ _ (.statement hlast .done)
  | some component =>
    have hget : StringProperty.get .modelComponent (f.readdressed socket) = some component :=
      hcomponent
    rw [hget] at hcopy
    obtain ⟨polls, hasks⟩ := asks_start env (f.readdressed socket) component
    refine ⟨.setServerSocket socket polls, s₂, _, rfl, ?_, hreaddressed⟩
    have hcopied : s₂.statement (.copyComponent polls) =
        .ok (s₂, some (.call component polls none), none) := by
      simp only [Shared.statement, hcopy]
      rfl
    have hafter : Completes s₂ ((none : Option String).map .freeComponent) s₂ [] := .done
    have hcalls : Completes s₂ (some (.call component polls none)) _ _ :=
      hreaddressed.calls polls hafter
    simp only [hasks]
    rw [List.append_nil] at hcalls
    exact hprefix polls _ _ (.statement hcopied hcalls)

/-- **A component is set**, if it starts. -/
theorem completes_modelComponent (h : Reflects s f) (env : Environment) (component : String) :
    ∃ entry s' f' effects, gstLookoutVisionSetProperty env f (.modelComponent (some component)) =
        .ok (f', effects) ∧
      Completes s (some (Entry.begin entry)) s' ((calls effects).map asks) ∧ Reflects s' f' := by
  obtain ⟨polls, hasks⟩ := asks_start env f component
  rw [setProperty_modelComponent]
  by_cases hstatus : (f.start env component).status = .successful
  · obtain ⟨s₁, hfree, hstored⟩ := h.assign .modelComponent component
    have hset : Reflects (s₁.store .modelComponent component)
        { f with modelComponent := some component } := by
      refine hstored _ rfl (fun property hne => ?_) rfl
      cases property with
      | serverSocket => rfl
      | modelComponent => exact absurd rfl hne
    have hfreed : s.statement (.freeComponent component) =
        .ok (s₁, some (.storeComponent (s.pointers .modelComponent) component), none) := by
      simp only [Shared.statement, hfree]
      rfl
    have hassigned : s₁.statement (.storeComponent (s.pointers .modelComponent) component) =
        .ok (s₁.store .modelComponent component, none, none) := rfl
    have hafter : Completes s ((some component).map .freeComponent)
        (s₁.store .modelComponent component) [] :=
      .statement hfreed (.statement hassigned .done)
    have hcalls : Completes s (some (.call component polls (some component))) _ _ :=
      h.calls polls hafter
    rw [List.append_nil, ← hasks] at hcalls
    refine ⟨.setModelComponent component polls true, _, _, _, rfl, hcalls, ?_⟩
    rw [if_pos hstatus]
    exact hset
  · have hafter : Completes s ((none : Option String).map .freeComponent) s [] := .done
    have hcalls : Completes s (some (.call component polls none)) _ _ := h.calls polls hafter
    rw [List.append_nil, ← hasks] at hcalls
    refine ⟨.setModelComponent component polls false, _, _, _, rfl, hcalls, ?_⟩
    rw [if_neg hstatus]
    exact h

/-- **A frame is asked about**, if there is a component to ask. -/
theorem completes_chain {buf : GstBuffer} {c : Chained} (h : Reflects s e.filter)
    (hchain : gstLookoutVisionChain env e buf = .ok c) :
    Completes s (some (Entry.begin .chain)) s ((calls c.effects).map asks) ∧
      Reflects s c.element.filter := by
  have hcopy := h.copy .modelComponent
  rcases chain_ok hchain with ⟨hnone, rfl⟩ | ⟨component, d, hsome, hdetect, rfl⟩
  · have hget : StringProperty.get .modelComponent e.filter = none := hnone
    rw [hget] at hcopy
    have hlast : s.statement (.copyComponent 0) = .ok (s, none, none) := by
      simp only [Shared.statement, hcopy]
      rfl
    exact ⟨.statement hlast .done, h⟩
  · obtain ⟨htarget, habout, hstub⟩ := detectAnomalies_asks hdetect
    have hget : StringProperty.get .modelComponent e.filter = some component := hsome
    rw [hget] at hcopy
    have hcopied : s.statement (.copyComponent 0) =
        .ok (s, some (.call component 0 none), none) := by
      simp only [Shared.statement, hcopy]
      rfl
    have hafter : Completes s ((none : Option String).map .freeComponent) s [] := .done
    have hcalls : Completes s (some (.call component 0 none)) _ _ := h.calls 0 hafter
    refine ⟨?_, h.congr (fun property => ?_) hstub⟩
    · show Completes s (some (.copyComponent 0)) s [asks d.call]
      rw [asks, htarget, habout]
      exact .statement hcopied hcalls
    · cases property <;> rfl

end

/-! ## A thread that is alone -/

/-- A statement that uses a string has freed none. -/
theorem Remaining.freed_of_uses {remaining : Remaining} {property : StringProperty}
    (h : remaining.uses = some property) (property' : StringProperty) :
    remaining.freed property' = none := by
  cases remaining with
  | storeSocket freed value polls => cases h
  | storeComponent freed value => cases h
  | _ => rfl

theorem disciplined_alone {s : Entries} {t : Nat} (halone : ∀ u, u ≠ t → s.threads u = none) :
    s.Disciplined (.statement t) := by
  intro remaining ht
  constructor
  · intro property a huses _ u hfreed
    by_cases hu : u = t
    · rw [Entries.freedBy, hu, ht, Option.bind_some, Remaining.freed_of_uses huses] at hfreed
      cases hfreed
    · rw [Entries.freedBy, halone u hu] at hfreed
      cases hfreed
  · intro hresets u
    by_cases hu : u = t
    · rw [Entries.awaitedBy, hu, ht]
      cases remaining with
      | resetStub socket polls => rfl
      | _ => cases hresets
    · rw [Entries.awaitedBy, halone u hu]
      rfl

/-! ## Runs -/

/-- Moves that keep to the discipline, and where they lead with which RPCs. -/
def Reaches (s : Entries) (moves : List Move) (s' : Entries) (rpcs : List (String × String)) :
    Prop :=
  entries.Guarded (fun _ s m => s.Disciplined m) s moves ∧
    ∃ hist, entries.run s moves = .ok (s', hist) ∧ hist.filterMap Prod.snd = rpcs

theorem Reaches.refl (s : Entries) : Reaches s [] s [] :=
  ⟨Machine.guarded_nil, [], rfl, rfl⟩

theorem Reaches.one {s s' : Entries} {m : Move} {rpc : Option (String × String)}
    (hm : s.Disciplined m) (hstep : s.step m = .ok (s', rpc)) : Reaches s [m] s' rpc.toList := by
  refine ⟨Machine.guarded_one hm, _, Machine.run_one hstep, ?_⟩
  cases rpc <;> rfl

theorem Reaches.trans {s s' s'' : Entries} {moves moves' : List Move}
    {rpcs rpcs' : List (String × String)} (h : Reaches s moves s' rpcs)
    (h' : Reaches s' moves' s'' rpcs') : Reaches s (moves ++ moves') s'' (rpcs ++ rpcs') := by
  obtain ⟨hg, hist, hrun, rfl⟩ := h
  obtain ⟨hg', hist', hrun', rfl⟩ := h'
  exact ⟨Machine.guarded_append hrun hg hg', _, Machine.run_append_ok hrun hrun',
    List.filterMap_append⟩

/-- The statements of a thread that is alone, one after another. -/
theorem Completes.run {s s' : Shared} {rest : Option Remaining} {rpcs : List (String × String)}
    (h : Completes s rest s' rpcs) {entries₀ : Entries} {t : Nat}
    (halone : ∀ u, u ≠ t → entries₀.threads u = none) :
    ∃ n, Reaches (entries₀.proceed t s rest) (List.replicate n (.statement t))
      (entries₀.proceed t s' none) rpcs := by
  induction h with
  | done => exact ⟨0, .refl _⟩
  | @statement s s₁ s₂ remaining rest rpc rpcs hstatement _ ih =>
    obtain ⟨n, hreaches⟩ := ih
    have hstep : (entries₀.proceed t s (some remaining)).step (.statement t) =
        .ok (entries₀.proceed t s₁ rest, rpc) := by
      simp only [Entries.step, Entries.proceed, Function.update_self, hstatement,
        Function.update_idem]
    have hdisciplined : (entries₀.proceed t s (some remaining)).Disciplined (.statement t) := by
      refine disciplined_alone fun u hu => ?_
      simp only [Entries.proceed, Function.update_of_ne hu]
      exact halone u hu
    exact ⟨n + 1, (Reaches.one hdisciplined hstep).trans hreaches⟩

/-- An instance between entries. -/
structure AtRest (s : Entries) (f : GstLookoutVision) : Prop where
  reflects : Reflects s.shared f
  quiet : ∀ t, s.threads t = none

/-- An entry that completes takes the instance from rest to rest. -/
theorem AtRest.enter {s : Entries} {f f' : GstLookoutVision} {entry : Entry} {shared : Shared}
    {rpcs : List (String × String)} (h : AtRest s f)
    (hcompletes : Completes s.shared (some entry.begin) shared rpcs)
    (hreflects : Reflects shared f') :
    ∃ moves s', Reaches s moves s' rpcs ∧ AtRest s' f' := by
  have hstep : s.step (.enter entry) =
      .ok (Entries.proceed { s with begun := s.begun + 1 } s.begun s.shared (some entry.begin),
        none) := rfl
  have halone : ∀ u, u ≠ s.begun → ({ s with begun := s.begun + 1 } : Entries).threads u = none :=
    fun u _ => h.quiet u
  have hfree : s.Disciplined (.enter entry) := trivial
  obtain ⟨n, hreaches⟩ := hcompletes.run halone
  refine ⟨_, _, (Reaches.one hfree hstep).trans hreaches, ⟨hreflects, fun t => ?_⟩⟩
  show Function.update s.threads s.begun none t = none
  by_cases ht : t = s.begun
  · rw [ht, Function.update_self]
  · rw [Function.update_of_ne ht]
    exact h.quiet t

/-- **One entry.** -/
theorem AtRest.step {s : Entries} {e e' : Element} {i : Input} {effects : List Effect}
    (h : AtRest s e.filter) (hstep : elementStep e i = .ok (e', effects)) :
    ∃ moves s', Reaches s moves s' ((calls effects).map asks) ∧ AtRest s' e'.filter := by
  have hstepped := stepped_of_step hstep
  obtain ⟨action, env⟩ := i
  have hstay : ∀ f' : GstLookoutVision,
      (∀ property : StringProperty, property.get f' = property.get e.filter) →
      f'.inferenceClient.stub = e.filter.inferenceClient.stub →
      ∃ moves s', Reaches s moves s' [] ∧ AtRest s' f' := by
    intro f' hget hstub
    exact ⟨[], s, .refl s, ⟨h.reflects.congr hget hstub, h.quiet⟩⟩
  cases hstepped with
  | serverSocket socket =>
    obtain ⟨entry, shared, effects', hset, hcompletes, hreflects⟩ :=
      completes_serverSocket h.reflects env socket
    rw [setProperty_serverSocket] at hset
    obtain ⟨-, rfl⟩ := Prod.mk.inj (Except.ok.inj hset)
    exact h.enter hcompletes hreflects
  | modelComponent component =>
    obtain ⟨entry, shared, f', effects', hset, hcompletes, hreflects⟩ :=
      completes_modelComponent h.reflects env component
    rw [setProperty_modelComponent] at hset
    obtain ⟨rfl, rfl⟩ := Prod.mk.inj (Except.ok.inj hset)
    exact h.enter hcompletes hreflects
  | modelStatusTimeout timeout =>
    exact hstay _ (fun property => by cases property <;> rfl) rfl
  | sinkEvent event =>
    obtain ⟨sinkpad, width, height, hfilter⟩ := sinkEvent_fields e.filter event
    rw [hfilter]
    exact hstay _ (fun property => by cases property <;> rfl) rfl
  | chain hchain =>
    obtain ⟨hcompletes, hreflects⟩ := completes_chain h.reflects hchain
    exact h.enter hcompletes hreflects

/-- A fresh instance. -/
theorem initial_atRest {build : Build} {os : Posix.Outcomes} {k : Kernel} {e : Element}
    (hinit : gstLookoutVisionInit build os k = .ok e) : AtRest initial e.filter := by
  obtain ⟨-, hsocket, hunset, hstub⟩ := init_fresh hinit
  refine ⟨⟨fun property => ?_, fun property a ha => ?_, initial_sound.apart, ?_⟩, fun _ => rfl⟩
  · cases property with
    | serverSocket => exact hsocket.symm
    | modelComponent => exact hunset.symm
  · cases property with
    | serverSocket =>
      obtain rfl := Option.some.inj ha
      exact Option.some_ne_none defaultServerSocket
    | modelComponent => cases ha
  · obtain ⟨a, ha, hlive⟩ := initial_sound.stub
    obtain rfl := Option.some.inj ha
    rw [hstub]
    exact ⟨0, rfl, rfl, hlive⟩

/-- **Every run of the element is a safe interleaving**, one that keeps to the discipline,
ends at rest, in what stands for the instance, and makes the RPCs of the run in their
order. -/
theorem sequential_run {build : Build} {os : Posix.Outcomes} {k : Kernel} {e t : Element}
    {is : List Input} {h : History} (hinit : gstLookoutVisionInit build os k = .ok e)
    (hrun : element.run e is = .ok (t, h)) :
    ∃ moves s, Reaches initial moves s ((h.flatMap fun r => calls r.2).map asks) ∧
      AtRest s t.filter := by
  induction is using List.reverseRecOn generalizing t h with
  | nil =>
    obtain ⟨rfl, rfl⟩ := Prod.mk.inj (Except.ok.inj hrun)
    exact ⟨[], initial, .refl initial, initial_atRest hinit⟩
  | append_singleton is i ih =>
    obtain ⟨e', h', effects, hpre, hstep, rfl⟩ := Machine.run_snoc_inv hrun
    obtain ⟨moves, s, hreaches, hrest⟩ := ih hpre
    obtain ⟨moves', s', hreaches', hrest'⟩ := hrest.step hstep
    refine ⟨moves ++ moves', s', ?_, hrest'⟩
    rw [List.flatMap_append, List.map_append, List.flatMap_singleton]
    exact hreaches.trans hreaches'

/-- A component is assigned, the address changes, a frame arrives. -/
def configureMoveInfer : List Input :=
  [.setProperty (.modelComponent (some "SampleModel")),
    .setProperty (.serverSocket (some "socket")), .chain ⟨[7], 1, []⟩].map fun action =>
      ⟨action, runningAgents⟩

theorem sequential_run_sample :
    ∃ e t h, gstLookoutVisionInit .default .allSucceed Posix.Kernel.empty = .ok e ∧
      element.run e configureMoveInfer = .ok (t, h) ∧
      ∃ moves s, Reaches initial moves s ((h.flatMap fun r => calls r.2).map asks) ∧
        AtRest s t.filter := by
  have hserved : Served .default runningAgents.os := served_default
  obtain ⟨e, hinit, hr, -⟩ := init_represents served_default Posix.Kernel.empty
  have hadm : ∀ i ∈ configureMoveInfer, i.Admissible .default := by
    simp only [configureMoveInfer, List.map_cons, List.map_nil, List.forall_mem_cons]
    exact ⟨⟨Option.some_ne_none _, hserved⟩, ⟨Option.some_ne_none _, hserved⟩,
      ⟨trivial, hserved⟩, fun _ hnil => absurd hnil List.not_mem_nil⟩
  obtain ⟨t, h, hrun, -⟩ := run_represents hr configureMoveInfer hadm
  exact ⟨e, t, h, hinit, hrun, sequential_run hinit hrun⟩

end Unlocked
end LookoutVision
