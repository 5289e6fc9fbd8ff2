import LookoutVision.ElementMemory

/-!
# Entries of several threads into one instance

GStreamer calls the chain function on a streaming thread while an application may set
and read properties on its own, and nothing in `gstlookoutvision.cc` takes a lock.  An
entry is then a sequence of statements between any two of which other entries may have
run.  `entries` is the machine of all these interleavings, for the objects entries share:
the two strings the instance points to, and the client's stub.

An entry under way is what is `Remaining` of it, by its next statement.  Between `g_free`
and the assignment of the copy the old pointer is still in place; an RPC uses the stub it
was called on until it returns, and a new address deletes that stub.  So two things must
not happen: a string is used while an entry that freed it has not stored its own, and the
address is set during an RPC.  Exactly the interleavings without either touch no freed
object (`entries_safe_iff`).
-/

namespace LookoutVision
namespace Unlocked

/-! ## The statements -/

/-- What the entries into an instance share. -/
structure Shared where
  strings : OwnedHeap String
  stubs : OwnedHeap EdgeAgentStub
  pointers : StringProperty → Option Nat
  stub : Option Nat

/-- What is left of an entry, by its next statement.  `polls` is how many RPCs a start
makes after its first, `after` the component the instance is given when the RPCs are over.
What an assignment freed is recorded with it; no statement looks at it. -/
inductive Remaining
  | freeSocket (value : String) (polls : Nat)
  | storeSocket (freed : Option Nat) (value : String) (polls : Nat)
  | copySocket (polls : Nat)
  | resetStub (socket : String) (polls : Nat)
  | copyComponent (polls : Nat)
  | call (component : String) (polls : Nat) (after : Option String)
  | awaitReturn (stub : Nat) (component : String) (polls : Nat) (after : Option String)
  | freeComponent (value : String)
  | storeComponent (freed : Option Nat) (value : String)
  | copyProperty (property : StringProperty)
deriving DecidableEq, Repr

/-- An entry as it begins, with how many polls its start makes and whether it succeeds.
The strings given are not `NULL`: such an assignment ends in an exception. -/
inductive Entry
  | setServerSocket (value : String) (polls : Nat)
  | setModelComponent (value : String) (polls : Nat) (started : Bool)
  | getProperty (property : StringProperty)
  | chain
deriving DecidableEq, Repr

def Entry.begin : Entry → Remaining
  | .setServerSocket value polls => .freeSocket value polls
  | .setModelComponent value polls started =>
      .call value polls (if started then some value else none)
  | .getProperty property => .copyProperty property
  | .chain => .copyComponent 0

namespace Shared
variable (s : Shared)

/-- `g_free(filter->..)`. -/
def free (property : StringProperty) : Except OwnedHeap.Fault Shared :=
  match s.strings.delete (s.pointers property) with
  | .error fault => .error fault
  | .ok strings => .ok { s with strings := strings }

/-- `filter->.. = g_strdup(..)`. -/
def store (property : StringProperty) (value : String) : Shared :=
  { s with
    strings := (s.strings.new value).1
    pointers := Function.update s.pointers property (some (s.strings.new value).2) }

/-- A copy of the string, or `NULL` where there is none. -/
def copy (property : StringProperty) : Except OwnedHeap.Fault (Option String) :=
  match s.pointers property with
  | none => .ok none
  | some a =>
      match s.strings.read (some a) with
      | .error fault => .error fault
      | .ok text => .ok (some text)

/-- `channel = CreateChannel(..); stub = NewStub(channel)`: the new stub is in place when
the old one is deleted. -/
def resetStub (socket : String) : Except OwnedHeap.Fault Shared :=
  match (s.stubs.new ⟨⟨socket⟩⟩).1.delete s.stub with
  | .error fault => .error fault
  | .ok stubs => .ok { s with stubs := stubs, stub := some (s.stubs.new ⟨⟨socket⟩⟩).2 }

/-- The next statement of an entry: what it leaves, what remains of the entry, and the RPC
it begins, by address and component. -/
def statement : Remaining →
    Except OwnedHeap.Fault (Shared × Option Remaining × Option (String × String))
  | .freeSocket value polls =>
      (s.free .serverSocket).map fun s' =>
        (s', some (.storeSocket (s.pointers .serverSocket) value polls), none)
  | .storeSocket _ value polls => .ok (s.store .serverSocket value, some (.copySocket polls), none)
  | .copySocket polls =>
      match s.copy .serverSocket with
      | .error fault => .error fault
      | .ok none => .error .nullDereference
      | .ok (some socket) => .ok (s, some (.resetStub socket polls), none)
  | .resetStub socket polls =>
      (s.resetStub socket).map fun s' => (s', some (.copyComponent polls), none)
  | .copyComponent polls =>
      -- The pointer, once set, is never `NULL` again, so it is tested and used in one.
      (s.copy .modelComponent).map fun component =>
        (s, component.map fun component => .call component polls none, none)
  | .call component polls after =>
      match s.stub with
      | none => .error .nullDereference
      | some a => (s.stubs.read (some a)).map fun stub =>
          (s, some (.awaitReturn a component polls after), some (stub.channel.target, component))
  | .awaitReturn stub component polls after =>
      (s.stubs.read (some stub)).map fun _ =>
        match polls with
        | 0 => (s, after.map .freeComponent, none)
        | polls + 1 => (s, some (.call component polls after), none)
  | .freeComponent value =>
      (s.free .modelComponent).map fun s' =>
        (s', some (.storeComponent (s.pointers .modelComponent) value), none)
  | .storeComponent _ value => .ok (s.store .modelComponent value, none, none)
  | .copyProperty property => (s.copy property).map fun _ => (s, none, none)

end Shared

/-! ## The machine -/

/-- An instance and the entries under way, in the order in which they began. -/
structure Entries where
  shared : Shared
  threads : Nat → Option Remaining
  begun : Nat

inductive Move
  | enter (entry : Entry)
  | statement (thread : Nat)
deriving DecidableEq, Repr

def Entries.step (s : Entries) :
    Move → Except OwnedHeap.Fault (Entries × Option (String × String))
  | .enter entry =>
      .ok ({ s with
        threads := Function.update s.threads s.begun (some entry.begin)
        begun := s.begun + 1 }, none)
  | .statement t =>
      match s.threads t with
      | none => .ok (s, none)
      | some remaining =>
          match s.shared.statement remaining with
          | .error fault => .error fault
          | .ok (shared, rest, rpc) =>
              .ok ({ s with shared := shared, threads := Function.update s.threads t rest }, rpc)

/-- **The interleavings of entries into one instance.** -/
def entries : Machine Entries Move (Option (String × String)) OwnedHeap.Fault := ⟨Entries.step⟩

/-- A fresh instance: the default address, and no component. -/
def initial : Entries where
  shared :=
    { strings := (OwnedHeap.empty.new defaultServerSocket).1
      stubs := (OwnedHeap.empty.new ⟨⟨defaultServerSocket⟩⟩).1
      pointers := fun
        | .serverSocket => some 0
        | .modelComponent => none
      stub := some 0 }
  threads := fun _ => none
  begun := 0

/-! ## What must not happen -/

/-- The string an entry's next statement uses, by its property. -/
def Remaining.uses : Remaining → Option StringProperty
  | .freeSocket _ _ => some .serverSocket
  | .copySocket _ => some .serverSocket
  | .copyComponent _ => some .modelComponent
  | .freeComponent _ => some .modelComponent
  | .copyProperty property => some property
  | _ => none

/-- The string an entry has freed and not yet replaced. -/
def Remaining.freed : Remaining → StringProperty → Option Nat
  | .storeSocket freed _ _, .serverSocket => freed
  | .storeComponent freed _, .modelComponent => freed
  | _, _ => none

/-- The stub of the RPC an entry waits for. -/
def Remaining.awaited : Remaining → Option Nat
  | .awaitReturn stub _ _ _ => some stub
  | _ => none

def Remaining.Resets : Remaining → Prop
  | .resetStub _ _ => True
  | _ => False

namespace Entries
variable (s : Entries)

/-- What the entry of a thread has freed of a property's strings and not yet replaced. -/
def freedBy (property : StringProperty) (t : Nat) : Option Nat :=
  (s.threads t).bind fun remaining => remaining.freed property

/-- The stub whose RPC a thread awaits. -/
def awaitedBy (t : Nat) : Option Nat := (s.threads t).bind Remaining.awaited

/-- **The discipline.**  No string is used that an entry has freed and not yet replaced,
and no address is set while an RPC is awaited. -/
def Disciplined : Move → Prop
  | .enter _ => True
  | .statement t => ∀ remaining, s.threads t = some remaining →
      (∀ property a, remaining.uses = some property → s.shared.pointers property = some a →
        ∀ u, s.freedBy property u ≠ some a) ∧
      (remaining.Resets → ∀ u, s.awaitedBy u = none)

/-- Every RPC under way is on a stub that is there. -/
def CallsLive : Prop := ∀ t a, s.awaitedBy t = some a → s.shared.stubs.object a ≠ none

/-- What holds through every interleaving, up to the first wrong access. -/
structure Sound : Prop where
  lt : ∀ property a, s.shared.pointers property = some a → a < s.shared.strings.next
  apart : ∀ property property' a, s.shared.pointers property = some a →
    s.shared.pointers property' = some a → property = property'
  /-- A string is gone exactly between `g_free` and the assignment. -/
  gone : ∀ property a, s.shared.pointers property = some a →
    (s.shared.strings.object a = none ↔ ∃ t, s.freedBy property t = some a)
  freed_lt : ∀ property a t, s.freedBy property t = some a → a < s.shared.strings.next
  socket : s.shared.pointers .serverSocket ≠ none
  stub : ∃ a, s.shared.stub = some a ∧ ∀ b, s.shared.stubs.object b ≠ none ↔ b = a
  begun : ∀ t, s.begun ≤ t → s.threads t = none

/-- A thread goes on. -/
def proceed (t : Nat) (shared : Shared) (rest : Option Remaining) : Entries :=
  { s with shared := shared, threads := Function.update s.threads t rest }

end Entries

theorem initial_sound : initial.Sound where
  lt := by
    intro property a ha
    cases property with
    | serverSocket => obtain rfl := Option.some.inj ha; decide
    | modelComponent => cases ha
  apart := by
    intro property property' a ha ha'
    cases property with
    | serverSocket =>
      cases property' with
      | serverSocket => rfl
      | modelComponent => cases ha'
    | modelComponent => cases ha
  gone := by
    intro property a ha
    cases property with
    | serverSocket =>
      obtain rfl := Option.some.inj ha
      refine ⟨fun hnone => ?_, fun ⟨_, ht⟩ => (by cases ht)⟩
      cases hnone
    | modelComponent => cases ha
  freed_lt := by
    intro property a t ht
    cases ht
  socket := Option.some_ne_none 0
  stub := by
    refine ⟨0, rfl, fun b => ?_⟩
    constructor
    · intro hb
      by_contra hne
      exact hb (OwnedHeap.object_new_of_ne hne)
    · rintro rfl
      exact Option.some_ne_none _
  begun := fun _ _ => rfl

section
variable {s : Entries} {t : Nat} {remaining : Remaining} {shared : Shared}
  {rest : Option Remaining}

/-! ## What the threads know after a statement -/

theorem freedBy_proceed_self (property : StringProperty) :
    (s.proceed t shared rest).freedBy property t = rest.bind fun r => r.freed property := by
  simp only [Entries.freedBy, Entries.proceed, Function.update_self]

theorem freedBy_proceed_of_ne (property : StringProperty) {u : Nat} (hne : u ≠ t) :
    (s.proceed t shared rest).freedBy property u = s.freedBy property u := by
  simp only [Entries.freedBy, Entries.proceed, Function.update_of_ne hne]

theorem awaitedBy_proceed_self :
    (s.proceed t shared rest).awaitedBy t = rest.bind Remaining.awaited := by
  simp only [Entries.awaitedBy, Entries.proceed, Function.update_self]

theorem awaitedBy_proceed_of_ne {u : Nat} (hne : u ≠ t) :
    (s.proceed t shared rest).awaitedBy u = s.awaitedBy u := by
  simp only [Entries.awaitedBy, Entries.proceed, Function.update_of_ne hne]

/-- Where a thread has as much to replace as before, so have all. -/
theorem freedBy_proceed_same {property : StringProperty} (ht : s.threads t = some remaining)
    (hsame : (rest.bind fun r => r.freed property) = remaining.freed property) :
    (s.proceed t shared rest).freedBy property = s.freedBy property := by
  funext u
  by_cases hu : u = t
  · rw [hu, freedBy_proceed_self, hsame, Entries.freedBy, ht, Option.bind_some]
  · exact freedBy_proceed_of_ne property hu

theorem begun_proceed (hs : s.Sound) (ht : s.threads t = some remaining) :
    ∀ u, (s.proceed t shared rest).begun ≤ u → (s.proceed t shared rest).threads u = none := by
  intro u hu
  have hne : u ≠ t := by
    rintro rfl
    rw [hs.begun u hu] at ht
    cases ht
  simp only [Entries.proceed, Function.update_of_ne hne]
  exact hs.begun u hu

/-! ## What the statements do -/

theorem Shared.free_ok_iff {s : Shared} {property : StringProperty} :
    (∃ s', s.free property = .ok s') ↔
      ∀ a, s.pointers property = some a → s.strings.object a ≠ none := by
  rw [← OwnedHeap.delete_ok_iff]
  unfold free
  split
  · rename_i fault hdelete
    rw [hdelete]
    exact ⟨fun ⟨_, h⟩ => (by cases h), fun ⟨_, h⟩ => (by cases h)⟩
  · rename_i strings hdelete
    exact ⟨fun _ => ⟨strings, hdelete⟩, fun _ => ⟨_, rfl⟩⟩

theorem Shared.free_inv {s s' : Shared} {property : StringProperty}
    (h : s.free property = .ok s') : ∃ strings, s' = { s with strings := strings } ∧
      s.strings.delete (s.pointers property) = .ok strings := by
  unfold free at h
  split at h
  · cases h
  · rename_i strings hdelete
    exact ⟨strings, (Except.ok.inj h).symm, hdelete⟩

theorem Shared.copy_ok_iff {s : Shared} {property : StringProperty} :
    (∃ text, s.copy property = .ok text) ↔
      ∀ a, s.pointers property = some a → s.strings.object a ≠ none := by
  constructor
  · rintro ⟨text, h⟩ a ha
    refine OwnedHeap.read_ok_iff.mp ?_
    simp only [copy, ha] at h
    split at h
    · cases h
    · rename_i x hread
      exact ⟨x, hread⟩
  · intro hlive
    cases hp : s.pointers property with
    | none => exact ⟨none, by simp only [copy, hp]⟩
    | some a =>
      obtain ⟨x, hread⟩ := OwnedHeap.read_ok_iff.mpr (hlive a hp)
      exact ⟨some x, by simp only [copy, hp, hread]⟩

/-- A string that is there is copied as one. -/
theorem Shared.copy_some {s : Shared} {property : StringProperty} {text : Option String}
    (h : s.copy property = .ok text) (hp : s.pointers property ≠ none) :
    ∃ x, text = some x := by
  unfold copy at h
  split at h
  · rename_i hnone
    exact absurd hnone hp
  · split at h
    · cases h
    · exact ⟨_, (Except.ok.inj h).symm⟩

/-- **The stub is replaced**, by the only one there then is. -/
theorem Shared.resetStub_ok {s : Shared} {a : Nat} (hstub : s.stub = some a)
    (hlive : ∀ b, s.stubs.object b ≠ none ↔ b = a) (socket : String) :
    ∃ stubs, s.resetStub socket = .ok { s with stubs := stubs, stub := some s.stubs.next } ∧
      a ≠ s.stubs.next ∧ stubs.object s.stubs.next = some ⟨⟨socket⟩⟩ ∧
      ∀ b, stubs.object b ≠ none ↔ b = s.stubs.next := by
  have hlt : a < s.stubs.next := OwnedHeap.lt_next ((hlive a).mpr rfl)
  have hne : a ≠ s.stubs.next := Nat.ne_of_lt hlt
  have hthere : ∀ b, some a = some b → (s.stubs.new ⟨⟨socket⟩⟩).1.object b ≠ none := by
    intro b hb
    obtain rfl := Option.some.inj hb
    rw [OwnedHeap.object_new_of_ne hne]
    exact (hlive a).mpr rfl
  obtain ⟨stubs, hdelete⟩ := OwnedHeap.delete_ok_iff.mpr hthere
  obtain ⟨-, hgone, hkept⟩ := OwnedHeap.delete_inv hdelete
  refine ⟨stubs, ?_, hne, ?_, fun b => ?_⟩
  · simp only [resetStub, hstub, hdelete]
    rfl
  · rw [hkept _ fun h => hne (Option.some.inj h), OwnedHeap.object_new_self]
  · by_cases hba : b = a
    · rw [hgone b (congrArg some hba.symm), hba]
      exact ⟨fun h => absurd rfl h, fun h => absurd h hne⟩
    · rw [hkept b fun h => hba (Option.some.inj h).symm]
      by_cases hnew : b = s.stubs.next
      · rw [hnew, OwnedHeap.object_new_self]
        exact ⟨fun _ => rfl, fun _ => Option.some_ne_none _⟩
      · rw [OwnedHeap.object_new_of_ne hnew]
        exact ⟨fun h => absurd ((hlive b).mp h) hba, fun h => absurd h hnew⟩

/-! ## What every statement keeps -/

/-- A statement that leaves the strings, and what its thread has to replace. -/
theorem Entries.Sound.keep (hs : s.Sound) (ht : s.threads t = some remaining)
    (hstrings : shared.strings = s.shared.strings)
    (hpointers : shared.pointers = s.shared.pointers)
    (hstub : ∃ a, shared.stub = some a ∧ ∀ b, shared.stubs.object b ≠ none ↔ b = a)
    (hsame : ∀ property, (rest.bind fun r => r.freed property) = remaining.freed property) :
    (s.proceed t shared rest).Sound where
  lt := by
    intro property a ha
    show a < shared.strings.next
    rw [hstrings]
    exact hs.lt property a (hpointers ▸ ha)
  apart := fun property property' a ha ha' =>
    hs.apart property property' a (hpointers ▸ ha) (hpointers ▸ ha')
  gone := by
    intro property a ha
    rw [freedBy_proceed_same ht (hsame property)]
    show shared.strings.object a = none ↔ _
    rw [hstrings]
    exact hs.gone property a (hpointers ▸ ha)
  freed_lt := by
    intro property a u hu
    rw [freedBy_proceed_same ht (hsame property)] at hu
    show a < shared.strings.next
    rw [hstrings]
    exact hs.freed_lt property a u hu
  socket := by
    show shared.pointers .serverSocket ≠ none
    rw [hpointers]
    exact hs.socket
  stub := hstub
  begun := begun_proceed hs ht

/-- **`g_free`**: the string is gone, and its thread knows. -/
theorem Entries.Sound.free (hs : s.Sound) (ht : s.threads t = some remaining)
    {property : StringProperty} {strings : OwnedHeap String}
    (hdelete : s.shared.strings.delete (s.shared.pointers property) = .ok strings)
    (hbefore : ∀ property', remaining.freed property' = none)
    (hafter : ∀ property', (rest.bind fun r => r.freed property') =
      if property' = property then s.shared.pointers property else none) :
    (s.proceed t { s.shared with strings := strings } rest).Sound := by
  obtain ⟨hnext, hgone, hkept⟩ := OwnedHeap.delete_inv hdelete
  have hlt : ∀ property' a, s.shared.pointers property' = some a → a < strings.next := by
    intro property' a ha
    rw [hnext]
    exact hs.lt property' a ha
  refine ⟨hlt, hs.apart, fun property' a ha => ?_, fun property' a u hu => ?_, hs.socket, hs.stub,
    begun_proceed hs ht⟩
  · by_cases hp : property' = property
    · subst hp
      refine ⟨fun _ => ⟨t, ?_⟩, fun _ => hgone a ha⟩
      rw [freedBy_proceed_self, hafter, if_pos rfl]
      exact ha
    · have hother : s.shared.pointers property ≠ some a := fun h => hp (hs.apart _ _ a ha h)
      rw [freedBy_proceed_same ht (by rw [hafter, if_neg hp, hbefore])]
      show strings.object a = none ↔ _
      rw [hkept a hother]
      exact hs.gone property' a ha
  · by_cases hut : u = t
    · subst hut
      rw [freedBy_proceed_self, hafter] at hu
      split at hu
      · exact hlt property a hu
      · cases hu
    · rw [freedBy_proceed_of_ne property' hut] at hu
      show a < strings.next
      rw [hnext]
      exact hs.freed_lt property' a u hu

/-- **The assignment**: a new string is there, and its thread has nothing left to
replace. -/
theorem Entries.Sound.store (hs : s.Sound) (ht : s.threads t = some remaining)
    {property : StringProperty} (value : String)
    (hbefore : ∀ property', property' ≠ property → remaining.freed property' = none)
    (hafter : ∀ property', (rest.bind fun r => r.freed property') = none) :
    (s.proceed t (s.shared.store property value) rest).Sound := by
  have hpointer : ∀ property' a, (s.shared.store property value).pointers property' = some a →
      (property' = property ∧ a = s.shared.strings.next) ∨
        (property' ≠ property ∧ s.shared.pointers property' = some a) := by
    intro property' a ha
    rcases Table.update_eq_some ha with ⟨hp, ha⟩ | hold
    · exact Or.inl ⟨hp, (Option.some.inj ha).symm⟩
    · exact Or.inr hold
  have hfreed : ∀ property' a u,
      (s.proceed t (s.shared.store property value) rest).freedBy property' u = some a →
        s.freedBy property' u = some a := by
    intro property' a u hu
    by_cases hut : u = t
    · rw [hut, freedBy_proceed_self, hafter] at hu
      cases hu
    · rwa [freedBy_proceed_of_ne property' hut] at hu
  refine ⟨fun property' a ha => ?_, fun property' property'' a ha ha' => ?_,
    fun property' a ha => ?_, fun property' a u hu => ?_, ?_, hs.stub, begun_proceed hs ht⟩
  · show a < s.shared.strings.next + 1
    rcases hpointer property' a ha with ⟨-, rfl⟩ | ⟨-, hold⟩
    · omega
    · have hlt := hs.lt property' a hold
      omega
  · -- The new string is at an address that no pointer had.
    rcases hpointer property' a ha with ⟨hp, hnew⟩ | ⟨-, hold⟩ <;>
      rcases hpointer property'' a ha' with ⟨hp', hnew'⟩ | ⟨-, hold'⟩
    · rw [hp, hp']
    · exact absurd (hs.lt property'' a hold') (by omega)
    · exact absurd (hs.lt property' a hold) (by omega)
    · exact hs.apart property' property'' a hold hold'
  · rcases hpointer property' a ha with ⟨hp, rfl⟩ | ⟨hp, hold⟩
    · constructor
      · intro hnone
        have hself : (s.shared.strings.new value).1.object s.shared.strings.next = none := hnone
        rw [OwnedHeap.object_new_self] at hself
        cases hself
      · rintro ⟨u, hu⟩
        exact absurd (hs.freed_lt property' _ u (hfreed property' _ u hu)) (Nat.lt_irrefl _)
    · have hlt := hs.lt property' a hold
      rw [freedBy_proceed_same ht (by rw [hafter, hbefore property' hp])]
      show (s.shared.strings.new value).1.object a = none ↔ _
      rw [OwnedHeap.object_new_of_ne (by omega)]
      exact hs.gone property' a hold
  · have hlt := hs.freed_lt property' a u (hfreed property' a u hu)
    show a < s.shared.strings.next + 1
    omega
  · show Function.update s.shared.pointers property _ .serverSocket ≠ none
    by_cases hp : StringProperty.serverSocket = property
    · rw [← hp, Function.update_self]
      exact Option.some_ne_none _
    · rw [Function.update_of_ne hp]
      exact hs.socket

/-- A statement that maps completes where what it maps does. -/
theorem map_inv {ε α β : Type} {x : Except ε α} {f : α → β} {b : β} (h : x.map f = .ok b) :
    ∃ a, x = .ok a ∧ f a = b := by
  cases x with
  | error fault => cases h
  | ok a => exact ⟨a, rfl, Except.ok.inj h⟩

theorem map_ok_iff {ε α β : Type} {x : Except ε α} {f : α → β} :
    (∃ b, x.map f = .ok b) ↔ ∃ a, x = .ok a := by
  constructor
  · rintro ⟨b, h⟩
    obtain ⟨a, ha, -⟩ := map_inv h
    exact ⟨a, ha⟩
  · rintro ⟨a, rfl⟩
    exact ⟨f a, rfl⟩

/-- **Soundness** is kept by every statement that completes. -/
theorem statement_sound (hs : s.Sound) (ht : s.threads t = some remaining)
    {rpc : Option (String × String)}
    (h : s.shared.statement remaining = .ok (shared, rest, rpc)) :
    (s.proceed t shared rest).Sound := by
  cases remaining with
  | freeSocket value polls =>
    obtain ⟨s', hfree, hpair⟩ := map_inv h
    obtain ⟨rfl, hrest⟩ := Prod.mk.inj hpair
    obtain ⟨rfl, -⟩ := Prod.mk.inj hrest
    obtain ⟨strings, rfl, hdelete⟩ := Shared.free_inv hfree
    exact hs.free ht hdelete (fun _ => rfl) fun property => by cases property <;> rfl
  | storeSocket freed value polls =>
    obtain ⟨rfl, hrest⟩ := Prod.mk.inj (Except.ok.inj h)
    obtain ⟨rfl, -⟩ := Prod.mk.inj hrest
    refine hs.store ht value (fun property hne => ?_) fun _ => rfl
    cases property with
    | serverSocket => exact absurd rfl hne
    | modelComponent => rfl
  | copySocket polls =>
    simp only [Shared.statement] at h
    split at h
    · cases h
    · cases h
    · obtain ⟨rfl, hrest⟩ := Prod.mk.inj (Except.ok.inj h)
      obtain ⟨rfl, -⟩ := Prod.mk.inj hrest
      exact hs.keep ht rfl rfl hs.stub fun _ => rfl
  | resetStub socket polls =>
    obtain ⟨a, hstub, hlive⟩ := hs.stub
    obtain ⟨stubs, hreset, -, -, hthere⟩ := Shared.resetStub_ok hstub hlive socket
    obtain ⟨s', hreset', hpair⟩ := map_inv h
    obtain ⟨rfl, hrest⟩ := Prod.mk.inj hpair
    obtain ⟨rfl, -⟩ := Prod.mk.inj hrest
    obtain rfl := Except.ok.inj (hreset.symm.trans hreset')
    exact hs.keep ht rfl rfl ⟨_, rfl, hthere⟩ fun _ => rfl
  | copyComponent polls =>
    obtain ⟨text, -, hpair⟩ := map_inv h
    obtain ⟨rfl, hrest⟩ := Prod.mk.inj hpair
    obtain ⟨rfl, -⟩ := Prod.mk.inj hrest
    exact hs.keep ht rfl rfl hs.stub fun _ => by cases text <;> rfl
  | call component polls after =>
    simp only [Shared.statement] at h
    split at h
    · cases h
    · obtain ⟨stub, -, hpair⟩ := map_inv h
      obtain ⟨rfl, hrest⟩ := Prod.mk.inj hpair
      obtain ⟨rfl, -⟩ := Prod.mk.inj hrest
      exact hs.keep ht rfl rfl hs.stub fun _ => rfl
  | awaitReturn stub component polls after =>
    obtain ⟨_, -, hpair⟩ := map_inv h
    cases polls with
    | zero =>
      obtain ⟨rfl, hrest⟩ := Prod.mk.inj hpair
      obtain ⟨rfl, -⟩ := Prod.mk.inj hrest
      exact hs.keep ht rfl rfl hs.stub fun _ => by cases after <;> rfl
    | succ polls =>
      obtain ⟨rfl, hrest⟩ := Prod.mk.inj hpair
      obtain ⟨rfl, -⟩ := Prod.mk.inj hrest
      exact hs.keep ht rfl rfl hs.stub fun _ => rfl
  | freeComponent value =>
    obtain ⟨s', hfree, hpair⟩ := map_inv h
    obtain ⟨rfl, hrest⟩ := Prod.mk.inj hpair
    obtain ⟨rfl, -⟩ := Prod.mk.inj hrest
    obtain ⟨strings, rfl, hdelete⟩ := Shared.free_inv hfree
    exact hs.free ht hdelete (fun _ => rfl) fun property => by cases property <;> rfl
  | storeComponent freed value =>
    obtain ⟨rfl, hrest⟩ := Prod.mk.inj (Except.ok.inj h)
    obtain ⟨rfl, -⟩ := Prod.mk.inj hrest
    refine hs.store ht value (fun property hne => ?_) fun _ => rfl
    cases property with
    | serverSocket => rfl
    | modelComponent => exact absurd rfl hne
  | copyProperty property =>
    obtain ⟨_, -, hpair⟩ := map_inv h
    obtain ⟨rfl, hrest⟩ := Prod.mk.inj hpair
    obtain ⟨rfl, -⟩ := Prod.mk.inj hrest
    exact hs.keep ht rfl rfl hs.stub fun _ => rfl

/-! ## Which statements go wrong -/

/-- A string is there unless somebody has freed it and not yet replaced it. -/
theorem Entries.Sound.there_iff (hs : s.Sound) (property : StringProperty) :
    (∀ a, s.shared.pointers property = some a → s.shared.strings.object a ≠ none) ↔
      ∀ a, s.shared.pointers property = some a → ∀ u, s.freedBy property u ≠ some a := by
  constructor
  · intro hthere a ha u hu
    exact hthere a ha ((hs.gone property a ha).mpr ⟨u, hu⟩)
  · intro hfree a ha hnone
    obtain ⟨u, hu⟩ := (hs.gone property a ha).mp hnone
    exact hfree a ha u hu

/-- **A statement completes** exactly when the string it uses, if any, is not one that an
entry has freed and not yet replaced. -/
theorem statement_ok_iff (hs : s.Sound) (hcalls : s.CallsLive)
    (ht : s.threads t = some remaining) :
    (∃ r, s.shared.statement remaining = .ok r) ↔
      ∀ property a, remaining.uses = some property → s.shared.pointers property = some a →
        ∀ u, s.freedBy property u ≠ some a := by
  have hall : ∀ {property}, remaining.uses = some property →
      ((∀ a, s.shared.pointers property = some a → s.shared.strings.object a ≠ none) ↔
        ∀ property' a, remaining.uses = some property' → s.shared.pointers property' = some a →
          ∀ u, s.freedBy property' u ≠ some a) := by
    intro property huses
    rw [hs.there_iff]
    constructor
    · intro h property' a huses' ha
      obtain rfl := Option.some.inj (huses.symm.trans huses')
      exact h a ha
    · exact fun h a ha => h property a huses ha
  have hnone : remaining.uses = none →
      ∀ property' a, remaining.uses = some property' → s.shared.pointers property' = some a →
        ∀ u, s.freedBy property' u ≠ some a := by
    intro hno property' a huses
    rw [hno] at huses
    cases huses
  obtain ⟨stub, hstub, hlive⟩ := hs.stub
  cases remaining with
  | freeSocket value polls => exact map_ok_iff.trans (Shared.free_ok_iff.trans (hall rfl))
  | storeSocket freed value polls => exact ⟨fun _ => hnone rfl, fun _ => ⟨_, rfl⟩⟩
  | copySocket polls =>
    refine Iff.trans ?_ (Shared.copy_ok_iff.trans (hall rfl))
    simp only [Shared.statement]
    split
    · rename_i hcopy
      rw [hcopy]
      exact ⟨fun ⟨_, h⟩ => (by cases h), fun ⟨_, h⟩ => (by cases h)⟩
    · rename_i hcopy
      obtain ⟨x, hx⟩ := Shared.copy_some hcopy hs.socket
      cases hx
    · rename_i socket hcopy
      exact ⟨fun _ => ⟨_, hcopy⟩, fun _ => ⟨_, rfl⟩⟩
  | resetStub socket polls =>
    obtain ⟨stubs, hreset, -⟩ := Shared.resetStub_ok hstub hlive socket
    exact ⟨fun _ => hnone rfl, fun _ => map_ok_iff.mpr ⟨_, hreset⟩⟩
  | copyComponent polls => exact map_ok_iff.trans (Shared.copy_ok_iff.trans (hall rfl))
  | call component polls after =>
    refine ⟨fun _ => hnone rfl, fun _ => ?_⟩
    simp only [Shared.statement, hstub]
    exact map_ok_iff.mpr (OwnedHeap.read_ok_iff.mpr ((hlive stub).mpr rfl))
  | awaitReturn awaited component polls after =>
    refine ⟨fun _ => hnone rfl, fun _ => map_ok_iff.mpr (OwnedHeap.read_ok_iff.mpr ?_)⟩
    exact hcalls t awaited (by rw [Entries.awaitedBy, ht]; rfl)
  | freeComponent value => exact map_ok_iff.trans (Shared.free_ok_iff.trans (hall rfl))
  | storeComponent freed value => exact ⟨fun _ => hnone rfl, fun _ => ⟨_, rfl⟩⟩
  | copyProperty property => exact map_ok_iff.trans (Shared.copy_ok_iff.trans (hall rfl))

/-- A thread that goes on to await nothing, or the stub that is in place, with the stubs
as they were. -/
theorem Entries.CallsLive.keep (hcalls : s.CallsLive) (hstubs : shared.stubs = s.shared.stubs)
    (hrest : ∀ a, rest.bind Remaining.awaited = some a → s.shared.stubs.object a ≠ none) :
    (s.proceed t shared rest).CallsLive := by
  intro u a hu
  show shared.stubs.object a ≠ none
  rw [hstubs]
  by_cases hut : u = t
  · rw [hut, awaitedBy_proceed_self] at hu
    exact hrest a hu
  · rw [awaitedBy_proceed_of_ne hut] at hu
    exact hcalls u a hu

/-- **A statement leaves the RPCs under way with their stubs** exactly when it is not an
address that is set while one is awaited. -/
theorem statement_callsLive_iff (hs : s.Sound) (hcalls : s.CallsLive)
    (ht : s.threads t = some remaining) {rpc : Option (String × String)}
    (h : s.shared.statement remaining = .ok (shared, rest, rpc)) :
    (s.proceed t shared rest).CallsLive ↔ (remaining.Resets → ∀ u, s.awaitedBy u = none) := by
  obtain ⟨stub, hstub, hlive⟩ := hs.stub
  have hquiet : ∀ {shared' : Shared} {rest' : Option Remaining},
      shared'.stubs = s.shared.stubs → rest'.bind Remaining.awaited = none → ¬ remaining.Resets →
      ((s.proceed t shared' rest').CallsLive ↔
        (remaining.Resets → ∀ u, s.awaitedBy u = none)) := by
    intro shared' rest' hstubs hrest hnot
    refine ⟨fun _ hresets => absurd hresets hnot, fun _ => hcalls.keep hstubs fun a ha => ?_⟩
    rw [hrest] at ha
    cases ha
  cases remaining with
  | freeSocket value polls =>
    obtain ⟨s', hfree, hpair⟩ := map_inv h
    obtain ⟨rfl, hrest⟩ := Prod.mk.inj hpair
    obtain ⟨rfl, -⟩ := Prod.mk.inj hrest
    obtain ⟨strings, rfl, -⟩ := Shared.free_inv hfree
    exact hquiet rfl rfl id
  | storeSocket freed value polls =>
    obtain ⟨rfl, hrest⟩ := Prod.mk.inj (Except.ok.inj h)
    obtain ⟨rfl, -⟩ := Prod.mk.inj hrest
    exact hquiet rfl rfl id
  | copySocket polls =>
    simp only [Shared.statement] at h
    split at h
    · cases h
    · cases h
    · obtain ⟨rfl, hrest⟩ := Prod.mk.inj (Except.ok.inj h)
      obtain ⟨rfl, -⟩ := Prod.mk.inj hrest
      exact hquiet rfl rfl id
  | resetStub socket polls =>
    obtain ⟨stubs, hreset, hne, -, hthere⟩ := Shared.resetStub_ok hstub hlive socket
    obtain ⟨s', hreset', hpair⟩ := map_inv h
    obtain ⟨rfl, hrest⟩ := Prod.mk.inj hpair
    obtain ⟨rfl, -⟩ := Prod.mk.inj hrest
    obtain rfl := Except.ok.inj (hreset.symm.trans hreset')
    have hself : s.awaitedBy t = none := by
      rw [Entries.awaitedBy, ht]
      rfl
    constructor
    · -- An RPC under way was on the stub that is now deleted.
      intro hcalls' _ u
      cases hu : s.awaitedBy u with
      | none => rfl
      | some a =>
        have hut : u ≠ t := by
          rintro rfl
          rw [hself] at hu
          cases hu
        have hold : a = stub := (hlive a).mp (hcalls u a hu)
        have hnew : a = s.shared.stubs.next :=
          (hthere a).mp (hcalls' u a ((awaitedBy_proceed_of_ne hut).trans hu))
        exact absurd (hold.symm.trans hnew) hne
    · intro hnobody u a hu
      by_cases hut : u = t
      · rw [hut, awaitedBy_proceed_self] at hu
        cases hu
      · rw [awaitedBy_proceed_of_ne hut, hnobody trivial u] at hu
        cases hu
  | copyComponent polls =>
    obtain ⟨text, -, hpair⟩ := map_inv h
    obtain ⟨rfl, hrest⟩ := Prod.mk.inj hpair
    obtain ⟨rfl, -⟩ := Prod.mk.inj hrest
    exact hquiet rfl (by cases text <;> rfl) id
  | call component polls after =>
    simp only [Shared.statement, hstub] at h
    obtain ⟨_, -, hpair⟩ := map_inv h
    obtain ⟨rfl, hrest⟩ := Prod.mk.inj hpair
    obtain ⟨rfl, -⟩ := Prod.mk.inj hrest
    refine ⟨fun _ hresets => hresets.elim, fun _ => hcalls.keep rfl fun a ha => ?_⟩
    exact (hlive a).mpr (Option.some.inj ha).symm
  | awaitReturn awaited component polls after =>
    obtain ⟨_, -, hpair⟩ := map_inv h
    cases polls with
    | zero =>
      obtain ⟨rfl, hrest⟩ := Prod.mk.inj hpair
      obtain ⟨rfl, -⟩ := Prod.mk.inj hrest
      exact hquiet rfl (by cases after <;> rfl) id
    | succ polls =>
      obtain ⟨rfl, hrest⟩ := Prod.mk.inj hpair
      obtain ⟨rfl, -⟩ := Prod.mk.inj hrest
      exact hquiet rfl rfl id
  | freeComponent value =>
    obtain ⟨s', hfree, hpair⟩ := map_inv h
    obtain ⟨rfl, hrest⟩ := Prod.mk.inj hpair
    obtain ⟨rfl, -⟩ := Prod.mk.inj hrest
    obtain ⟨strings, rfl, -⟩ := Shared.free_inv hfree
    exact hquiet rfl rfl id
  | storeComponent freed value =>
    obtain ⟨rfl, hrest⟩ := Prod.mk.inj (Except.ok.inj h)
    obtain ⟨rfl, -⟩ := Prod.mk.inj hrest
    exact hquiet rfl rfl id
  | copyProperty property =>
    obtain ⟨_, -, hpair⟩ := map_inv h
    obtain ⟨rfl, hrest⟩ := Prod.mk.inj hpair
    obtain ⟨rfl, -⟩ := Prod.mk.inj hrest
    exact hquiet rfl rfl id

end

/-! ## Runs -/

section
variable {s s' : Entries} {m : Move}

theorem entered_freedBy (hs : s.Sound) (entry : Entry) (property : StringProperty) :
    ({ s with
      threads := Function.update s.threads s.begun (some entry.begin)
      begun := s.begun + 1 } : Entries).freedBy property = s.freedBy property := by
  funext u
  by_cases hu : u = s.begun
  · rw [hu]
    simp only [Entries.freedBy, Function.update_self, hs.begun s.begun (Nat.le_refl _)]
    cases entry <;> rfl
  · simp only [Entries.freedBy, Function.update_of_ne hu]

theorem entered_awaitedBy (hs : s.Sound) (entry : Entry) :
    ({ s with
      threads := Function.update s.threads s.begun (some entry.begin)
      begun := s.begun + 1 } : Entries).awaitedBy = s.awaitedBy := by
  funext u
  by_cases hu : u = s.begun
  · rw [hu]
    simp only [Entries.awaitedBy, Function.update_self, hs.begun s.begun (Nat.le_refl _)]
    cases entry <;> rfl
  · simp only [Entries.awaitedBy, Function.update_of_ne hu]

/-- **Soundness** is kept by every move that completes. -/
theorem step_sound {o : Option (String × String)} (hs : s.Sound) (h : s.step m = .ok (s', o)) :
    s'.Sound := by
  cases m with
  | enter entry =>
    obtain ⟨rfl, -⟩ := Prod.mk.inj (Except.ok.inj h)
    refine ⟨hs.lt, hs.apart, fun property a ha => ?_, fun property a t ht => ?_, hs.socket,
      hs.stub, fun t ht => ?_⟩
    · rw [entered_freedBy hs]
      exact hs.gone property a ha
    · rw [entered_freedBy hs] at ht
      exact hs.freed_lt property a t ht
    · have hne : t ≠ s.begun := Nat.ne_of_gt ht
      show Function.update s.threads s.begun _ t = none
      rw [Function.update_of_ne hne]
      exact hs.begun t (Nat.le_of_lt ht)
  | statement t =>
    simp only [Entries.step] at h
    split at h
    · obtain ⟨rfl, -⟩ := Prod.mk.inj (Except.ok.inj h)
      exact hs
    · rename_i remaining ht
      split at h
      · cases h
      · rename_i shared rest rpc hstatement
        obtain ⟨rfl, -⟩ := Prod.mk.inj (Except.ok.inj h)
        exact statement_sound hs ht hstatement

/-- **One move**: it completes, and leaves every RPC with its stub, exactly when it keeps
to the discipline. -/
theorem disciplined_iff (hs : s.Sound) (hcalls : s.CallsLive) :
    s.Disciplined m ↔ ∃ s' o, s.step m = .ok (s', o) ∧ s'.CallsLive := by
  cases m with
  | enter entry =>
    refine ⟨fun _ => ⟨_, _, rfl, fun t a ha => ?_⟩, fun _ => trivial⟩
    rw [entered_awaitedBy hs] at ha
    exact hcalls t a ha
  | statement t =>
    cases ht : s.threads t with
    | none =>
      have hstep : s.step (.statement t) = .ok (s, none) := by simp only [Entries.step, ht]
      refine ⟨fun _ => ⟨s, none, hstep, hcalls⟩, fun _ remaining hremaining => ?_⟩
      rw [ht] at hremaining
      cases hremaining
    | some remaining =>
      have hdiscipline : s.Disciplined (.statement t) ↔
          (∀ property a, remaining.uses = some property →
            s.shared.pointers property = some a → ∀ u, s.freedBy property u ≠ some a) ∧
          (remaining.Resets → ∀ u, s.awaitedBy u = none) := by
        constructor
        · exact fun h => h remaining ht
        · intro h remaining' ht'
          obtain rfl := Option.some.inj (ht.symm.trans ht')
          exact h
      rw [hdiscipline, ← statement_ok_iff hs hcalls ht]
      constructor
      · rintro ⟨⟨⟨shared, rest, rpc⟩, hstatement⟩, hresets⟩
        refine ⟨s.proceed t shared rest, rpc, ?_,
          (statement_callsLive_iff hs hcalls ht hstatement).mpr hresets⟩
        simp only [Entries.step, ht, hstatement]
        rfl
      · rintro ⟨s', o, hstep, hcalls'⟩
        simp only [Entries.step, ht] at hstep
        split at hstep
        · cases hstep
        · rename_i shared rest rpc hstatement
          obtain ⟨rfl, -⟩ := Prod.mk.inj (Except.ok.inj hstep)
          exact ⟨⟨_, hstatement⟩, (statement_callsLive_iff hs hcalls ht hstatement).mp hcalls'⟩

end

/-- **Which interleavings are safe.**  Entries of any number of threads, interleaved in any
way, use no string that was freed and have every RPC return to a stub that is there,
exactly if no string is used between another entry's `g_free` of it and the assignment,
and no address is set during an RPC. -/
theorem entries_safe_iff (is : List Move) :
    entries.Always (fun _ s => s.CallsLive) initial is ↔
      entries.Guarded (fun _ s m => s.Disciplined m) initial is := by
  have hadm : ∀ m ∈ is, True := fun _ _ => trivial
  refine Machine.always_iff_guarded (J := fun _ s => s.Sound) initial_sound ?_ ?_ ?_ hadm
  · intro t a ha
    cases ha
  · exact fun _ s m s' o hs _ hstep => step_sound hs hstep
  · exact fun _ s m hs hcalls _ => disciplined_iff hs hcalls

end Unlocked
end LookoutVision
