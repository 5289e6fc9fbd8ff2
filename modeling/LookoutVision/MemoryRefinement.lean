import LookoutVision.ElementMemory

/-!
# The pointers of an element stand for its values

Every string on the heap is held by one property of one instance or by one value
of the application, every client by one instance (`Process.Owned`).  Under this
discipline the memory has a meaning (`Process.denote`), and every action is, on
what the memory means, the action without pointers (`step_refines`).

So a process faults where its application does and nowhere else
(`process_refines`): no string is read after it was freed, none is freed twice,
and what the application has read from a property stays as it was read, whatever
is done to the instance afterwards.
-/

namespace LookoutVision

/-- What may hold a string. -/
inductive StringHolder
  | property (filter : Nat) (property : StringProperty)
  | value (value : Nat)
deriving DecidableEq, Repr

namespace OnHeap.GstLookoutVision

/-- The pointer of a property, and the instance with another one. -/
def string (filter : GstLookoutVision) : StringProperty → Option Nat
  | .serverSocket => filter.serverSocket
  | .modelComponent => filter.modelComponent

def setString (filter : GstLookoutVision) (p : Option Nat) : StringProperty → GstLookoutVision
  | .serverSocket => { filter with serverSocket := p }
  | .modelComponent => { filter with modelComponent := p }

/-- The instance with values for its pointers. -/
def value (filter : GstLookoutVision) (client : LookoutVisionInferenceClient)
    (serverSocket modelComponent : Option String) : LookoutVision.GstLookoutVision where
  sinkpad := filter.sinkpad
  inferenceClient := client
  width := filter.width
  height := filter.height
  serverSocket := serverSocket
  modelComponent := modelComponent
  modelStatusTimeout := filter.modelStatusTimeout

end OnHeap.GstLookoutVision

/-- The instance with another string in a property. -/
def GstLookoutVision.setString (filter : GstLookoutVision) (x : Option String) :
    StringProperty → GstLookoutVision
  | .serverSocket => { filter with serverSocket := x }
  | .modelComponent => { filter with modelComponent := x }

namespace Process
variable (p : Process)

def holdsString : StringHolder → Option Nat
  | .property i property => (p.filters i).bind fun filter => filter.string property
  | .value v => p.values v

def holdsClient (i : Nat) : Option Nat := (p.filters i).bind fun filter => filter.inferenceClient

/-- **Everything allocated has one owner.**  Statuses and results do not outlive
the call that made them; the caps of the probe are all still there. -/
structure Owned : Prop where
  strings : p.memory.strings.Partitioned p.holdsString
  clients : p.memory.clients.Partitioned p.holdsClient
  client : ∀ i filter, p.filters i = some filter → filter.inferenceClient ≠ none
  fresh : ∀ i, p.filterCount ≤ i → p.filters i = none
  statuses : ∀ a, p.memory.statuses.object a = none
  results : ∀ a, p.memory.results.object a = none
  anyCaps : ∀ a, p.memory.anyCaps.object a = none ↔ p.memory.anyCaps.next ≤ a

/-- What a holder's string says. -/
def text : StringHolder → Option String := p.memory.strings.contents p.holdsString

/-- The client an instance points to. -/
def client : Nat → Option LookoutVisionInferenceClient := p.memory.clients.contents p.holdsClient

/-- What an instance stands for. -/
def denoteFilter (i : Nat) (filter : OnHeap.GstLookoutVision) : Option GstLookoutVision :=
  (p.client i).map fun client =>
    filter.value client (p.text (.property i .serverSocket)) (p.text (.property i .modelComponent))

/-- **What a process stands for.** -/
def denote : Application where
  kernel := p.kernel
  filters := fun i => (p.filters i).bind (p.denoteFilter i)
  filterCount := p.filterCount
  values := fun v => p.text (.value v)
  probed := p.memory.anyCaps.next

end Process

section
variable {p : Process} {i : Nat} {filter filter' : OnHeap.GstLookoutVision}
  {e : OnHeap.Element}

/-! ## Entries and holders -/

theorem start_owned (k : Kernel) : (Process.start k).Owned where
  strings := by
    have hnone : (Process.start k).holdsString = fun _ => none := by
      funext holder
      cases holder <;> rfl
    rw [hnone]
    exact .empty
  clients := .empty
  client := by
    intro i filter h
    cases h
  fresh := fun _ _ => rfl
  statuses := fun _ => rfl
  results := fun _ => rfl
  anyCaps := fun a => ⟨fun _ => Nat.zero_le a, fun _ => rfl⟩

theorem denote_start (k : Kernel) : (Process.start k).denote = Application.start k := by
  simp only [Process.denote, Application.start, Process.start, Option.bind_none]
  rfl

@[simp] theorem filters_put_self (x : Option OnHeap.GstLookoutVision) :
    (p.put i x e).filters i = x :=
  Function.update_self ..

theorem filters_put_of_ne {j : Nat} (hj : j ≠ i) (x : Option OnHeap.GstLookoutVision) :
    (p.put i x e).filters j = p.filters j :=
  Function.update_of_ne hj ..

theorem holdsString_put_of_ne {j : Nat} {property : StringProperty} (hj : j ≠ i)
    (x : Option OnHeap.GstLookoutVision) :
    (p.put i x e).holdsString (.property j property) = p.holdsString (.property j property) := by
  simp only [Process.holdsString, Process.put, Function.update_of_ne hj]

theorem holdsClient_put (x : Option OnHeap.GstLookoutVision) :
    (p.put i x e).holdsClient =
      Function.update p.holdsClient i (x.bind fun filter => filter.inferenceClient) := by
  funext j
  by_cases hj : j = i
  · simp only [hj, Process.holdsClient, Process.put, Function.update_self]
  · simp only [Process.holdsClient, Process.put, Function.update_of_ne hj]

theorem put_put (x y : Option OnHeap.GstLookoutVision) (e' : OnHeap.Element) :
    (p.put i x e').put i y e = p.put i y e := by
  simp only [Process.put, Function.update_idem]

/-- The same pointers: the same holders. -/
theorem holdsString_put_same (hi : p.filters i = some filter)
    (hsame : ∀ property, filter'.string property = filter.string property) :
    (p.put i (some filter') e).holdsString = p.holdsString := by
  funext holder
  cases holder with
  | value v => rfl
  | property j property =>
    by_cases hj : j = i
    · subst hj
      simp only [Process.holdsString, filters_put_self, hi, Option.bind_some, hsame]
    · exact holdsString_put_of_ne hj _

theorem holdsClient_put_same (hi : p.filters i = some filter)
    (hsame : filter'.inferenceClient = filter.inferenceClient) :
    (p.put i (some filter') e).holdsClient = p.holdsClient := by
  funext j
  by_cases hj : j = i
  · subst hj
    simp only [Process.holdsClient, filters_put_self, hi, Option.bind_some, hsame]
  · simp only [Process.holdsClient, filters_put_of_ne hj]

/-- One property assigned: one holder holds something else. -/
theorem holdsString_setString (hi : p.filters i = some filter) (q : Option Nat)
    (property : StringProperty) :
    (p.put i (some (filter.setString q property)) e).holdsString =
      Function.update p.holdsString (.property i property) q := by
  funext holder
  cases holder with
  | value v =>
    rw [Function.update_of_ne (by simp)]
    rfl
  | property j property' =>
    by_cases hj : j = i
    · subst hj
      by_cases hprop : property' = property
      · subst hprop
        rw [Function.update_self]
        simp only [Process.holdsString, filters_put_self, Option.bind_some]
        cases property' <;> rfl
      · rw [Function.update_of_ne (by simp [hprop])]
        simp only [Process.holdsString, filters_put_self, hi, Option.bind_some]
        cases property <;> cases property' <;> first | rfl | exact absurd rfl hprop
    · rw [Function.update_of_ne (by simp [hj])]
      exact holdsString_put_of_ne hj _

/-! ## An entry under way -/

variable {f f' : GstLookoutVision}

/-- What an instance stands for, field by field. -/
theorem denoteFilter_eq_some : p.denoteFilter i filter = some f ↔
    p.client i = some f.inferenceClient ∧ filter.sinkpad = f.sinkpad ∧ filter.width = f.width ∧
      filter.height = f.height ∧ p.text (.property i .serverSocket) = f.serverSocket ∧
      p.text (.property i .modelComponent) = f.modelComponent ∧
      filter.modelStatusTimeout = f.modelStatusTimeout := by
  unfold Process.denoteFilter OnHeap.GstLookoutVision.value
  cases hc : p.client i with
  | none => simp
  | some client =>
    simp only [Option.map_some, Option.some.injEq]
    constructor
    · rintro rfl
      exact ⟨rfl, rfl, rfl, rfl, rfl, rfl, rfl⟩
    · rintro ⟨hclient, hsinkpad, hwidth, hheight, hsocket, hcomponent, htimeout⟩
      rw [hclient, hsinkpad, hwidth, hheight, hsocket, hcomponent, htimeout]

theorem denoteFilter_congr {p' : Process} (hclient : p'.client i = p.client i)
    (htext : ∀ property, p'.text (.property i property) = p.text (.property i property)) :
    p'.denoteFilter i = p.denoteFilter i := by
  funext filter
  simp only [Process.denoteFilter, hclient, htext]

/-- What is done to one instance changes what it stands for, and no other. -/
theorem denote_put {x : Option OnHeap.GstLookoutVision} {g : Option GstLookoutVision}
    (hfilter : x.bind ((p.put i x e).denoteFilter i) = g)
    (htext : ∀ holder, (∀ property, holder ≠ .property i property) →
      (p.put i x e).text holder = p.text holder)
    (hclient : ∀ j, j ≠ i → (p.put i x e).client j = p.client j) :
    (p.put i x e).denote =
      { p.denote.setFilter i g e.kernel with probed := e.memory.anyCaps.next } := by
  have hfilters : (p.put i x e).denote.filters = Function.update p.denote.filters i g := by
    funext j
    by_cases hj : j = i
    · subst hj
      simp only [Process.denote, filters_put_self, Function.update_self]
      exact hfilter
    · simp only [Process.denote, Function.update_of_ne hj]
      rw [filters_put_of_ne hj, denoteFilter_congr (hclient j hj)
        fun property => htext (.property j property) (by simp [hj])]
  have hvalues : (p.put i x e).denote.values = p.denote.values :=
    funext fun v => htext (.value v) (by simp)
  simp only [Process.denote, Application.setFilter] at hfilters hvalues ⊢
  rw [hfilters, hvalues]
  rfl

/-- Instance `i` of a process in order stands for `f`. -/
structure Instantiates (p : Process) (i : Nat) (filter : OnHeap.GstLookoutVision)
    (f : GstLookoutVision) : Prop where
  owned : p.Owned
  found : p.filters i = some filter
  denotes : p.denoteFilter i filter = some f

/-- What an entry into instance `i` has made of it so far: the process, with the
instance as it is now, is in order and stands for the application with `f`. -/
structure Stands (p : Process) (i : Nat) (e : OnHeap.Element) (f : GstLookoutVision) : Prop where
  owned : (p.put i (some e.filter) e).Owned
  denotes : (p.put i (some e.filter) e).denote =
    { p.denote.setFilter i (some f) e.kernel with probed := e.memory.anyCaps.next }

/-- The entry goes on from where it is. -/
theorem Stands.instantiates (h : Stands p i e f) :
    Instantiates (p.put i (some e.filter) e) i e.filter f := by
  refine ⟨h.owned, filters_put_self _, ?_⟩
  have hfilter := congrFun (congrArg Application.filters h.denotes) i
  simp only [Process.denote, Process.put, Application.setFilter, Function.update_self,
    Option.bind_some] at hfilter
  exact hfilter

theorem Stands.trans {e' : OnHeap.Element} (h : Stands p i e f)
    (h' : Stands (p.put i (some e.filter) e) i e' f') : Stands p i e' f' := by
  obtain ⟨howned, hdenotes⟩ := h'
  rw [put_put] at howned hdenotes
  refine ⟨howned, hdenotes.trans ?_⟩
  rw [h.denotes]
  simp only [Application.setFilter, Function.update_idem]

/-- What an entry has to leave to be in order. -/
theorem Instantiates.stands (h : Instantiates p i filter f)
    (hstrings : e.memory.strings.Partitioned (p.put i (some e.filter) e).holdsString)
    (htext : ∀ holder, (∀ property, holder ≠ .property i property) →
      (p.put i (some e.filter) e).text holder = p.text holder)
    (hclients : e.memory.clients.Partitioned (p.put i (some e.filter) e).holdsClient)
    (hclient : ∀ j, j ≠ i → (p.put i (some e.filter) e).client j = p.client j)
    (hpointer : e.filter.inferenceClient = filter.inferenceClient)
    (hstatuses : ∀ a, e.memory.statuses.object a = none)
    (hresults : ∀ a, e.memory.results.object a = none)
    (hcaps : ∀ a, e.memory.anyCaps.object a = none ↔ e.memory.anyCaps.next ≤ a)
    (hfilter : (p.put i (some e.filter) e).denoteFilter i e.filter = some f') :
    Stands p i e f' where
  owned :=
    { strings := hstrings
      clients := hclients
      client := by
        intro j x hj
        by_cases hji : j = i
        · subst hji
          rw [filters_put_self] at hj
          obtain rfl := Option.some.inj hj
          rw [hpointer]
          exact h.owned.client _ _ h.found
        · rw [filters_put_of_ne hji] at hj
          exact h.owned.client j x hj
      fresh := by
        intro j hle
        have hji : j ≠ i := by
          rintro rfl
          have hnone := h.owned.fresh j hle
          rw [h.found] at hnone
          cases hnone
        rw [filters_put_of_ne hji]
        exact h.owned.fresh j hle
      statuses := hstatuses
      results := hresults
      anyCaps := hcaps }
  denotes := denote_put ((Option.bind_some ..).trans hfilter) htext hclient

/-! ## What the statements of an entry do -/

/-- **A string assigned** to a property. -/
theorem Instantiates.setString (h : Instantiates p i filter f) (property : StringProperty)
    {strings : OwnedHeap String} {q : Option Nat} {x : Option String}
    (howned : strings.Partitioned (Function.update p.holdsString (.property i property) q))
    (hcontents : strings.contents (Function.update p.holdsString (.property i property) q) =
      Function.update p.text (.property i property) x) :
    Stands p i ⟨filter.setString q property, p.kernel, { p.memory with strings := strings }⟩
      (f.setString x property) := by
  have hpointer : (filter.setString q property).inferenceClient = filter.inferenceClient := by
    cases property <;> rfl
  generalize he : (⟨filter.setString q property, p.kernel, { p.memory with strings := strings }⟩ :
    OnHeap.Element) = e
  have hholds : (p.put i (some (filter.setString q property)) e).holdsString =
      Function.update p.holdsString (.property i property) q := holdsString_setString h.found q _
  have htext : (p.put i (some (filter.setString q property)) e).text =
      Function.update p.text (.property i property) x := by
    rw [← hcontents, ← hholds, ← he]
    rfl
  have hholdsClient : (p.put i (some (filter.setString q property)) e).holdsClient =
      p.holdsClient := holdsClient_put_same h.found hpointer
  have hclient : (p.put i (some (filter.setString q property)) e).client = p.client := by
    rw [Process.client, hholdsClient, ← he]
    rfl
  subst he
  refine h.stands ?_ ?_ ?_ ?_ hpointer h.owned.statuses h.owned.results h.owned.anyCaps ?_
  · rw [hholds]
    exact howned
  · intro holder hother
    rw [htext, Function.update_of_ne (hother property)]
  · rw [hholdsClient]
    exact h.owned.clients
  · intro j _
    rw [hclient]
  · obtain ⟨hc, hsinkpad, hwidth, hheight, hsocket, hcomponent, htimeout⟩ :=
      denoteFilter_eq_some.mp h.denotes
    rw [denoteFilter_eq_some, hclient, htext]
    cases property with
    | serverSocket =>
      refine ⟨hc, hsinkpad, hwidth, hheight, Function.update_self .., ?_, htimeout⟩
      rw [Function.update_of_ne (by simp)]
      exact hcomponent
    | modelComponent =>
      refine ⟨hc, hsinkpad, hwidth, hheight, ?_, Function.update_self .., htimeout⟩
      rw [Function.update_of_ne (by simp)]
      exact hsocket

/-- **The client assigned to.** -/
theorem Instantiates.setClient (h : Instantiates p i filter f)
    {clients : OwnedHeap LookoutVisionInferenceClient} {c : LookoutVisionInferenceClient}
    (howned : clients.Partitioned p.holdsClient)
    (hcontents : clients.contents p.holdsClient = Function.update p.client i (some c)) :
    Stands p i ⟨filter, p.kernel, { p.memory with clients := clients }⟩
      { f with inferenceClient := c } := by
  generalize he : (⟨filter, p.kernel, { p.memory with clients := clients }⟩ : OnHeap.Element) = e
  have hholds : (p.put i (some filter) e).holdsString = p.holdsString :=
    holdsString_put_same h.found fun _ => rfl
  have htext : (p.put i (some filter) e).text = p.text := by
    rw [Process.text, hholds, ← he]
    rfl
  have hholdsClient : (p.put i (some filter) e).holdsClient = p.holdsClient :=
    holdsClient_put_same h.found rfl
  have hclient : (p.put i (some filter) e).client = Function.update p.client i (some c) := by
    rw [← hcontents, Process.client, hholdsClient, ← he]
    rfl
  subst he
  refine h.stands ?_ ?_ ?_ ?_ rfl h.owned.statuses h.owned.results h.owned.anyCaps ?_
  · rw [hholds]
    exact h.owned.strings
  · intro holder _
    rw [htext]
  · rw [hholdsClient]
    exact howned
  · intro j hj
    rw [hclient, Function.update_of_ne hj]
  · obtain ⟨-, hsinkpad, hwidth, hheight, hsocket, hcomponent, htimeout⟩ :=
      denoteFilter_eq_some.mp h.denotes
    rw [denoteFilter_eq_some, hclient, htext]
    exact ⟨Function.update_self .., hsinkpad, hwidth, hheight, hsocket, hcomponent, htimeout⟩

/-- **Everything else**: what the strings and the client say stays. -/
theorem Instantiates.frame (h : Instantiates p i filter f)
    (hpointers : ∀ property, e.filter.string property = filter.string property)
    (hpointer : e.filter.inferenceClient = filter.inferenceClient)
    (hstrings : e.memory.strings = p.memory.strings)
    (hclients : e.memory.clients = p.memory.clients)
    (hstatuses : ∀ a, e.memory.statuses.object a = none)
    (hresults : ∀ a, e.memory.results.object a = none)
    (hcaps : ∀ a, e.memory.anyCaps.object a = none ↔ e.memory.anyCaps.next ≤ a) :
    Stands p i e { f with
      sinkpad := e.filter.sinkpad
      width := e.filter.width
      height := e.filter.height
      modelStatusTimeout := e.filter.modelStatusTimeout } := by
  have hholds : (p.put i (some e.filter) e).holdsString = p.holdsString :=
    holdsString_put_same h.found hpointers
  have htext : (p.put i (some e.filter) e).text = p.text := by
    rw [Process.text, hholds]
    exact congrArg (OwnedHeap.contents · p.holdsString) hstrings
  have hholdsClient : (p.put i (some e.filter) e).holdsClient = p.holdsClient :=
    holdsClient_put_same h.found hpointer
  have hclient : (p.put i (some e.filter) e).client = p.client := by
    rw [Process.client, hholdsClient]
    exact congrArg (OwnedHeap.contents · p.holdsClient) hclients
  refine h.stands ?_ ?_ ?_ ?_ hpointer hstatuses hresults hcaps ?_
  · rw [hholds, hstrings]
    exact h.owned.strings
  · intro holder _
    rw [htext]
  · rw [hholdsClient, hclients]
    exact h.owned.clients
  · intro j _
    rw [hclient]
  · obtain ⟨hc, -, -, -, hsocket, hcomponent, -⟩ := denoteFilter_eq_some.mp h.denotes
    rw [denoteFilter_eq_some, hclient, htext]
    exact ⟨hc, rfl, rfl, rfl, hsocket, hcomponent, rfl⟩

/-! ## The functions of the element -/

/-- A string is read as the `std::string` its text is. -/
theorem Process.Owned.stdString_ok (ho : p.Owned) (holder : StringHolder) :
    p.memory.stdString (p.holdsString holder) = Memory.plugin (stdString (p.text holder)) := by
  cases hholder : p.holdsString holder with
  | none =>
    rw [Process.text, OwnedHeap.contents_of_none hholder]
    rfl
  | some a =>
    obtain ⟨text, htext⟩ := ho.strings.object_of_holds hholder
    rw [Process.text, OwnedHeap.contents_of_some hholder, htext]
    simp only [Memory.stdString, OwnedHeap.read_of_object htext]
    rfl

theorem Instantiates.string (h : Instantiates p i filter f) (property : StringProperty) :
    p.holdsString (.property i property) = filter.string property := by
  simp only [Process.holdsString, h.found, Option.bind_some]

theorem Instantiates.text (h : Instantiates p i filter f) (property : StringProperty) :
    p.text (.property i property) = property.get f := by
  obtain ⟨-, -, -, -, hsocket, hcomponent, -⟩ := denoteFilter_eq_some.mp h.denotes
  cases property with
  | serverSocket => exact hsocket
  | modelComponent => exact hcomponent

theorem Instantiates.holdsClient (h : Instantiates p i filter f) :
    p.holdsClient i = filter.inferenceClient := by
  simp only [Process.holdsClient, h.found, Option.bind_some]

theorem Instantiates.client (h : Instantiates p i filter f) :
    p.client i = some f.inferenceClient :=
  (denoteFilter_eq_some.mp h.denotes).1

theorem Instantiates.readClient (h : Instantiates p i filter f) :
    p.memory.clients.read filter.inferenceClient = .ok f.inferenceClient := by
  rw [← h.holdsClient]
  exact OwnedHeap.read_of_contents h.client

/-- An instance has what it stands for where that is no pointer. -/
theorem Instantiates.eta (h : Instantiates p i filter f) :
    { f with
      sinkpad := filter.sinkpad
      width := filter.width
      height := filter.height
      modelStatusTimeout := filter.modelStatusTimeout } = f := by
  obtain ⟨-, hsinkpad, hwidth, hheight, -, -, htimeout⟩ := denoteFilter_eq_some.mp h.denotes
  rw [hsinkpad, hwidth, hheight, htimeout]

/-- What leaves the strings, the clients and the instance alone leaves what it
stands for. -/
theorem Instantiates.keep (h : Instantiates p i filter f) {memory : Memory} (k : Kernel)
    (hstrings : memory.strings = p.memory.strings) (hclients : memory.clients = p.memory.clients)
    (hstatuses : ∀ a, memory.statuses.object a = none)
    (hresults : ∀ a, memory.results.object a = none)
    (hcaps : ∀ a, memory.anyCaps.object a = none ↔ memory.anyCaps.next ≤ a) :
    Stands p i ⟨filter, k, memory⟩ f := by
  rw [← h.eta]
  exact h.frame (fun _ => rfl) rfl hstrings hclients hstatuses hresults hcaps

/-- **`g_free`, then `g_strdup`** of a value's string. -/
theorem Instantiates.reassign (h : Instantiates p i filter f) (property : StringProperty)
    (v : Nat) :
    ∃ strings₁ strings₂ q,
      p.memory.gFree (filter.string property) = .ok { p.memory with strings := strings₁ } ∧
      Memory.gStrdup { p.memory with strings := strings₁ } (p.values v) =
        .ok ({ p.memory with strings := strings₂ }, q) ∧
      Stands p i ⟨filter.setString q property, p.kernel, { p.memory with strings := strings₂ }⟩
        (f.setString (p.text (.value v)) property) := by
  obtain ⟨strings₁, strings₂, q, hdelete, hdup, howned, hcontents⟩ :=
    h.owned.strings.delete_dup_ok (i := .property i property) (j := .value v) (by simp)
  rw [h.string property] at hdelete
  have hdup' : strings₁.dup (p.values v) = .ok (strings₂, q) := hdup
  refine ⟨strings₁, strings₂, q, ?_, ?_, h.setString property howned hcontents⟩
  · simp only [Memory.gFree, hdelete]
    rfl
  · simp only [Memory.gStrdup, hdup']
    rfl

/-- **The client replaced** by another value of it. -/
theorem Instantiates.writeClient (h : Instantiates p i filter f)
    (c : LookoutVisionInferenceClient) :
    ∃ clients, p.memory.clients.write filter.inferenceClient c = .ok clients ∧
      Stands p i ⟨filter, p.kernel, { p.memory with clients := clients }⟩
        { f with inferenceClient := c } := by
  obtain ⟨clients, hwrite, howned, hcontents, -⟩ := h.owned.clients.write_ok h.client c
  rw [h.holdsClient] at hwrite
  exact ⟨clients, hwrite, h.setClient howned hcontents⟩

/-- **`StartModel`** leaves nothing behind. -/
theorem Instantiates.startOn_ok (h : Instantiates p i filter f) (env : Environment)
    (component : String) :
    ∃ statuses, OnHeap.startOn env (p.element filter) component =
        .ok (⟨filter, p.kernel, { p.memory with statuses := statuses }⟩,
          (f.start env component).status, f.startEffects env component) ∧
      Stands p i ⟨filter, p.kernel, { p.memory with statuses := statuses }⟩ f := by
  obtain ⟨-, -, -, -, -, -, htimeout⟩ := denoteFilter_eq_some.mp h.denotes
  obtain ⟨statuses, hwait, hobject, -⟩ := OnHeap.waitLoop_frees env f.inferenceClient component
    .running f.modelStatusTimeout.toInt32.toInt env.clock 0 env.clock p.memory.statuses
  have hstart := OnHeap.startModel_of_wait env f.inferenceClient component hwait
  refine ⟨statuses, ?_, ?_⟩
  · simp only [OnHeap.startOn, Process.element, h.readClient, htimeout, Memory.heap, bind,
      Except.bind, hstart]
    rfl
  · refine h.keep _ rfl rfl (fun a => ?_) h.owned.results h.owned.anyCaps
    rw [hobject]
    exact h.owned.statuses a

/-- An entry has left what the entry without pointers left, and done what it did. -/
structure Matches (p : Process) (i : Nat) (x : OnHeap.Element × List Effect)
    (y : Element × List Effect) : Prop where
  stands : Stands p i x.1 y.1.filter
  kernel : x.1.kernel = y.1.kernel
  anyCaps : x.1.memory.anyCaps = p.memory.anyCaps
  effects : x.2 = y.2

/-- What faults without pointers faults with them, and in no other way. -/
def SameFault (x : MemoryFault) (y : Fault) : Prop := x = .plugin y

theorem setModelComponent_agree (h : Instantiates p i filter f) (env : Environment) (v : Nat) :
    EndAlike (Matches p i) SameFault
      (OnHeap.setModelComponent env (p.element filter) (p.values v))
      (elementStep ⟨f, p.kernel⟩
        ⟨.setProperty (.modelComponent (p.text (.value v))), env⟩) := by
  have hread : (p.element filter).memory.stdString (p.values v) =
      Memory.plugin (stdString (p.text (.value v))) := h.owned.stdString_ok (.value v)
  unfold OnHeap.setModelComponent
  rw [hread]
  cases htext : p.text (.value v) with
  | none => exact .of_error rfl rfl rfl
  | some component =>
    obtain ⟨statuses, hstart, hstands⟩ := h.startOn_ok env component
    simp only [Memory.plugin, stdString, bind, Except.bind, hstart]
    by_cases hs : (f.start env component).status = .successful
    · obtain ⟨strings₁, strings₂, q, hfree, hdup, hassigned⟩ :=
        hstands.instantiates.reassign .modelComponent v
      have hfree' : Memory.gFree { p.memory with statuses := statuses } filter.modelComponent =
        .ok { p.memory with statuses := statuses, strings := strings₁ } := hfree
      have hdup' : Memory.gStrdup { p.memory with statuses := statuses, strings := strings₁ }
          (p.values v) =
        .ok ({ p.memory with statuses := statuses, strings := strings₂ }, q) := hdup
      rw [if_pos hs]
      simp only [hfree', hdup', elementStep, setProperty_modelComponent, hs, if_true]
      refine .ok ⟨?_, rfl, rfl, rfl⟩
      have hvalue : (p.put i (some filter) ⟨filter, p.kernel,
          { p.memory with statuses := statuses }⟩).text (.value v) = some component := htext
      rw [hvalue] at hassigned
      exact hstands.trans hassigned
    · rw [if_neg hs]
      simp only [elementStep, setProperty_modelComponent, hs, if_false]
      exact .ok ⟨hstands, rfl, rfl, rfl⟩

/-- The restart on a new address. -/
theorem Instantiates.restart_ok (h : Instantiates p i filter f) (env : Environment) :
    ∃ statuses, OnHeap.restart env (p.element filter) =
        .ok (⟨filter, p.kernel, { p.memory with statuses := statuses }⟩,
          match f.modelComponent with
          | none => []
          | some component => f.startEffects env component) ∧
      Stands p i ⟨filter, p.kernel, { p.memory with statuses := statuses }⟩ f := by
  have hread := h.owned.stdString_ok (.property i .modelComponent)
  have hcomponent : p.text (.property i .modelComponent) = f.modelComponent :=
    h.text .modelComponent
  have hstring : p.holdsString (.property i .modelComponent) = filter.modelComponent :=
    h.string .modelComponent
  rw [hstring, hcomponent] at hread
  have hnone : filter.modelComponent = none ↔ f.modelComponent = none := by
    rw [← hstring, ← hcomponent, Process.text, h.owned.strings.contents_eq_none_iff]
  unfold OnHeap.restart
  cases hm : f.modelComponent with
  | none =>
    refine ⟨p.memory.statuses, ?_,
      h.keep _ rfl rfl h.owned.statuses h.owned.results h.owned.anyCaps⟩
    rw [show (p.element filter).filter.modelComponent = none from hnone.mpr hm]
    rfl
  | some component =>
    have hsome : filter.modelComponent ≠ none := by
      rw [Ne, hnone, hm]
      exact Option.some_ne_none component
    obtain ⟨a, ha⟩ := Option.ne_none_iff_exists'.mp hsome
    obtain ⟨statuses, hstart, hstands⟩ := h.startOn_ok env component
    rw [ha, hm] at hread
    have hread' : (p.element filter).memory.stdString (some a) = .ok component := hread
    refine ⟨statuses, ?_, hstands⟩
    rw [show (p.element filter).filter.modelComponent = some a from ha]
    simp only [hread', hstart, bind, Except.bind]
    rfl

/-- The new address, in the property and in the client. -/
theorem readdress_agree (h : Instantiates p i filter f) (v : Nat) :
    EndAlike (fun e socket => Stands p i e (f.readdressed socket) ∧ e.kernel = p.kernel ∧
        e.memory.anyCaps = p.memory.anyCaps) SameFault
      (OnHeap.readdress (p.element filter) (p.values v)) (stdString (p.text (.value v))) := by
  obtain ⟨strings₁, strings₂, q, hfree, hdup, hassigned⟩ := h.reassign .serverSocket v
  have hfree' : (p.element filter).memory.gFree (p.element filter).filter.serverSocket =
    .ok { p.memory with strings := strings₁ } := hfree
  -- The new string is read back from the property.
  have hread := hassigned.instantiates.owned.stdString_ok (.property i .serverSocket)
  rw [hassigned.instantiates.string .serverSocket, hassigned.instantiates.text .serverSocket]
    at hread
  have hread' : Memory.stdString { p.memory with strings := strings₂ } q =
    Memory.plugin (stdString (p.text (.value v))) := hread
  unfold OnHeap.readdress
  simp only [hfree', hdup, hread', bind, Except.bind]
  cases htext : p.text (.value v) with
  | none => exact .error rfl
  | some socket =>
    rw [htext] at hassigned
    obtain ⟨clients, hwrite, hwritten⟩ :=
      hassigned.instantiates.writeClient (f.inferenceClient.setServerSocket socket)
    have hwrite' : p.memory.clients.write (p.element filter).filter.inferenceClient
      (f.inferenceClient.setServerSocket socket) = .ok clients := hwrite
    have hclient : p.memory.clients.read (p.element filter).filter.inferenceClient =
      .ok f.inferenceClient := h.readClient
    simp only [Memory.plugin, stdString, Memory.heap, hclient, hwrite']
    exact .ok ⟨hassigned.trans hwritten, rfl, rfl⟩

theorem setServerSocket_agree (h : Instantiates p i filter f) (env : Environment) (v : Nat) :
    EndAlike (Matches p i) SameFault
      (OnHeap.setServerSocket env (p.element filter) (p.values v))
      (elementStep ⟨f, p.kernel⟩
        ⟨.setProperty (.serverSocket (p.text (.value v))), env⟩) := by
  have hreaddress := readdress_agree h v
  cases htext : p.text (.value v) with
  | none =>
    rw [htext] at hreaddress
    obtain ⟨fault, hrun, hsame⟩ := hreaddress.error_right
    refine .of_error ?_ rfl hsame
    simp only [OnHeap.setServerSocket, hrun, bind, Except.bind]
  | some socket =>
    rw [htext] at hreaddress
    obtain ⟨e, hrun, hstands, hkernel, hcaps⟩ := hreaddress.ok_right
    obtain ⟨statuses, hrestart, hrestarted⟩ := hstands.instantiates.restart_ok env
    have hrestart' : OnHeap.restart env e = _ := hrestart
    simp only [OnHeap.setServerSocket, hrun, bind, Except.bind, elementStep,
      setProperty_serverSocket]
    rw [hrestart']
    exact .ok ⟨hstands.trans hrestarted, hkernel, hcaps, rfl⟩

/-- The result a chain function works on, and what the element without pointers
makes of the frame. -/
theorem inferenceResult_agree (h : Instantiates p i filter f) (env : Environment)
    (buf : GstBuffer) :
    EndAlike (fun x c => ∃ clients, x.1 = ⟨filter, c.element.kernel, { p.memory with
          clients := clients, results := (p.memory.results.new c.result).1 }⟩ ∧
        Stands p i ⟨filter, p.kernel, { p.memory with clients := clients }⟩ c.element.filter ∧
        x.2 = (c.calls, p.memory.results.next) ∧
        c.pushed = [(gstBufferAddLookoutVisionMeta buf c.result).1]) SameFault
      (OnHeap.inferenceResult env (p.element filter) buf)
      (gstLookoutVisionChain env ⟨f, p.kernel⟩ buf) := by
  have hread := h.owned.stdString_ok (.property i .modelComponent)
  have hcomponent : p.text (.property i .modelComponent) = f.modelComponent :=
    h.text .modelComponent
  have hstring : p.holdsString (.property i .modelComponent) = filter.modelComponent :=
    h.string .modelComponent
  have hnone : filter.modelComponent = none ↔ f.modelComponent = none := by
    rw [← hstring, ← hcomponent, Process.text, h.owned.strings.contents_eq_none_iff]
  rw [hstring, hcomponent] at hread
  unfold OnHeap.inferenceResult
  cases hm : f.modelComponent with
  | none =>
    rw [chain_unset hm, show (p.element filter).filter.modelComponent = none from hnone.mpr hm]
    refine .ok ⟨p.memory.clients, rfl, ?_, rfl, rfl⟩
    exact h.keep _ rfl rfl h.owned.statuses h.owned.results h.owned.anyCaps
  | some component =>
    have hsome : filter.modelComponent ≠ none := by
      rw [Ne, hnone, hm]
      exact Option.some_ne_none component
    obtain ⟨a, ha⟩ := Option.ne_none_iff_exists'.mp hsome
    rw [ha, hm] at hread
    have hread' : (p.element filter).memory.stdString (some a) = .ok component := hread
    have hclient : (p.element filter).memory.clients.read
      (p.element filter).filter.inferenceClient = .ok f.inferenceClient := h.readClient
    obtain ⟨-, -, hwidth, hheight, -, -, -⟩ := denoteFilter_eq_some.mp h.denotes
    rw [show (p.element filter).filter.modelComponent = some a from ha]
    simp only [hread', hclient, Memory.heap, bind, Except.bind]
    rw [show (p.element filter).filter.width = f.width from hwidth,
      show (p.element filter).filter.height = f.height from hheight,
      show (p.element filter).kernel = p.kernel from rfl]
    cases hd : f.inferenceClient.detectAnomalies env p.kernel component buf.data
        (sizeT f.width) (sizeT f.height) with
    | error fault =>
      rw [chain_fault (e := ⟨f, p.kernel⟩) hm hd]
      exact .error rfl
    | ok d =>
      rw [chain_set (e := ⟨f, p.kernel⟩) hm hd]
      obtain ⟨clients, hwrite, hwritten⟩ := h.writeClient d.client
      have hwrite' : (p.element filter).memory.clients.write
        (p.element filter).filter.inferenceClient d.client = .ok clients := hwrite
      simp only [Memory.plugin, hwrite']
      exact .ok ⟨clients, rfl, hwritten, rfl, rfl⟩

/-- **The chain function.** -/
theorem chain_agree (h : Instantiates p i filter f) (env : Environment) (buf : GstBuffer) :
    EndAlike (Matches p i) SameFault (OnHeap.gstLookoutVisionChain env (p.element filter) buf)
      (elementStep ⟨f, p.kernel⟩ ⟨.chain buf, env⟩) := by
  have hresult := inferenceResult_agree h env buf
  simp only [elementStep]
  unfold OnHeap.gstLookoutVisionChain
  generalize OnHeap.inferenceResult env (p.element filter) buf = x at hresult ⊢
  generalize gstLookoutVisionChain env ⟨f, p.kernel⟩ buf = y at hresult ⊢
  cases hresult with
  | error hsame => exact .error hsame
  | @ok x c hx =>
    obtain ⟨e, calls, result⟩ := x
    obtain ⟨clients, rfl, hstands, hcalls, hpushed⟩ := hx
    obtain ⟨rfl, rfl⟩ := Prod.mk.inj hcalls
    have hnew : (p.memory.results.new c.result).1.object p.memory.results.next = some c.result :=
      OwnedHeap.object_new_self
    obtain ⟨hlt, hdelete⟩ := OwnedHeap.delete_of_object hnew
    simp only [OwnedHeap.read_of_object hnew, hdelete, Memory.heap, bind, Except.bind]
    have heffects : c.calls.map Effect.call ++
        [.push (gstBufferAddLookoutVisionMeta buf c.result).1] = c.effects := by
      rw [Chained.effects, hpushed]
      rfl
    refine .ok ⟨?_, rfl, rfl, heffects⟩
    -- The result has come and gone.
    refine hstands.trans (hstands.instantiates.keep c.element.kernel rfl rfl
      h.owned.statuses (fun a => ?_) h.owned.anyCaps)
    by_cases ha : a = p.memory.results.next
    · rw [ha]
      exact OwnedHeap.object_put_self none hlt
    · show ((p.memory.results.new c.result).1.put p.memory.results.next none hlt).object a = none
      rw [OwnedHeap.object_put_of_ne _ _ ha, OwnedHeap.object_new_of_ne ha]
      exact h.owned.results a

/-- **An event on the sink pad.** -/
theorem sinkEvent_stands (h : Instantiates p i filter f) (event : GstEvent) :
    Stands p i (OnHeap.gstLookoutVisionSinkEvent (p.element filter) event)
        (gstLookoutVisionSinkEvent f event) ∧
      (OnHeap.gstLookoutVisionSinkEvent (p.element filter) event).kernel = p.kernel ∧
      (OnHeap.gstLookoutVisionSinkEvent (p.element filter) event).memory.anyCaps.next =
        p.memory.anyCaps.next + Application.seen f event := by
  obtain ⟨-, hsinkpad, -⟩ := denoteFilter_eq_some.mp h.denotes
  have hcaps : ∀ a, (p.memory.anyCaps.new ()).1.object a = none ↔
      (p.memory.anyCaps.new ()).1.next ≤ a := by
    intro a
    show _ ↔ p.memory.anyCaps.next + 1 ≤ a
    by_cases ha : a = p.memory.anyCaps.next
    · rw [ha, OwnedHeap.object_new_self]
      simp
    · rw [OwnedHeap.object_new_of_ne ha, h.owned.anyCaps]
      omega
  unfold OnHeap.gstLookoutVisionSinkEvent gstLookoutVisionSinkEvent
  rw [show (p.element filter).filter.sinkpad = f.sinkpad from hsinkpad]
  by_cases hprobe : f.sinkpad.probe = true
  · rw [if_pos hprobe, if_pos hprobe]
    cases event with
    | other =>
      exact ⟨h.keep _ rfl rfl h.owned.statuses h.owned.results h.owned.anyCaps, rfl, rfl⟩
    | caps caps =>
      obtain ⟨width, height⟩ := caps
      have hseen : p.memory.anyCaps.next + 1 =
          p.memory.anyCaps.next + Application.seen f (.caps ⟨width, height⟩) := by
        simp only [Application.seen, hprobe, if_true]
      have hremoved : Stands p i ⟨{ filter with sinkpad := ⟨false⟩ }, p.kernel,
          { p.memory with anyCaps := (p.memory.anyCaps.new ()).1 }⟩
          { f with sinkpad := ⟨false⟩ } := by
        rw [← h.eta]
        exact h.frame (fun property => by cases property <;> rfl) rfl rfl rfl h.owned.statuses
          h.owned.results hcaps
      -- Only two integers move the dimensions; anything else takes the probe away.
      cases width with
      | none => exact ⟨hremoved, rfl, hseen⟩
      | some width =>
        cases height with
        | none => exact ⟨hremoved, rfl, hseen⟩
        | some height =>
          refine ⟨?_, rfl, hseen⟩
          show Stands p i _ { f with width := width, height := height }
          rw [← h.eta]
          exact h.frame (fun property => by cases property <;> rfl) rfl rfl rfl h.owned.statuses
            h.owned.results hcaps
  · rw [if_neg hprobe, if_neg hprobe]
    refine ⟨h.keep _ rfl rfl h.owned.statuses h.owned.results h.owned.anyCaps, rfl, ?_⟩
    cases event with
    | other => rfl
    | caps caps =>
      simp only [Application.seen, hprobe, Bool.false_eq_true, if_false]
      rfl

/-- The timeout is no object. -/
theorem setTimeout_stands (h : Instantiates p i filter f) (timeout : UInt32) :
    Stands p i (p.element { filter with modelStatusTimeout := timeout })
      { f with modelStatusTimeout := timeout } := by
  rw [← h.eta]
  exact h.frame (fun property => by cases property <;> rfl) rfl rfl rfl h.owned.statuses
    h.owned.results h.owned.anyCaps

/-! ## Instances that come and go, and the application's values -/

/-- **`g_value_set_string`** of a text that has just been copied. -/
theorem setString_ok (ho : p.Owned) (v : Nat) (x : Option String) :
    ∃ p', p.gValueSetString v (p.memory.gStrdupLiteral x) = .ok p' ∧ p'.Owned ∧
      p'.denote = { p.denote with values := Function.update p.denote.values v x } := by
  obtain ⟨strings, hdelete, howned, hcontents⟩ := ho.strings.newOf_delete_ok (.value v) x
  generalize hq : (p.memory.strings.newOf x).2 = q at howned hcontents
  have hdelete' : (p.memory.strings.newOf x).1.delete (p.values v) = .ok strings := hdelete
  generalize hp' : ({ p with
    memory := { p.memory with strings := strings }
    values := Function.update p.values v q } : Process) = p'
  have hholds : p'.holdsString = Function.update p.holdsString (.value v) q := by
    rw [← hp']
    funext holder
    cases holder with
    | property j property =>
      rw [Function.update_of_ne (by simp)]
      rfl
    | value w =>
      by_cases hw : w = v
      · rw [hw, Function.update_self]
        exact Function.update_self ..
      · rw [Function.update_of_ne (by simp [hw])]
        exact Function.update_of_ne hw ..
  have htext : p'.text = Function.update p.text (.value v) x := by
    rw [Process.text, hholds, ← hp']
    exact hcontents
  refine ⟨p', ?_, ?_, ?_⟩
  · simp only [Process.gValueSetString, Memory.gStrdupLiteral, Memory.gFree, hdelete', hq]
    exact congrArg Except.ok hp'
  · refine ⟨?_, ?_, ?_, ?_, ?_, ?_, ?_⟩
    · rw [hholds, ← hp']
      exact howned
    all_goals rw [← hp']
    · exact ho.clients
    · exact ho.client
    · exact ho.fresh
    · exact ho.statuses
    · exact ho.results
    · exact ho.anyCaps
  · have hfilters : p'.denote.filters = p.denote.filters := by
      funext j
      show (p'.filters j).bind (p'.denoteFilter j) = (p.filters j).bind (p.denoteFilter j)
      have hclient : p'.client j = p.client j := by
        rw [← hp']
        rfl
      rw [denoteFilter_congr hclient fun property => by
        rw [htext, Function.update_of_ne (by simp)], ← hp']
    have hvalues : p'.denote.values = Function.update p.denote.values v x := by
      funext w
      simp only [Process.denote, htext]
      by_cases hw : w = v
      · rw [hw, Function.update_self, Function.update_self]
      · rw [Function.update_of_ne (by simp [hw]), Function.update_of_ne hw]
    have hfields : p'.denote = ⟨p'.kernel, p'.denote.filters, p'.filterCount, p'.denote.values,
      p'.memory.anyCaps.next⟩ := rfl
    rw [hfields, hfilters, hvalues, ← hp']
    rfl

theorem gStrdup_ok (ho : p.Owned) (holder : StringHolder) :
    p.memory.gStrdup (p.holdsString holder) = .ok (p.memory.gStrdupLiteral (p.text holder)) := by
  simp only [Memory.gStrdup, ho.strings.dup_ok holder]
  rfl

/-- A new instance holds one string. -/
theorem holdsString_created (hnone : p.filters i = none)
    (hcomponent : filter.modelComponent = none) :
    (p.put i (some filter) e).holdsString =
      Function.update p.holdsString (.property i .serverSocket) filter.serverSocket := by
  funext holder
  cases holder with
  | value v =>
    rw [Function.update_of_ne (by simp)]
    rfl
  | property j property =>
    by_cases hj : j = i
    · subst hj
      cases property with
      | serverSocket =>
        rw [Function.update_self]
        simp only [Process.holdsString, filters_put_self, Option.bind_some]
        rfl
      | modelComponent =>
        rw [Function.update_of_ne (by simp)]
        simp only [Process.holdsString, filters_put_self, hnone, Option.bind_some,
          Option.bind_none]
        exact hcomponent
    · rw [Function.update_of_ne (by simp [hj])]
      exact holdsString_put_of_ne hj _

/-- One more instance, with an address of its own and a client of its own. -/
theorem created_stands (ho : p.Owned) (text : String) (client : LookoutVisionInferenceClient)
    (hstring : e.filter.serverSocket = some p.memory.strings.next)
    (hcomponent : e.filter.modelComponent = none)
    (hclient : e.filter.inferenceClient = some p.memory.clients.next)
    (hmemory : e.memory = { p.memory with
      strings := (p.memory.strings.new text).1
      clients := (p.memory.clients.new client).1 }) :
    Process.Owned { p.put p.filterCount (some e.filter) e with
        filterCount := p.filterCount + 1 } ∧
      (p.put p.filterCount (some e.filter) e).denote = p.denote.setFilter p.filterCount
        (some (e.filter.value client (some text) none)) e.kernel := by
  have hnone : p.filters p.filterCount = none := ho.fresh _ (Nat.le_refl _)
  have hholds : (p.put p.filterCount (some e.filter) e).holdsString = Function.update p.holdsString
      (.property p.filterCount .serverSocket) (some p.memory.strings.next) := by
    rw [← hstring]
    exact holdsString_created hnone hcomponent
  have htext : (p.put p.filterCount (some e.filter) e).text = Function.update p.text
      (.property p.filterCount .serverSocket) (some text) := by
    rw [Process.text, hholds]
    show e.memory.strings.contents _ = _
    rw [hmemory]
    exact ho.strings.contents_new (.property p.filterCount .serverSocket) text
  have hholdsClient : (p.put p.filterCount (some e.filter) e).holdsClient =
      Function.update p.holdsClient p.filterCount (some p.memory.clients.next) := by
    rw [holdsClient_put, Option.bind_some, hclient]
  have hclients : (p.put p.filterCount (some e.filter) e).client =
      Function.update p.client p.filterCount (some client) := by
    rw [Process.client, hholdsClient]
    show e.memory.clients.contents _ = _
    rw [hmemory]
    exact ho.clients.contents_new p.filterCount client
  constructor
  · have hfreeString : p.holdsString (.property p.filterCount .serverSocket) = none := by
      simp only [Process.holdsString, hnone, Option.bind_none]
    have hfreeClient : p.holdsClient p.filterCount = none := by
      simp only [Process.holdsClient, hnone, Option.bind_none]
    refine ⟨?_, ?_, ?_, ?_, ?_, ?_, ?_⟩
    · show e.memory.strings.Partitioned (p.put p.filterCount (some e.filter) e).holdsString
      rw [hholds, hmemory]
      exact ho.strings.new hfreeString text
    · show e.memory.clients.Partitioned (p.put p.filterCount (some e.filter) e).holdsClient
      rw [hholdsClient, hmemory]
      exact ho.clients.new hfreeClient client
    · intro j x hj
      change (p.put p.filterCount (some e.filter) e).filters j = some x at hj
      by_cases hji : j = p.filterCount
      · subst hji
        rw [filters_put_self] at hj
        rw [← Option.some.inj hj, hclient]
        exact Option.some_ne_none _
      · rw [filters_put_of_ne hji] at hj
        exact ho.client j x hj
    · intro j hle
      change p.filterCount + 1 ≤ j at hle
      show (p.put p.filterCount (some e.filter) e).filters j = none
      rw [filters_put_of_ne (by omega)]
      exact ho.fresh j (by omega)
    · show ∀ a, e.memory.statuses.object a = none
      rw [hmemory]
      exact ho.statuses
    · show ∀ a, e.memory.results.object a = none
      rw [hmemory]
      exact ho.results
    · show ∀ a, e.memory.anyCaps.object a = none ↔ e.memory.anyCaps.next ≤ a
      rw [hmemory]
      exact ho.anyCaps
  · have hcaps : e.memory.anyCaps.next = p.memory.anyCaps.next := by rw [hmemory]
    have hfilter : (some e.filter).bind
        ((p.put p.filterCount (some e.filter) e).denoteFilter p.filterCount) =
        some (e.filter.value client (some text) none) := by
      rw [Option.bind_some, denoteFilter_eq_some, hclients, htext]
      refine ⟨Function.update_self .., rfl, rfl, rfl, Function.update_self .., ?_, rfl⟩
      rw [Function.update_of_ne (by simp), Process.text, OwnedHeap.contents_of_none]
      · rfl
      · simp only [Process.holdsString, hnone, Option.bind_none]
    rw [denote_put hfilter, hcaps]
    · rfl
    · intro holder hother
      rw [htext, Function.update_of_ne (hother .serverSocket)]
    · intro j hj
      rw [hclients, Function.update_of_ne hj]

/-- **`gst_lookout_vision_init`** in a process. -/
theorem create_agree (ho : p.Owned) (build : Build) (os : Posix.Outcomes) :
    EndAlike (fun x y => Process.Owned { p.put p.filterCount (some x.filter) x with
          filterCount := p.filterCount + 1 } ∧
        (p.put p.filterCount (some x.filter) x).denote =
          p.denote.setFilter p.filterCount (some y.filter) y.kernel) SameFault
      (OnHeap.gstLookoutVisionInit build os p.kernel p.memory)
      (gstLookoutVisionInit build os p.kernel) := by
  have hread : (p.memory.gStrdupLiteral (some defaultServerSocket)).1.stdString
      (p.memory.gStrdupLiteral (some defaultServerSocket)).2 = .ok defaultServerSocket := by
    simp only [Memory.stdString, Memory.gStrdupLiteral, OwnedHeap.newOf]
    rw [show (p.memory.strings.new defaultServerSocket).2 = p.memory.strings.next from rfl,
      OwnedHeap.read_of_object OwnedHeap.object_new_self]
    rfl
  unfold OnHeap.gstLookoutVisionInit gstLookoutVisionInit
  simp only [hread, bind, Except.bind]
  cases hnew : LookoutVisionInferenceClient.new build os p.kernel defaultServerSocket with
  | error fault => exact .error rfl
  | ok created =>
    obtain ⟨k, client⟩ := created
    exact .ok (created_stands ho defaultServerSocket client rfl rfl rfl rfl)

/-- An instance that is gone holds nothing. -/
theorem holdsString_finalized :
    (p.put i none e).holdsString = Function.update (Function.update p.holdsString
      (.property i .serverSocket) none) (.property i .modelComponent) none := by
  funext holder
  cases holder with
  | value v =>
    rw [Function.update_of_ne (by simp), Function.update_of_ne (by simp)]
    rfl
  | property j property =>
    by_cases hj : j = i
    · subst hj
      have hnone : (p.put j none e).holdsString (.property j property) = none := by
        simp only [Process.holdsString, filters_put_self, Option.bind_none]
      rw [hnone]
      cases property with
      | serverSocket => rw [Function.update_of_ne (by simp), Function.update_self]
      | modelComponent => rw [Function.update_self]
    · rw [Function.update_of_ne (by simp [hj]), Function.update_of_ne (by simp [hj])]
      exact holdsString_put_of_ne hj _

/-- One instance less, with its two strings and its client. -/
theorem removed_stands (ho : p.Owned) {strings : OwnedHeap String}
    {clients : OwnedHeap LookoutVisionInferenceClient} {k : Kernel}
    (hstrings : strings.Partitioned (Function.update (Function.update p.holdsString
      (.property i .serverSocket) none) (.property i .modelComponent) none))
    (htexts : strings.contents (Function.update (Function.update p.holdsString
      (.property i .serverSocket) none) (.property i .modelComponent) none) =
        Function.update (Function.update p.text (.property i .serverSocket) none)
          (.property i .modelComponent) none)
    (hclients : clients.Partitioned (Function.update p.holdsClient i none))
    (hobjects : clients.contents (Function.update p.holdsClient i none) =
      Function.update p.client i none)
    (hmemory : e.memory = { p.memory with strings := strings, clients := clients })
    (hkernel : e.kernel = k) :
    (p.put i none e).Owned ∧ (p.put i none e).denote = p.denote.setFilter i none k := by
  have hholdsClient : (p.put i none e).holdsClient = Function.update p.holdsClient i none :=
    holdsClient_put none
  have htext : (p.put i none e).text = Function.update (Function.update p.text
      (.property i .serverSocket) none) (.property i .modelComponent) none := by
    rw [← htexts, Process.text, holdsString_finalized]
    show e.memory.strings.contents _ = _
    rw [hmemory]
  have hclient : (p.put i none e).client = Function.update p.client i none := by
    rw [← hobjects, Process.client, hholdsClient]
    show e.memory.clients.contents _ = _
    rw [hmemory]
  constructor
  · refine ⟨?_, ?_, ?_, ?_, ?_, ?_, ?_⟩
    · show e.memory.strings.Partitioned (p.put i none e).holdsString
      rw [holdsString_finalized, hmemory]
      exact hstrings
    · show e.memory.clients.Partitioned (p.put i none e).holdsClient
      rw [hholdsClient, hmemory]
      exact hclients
    · intro j x hj
      obtain ⟨-, hj⟩ := Table.update_none_eq_some hj
      exact ho.client j x hj
    · intro j hle
      by_cases hji : j = i
      · rw [hji]
        exact filters_put_self none
      · rw [filters_put_of_ne hji]
        exact ho.fresh j hle
    · show ∀ a, e.memory.statuses.object a = none
      rw [hmemory]
      exact ho.statuses
    · show ∀ a, e.memory.results.object a = none
      rw [hmemory]
      exact ho.results
    · show ∀ a, e.memory.anyCaps.object a = none ↔ e.memory.anyCaps.next ≤ a
      rw [hmemory]
      exact ho.anyCaps
  · have hcaps : e.memory.anyCaps.next = p.memory.anyCaps.next := by rw [hmemory]
    rw [denote_put (g := none) rfl, hcaps, hkernel]
    · rfl
    · intro holder hother
      rw [htext, Function.update_of_ne (hother .modelComponent),
        Function.update_of_ne (hother .serverSocket)]
    · intro j hj
      rw [hclient, Function.update_of_ne hj]

/-- **`gst_lookout_vision_finalize`** in a process. -/
theorem finalize_ok (h : Instantiates p i filter f) :
    ∃ e, OnHeap.gstLookoutVisionFinalize (p.element filter) = .ok e ∧ (p.put i none e).Owned ∧
      (p.put i none e).denote =
        p.denote.setFilter i none (f.inferenceClient.delete p.kernel) := by
  obtain ⟨a, ha⟩ := Option.ne_none_iff_exists'.mp (h.owned.client i filter h.found)
  obtain ⟨clients, hdelete, hclients, hobjects, -⟩ := h.owned.clients.delete_ok i
  obtain ⟨strings₁, hfree₁, howned₁, htexts₁, -⟩ :=
    h.owned.strings.delete_ok (.property i .serverSocket)
  obtain ⟨strings₂, hfree₂, howned₂, htexts₂, -⟩ := howned₁.delete_ok (.property i .modelComponent)
  rw [Function.update_of_ne (by simp), h.string] at hfree₂
  rw [h.string] at hfree₁
  rw [h.holdsClient, ha] at hdelete
  have hread := h.readClient
  rw [ha] at hread
  have hfree₁' : p.memory.strings.delete filter.serverSocket = .ok strings₁ := hfree₁
  have hfree₂' : strings₁.delete filter.modelComponent = .ok strings₂ := hfree₂
  rw [htexts₁] at htexts₂
  refine ⟨⟨{ filter with inferenceClient := none, serverSocket := none, modelComponent := none },
    f.inferenceClient.delete p.kernel,
    { p.memory with strings := strings₂, clients := clients }⟩, ?_,
    removed_stands h.owned howned₂ htexts₂ hclients hobjects rfl rfl⟩
  simp only [OnHeap.gstLookoutVisionFinalize, OnHeap.deleteClient, Process.element, ha, hread,
    hdelete, Memory.gFree, Memory.heap, bind, Except.bind, pure, Except.pure, hfree₁', hfree₂']

/-! ## One action -/

theorem Process.Owned.instantiates (ho : p.Owned) (hi : p.filters i = some filter) :
    ∃ f, p.denote.filters i = some f ∧ Instantiates p i filter f := by
  obtain ⟨a, ha⟩ := Option.ne_none_iff_exists'.mp (ho.client i filter hi)
  have hholds : p.holdsClient i = some a := by
    simp only [Process.holdsClient, hi, Option.bind_some, ha]
  obtain ⟨client, hclient⟩ := ho.clients.object_of_holds hholds
  have hdenotes : p.denoteFilter i filter = some (filter.value client
      (p.text (.property i .serverSocket)) (p.text (.property i .modelComponent))) := by
    rw [Process.denoteFilter, Process.client, OwnedHeap.contents_of_some hholds, hclient]
    rfl
  refine ⟨_, ?_, ho, hi, hdenotes⟩
  simp only [Process.denote, hi, Option.bind_some]
  exact hdenotes

theorem denote_filters_none (hi : p.filters i = none) : p.denote.filters i = none := by
  simp only [Process.denote, hi, Option.bind_none]

/-- A process in order, and what it stands for. -/
def Refines (x : Process × List Effect) (y : Application × List Effect) : Prop :=
  x.1.Owned ∧ x.1.denote = y.1 ∧ x.2 = y.2

/-- An entry as a step. -/
theorem entered_agree {input : Input} {r : Except MemoryFault (OnHeap.Element × List Effect)}
    (hagree : EndAlike (Matches p i) SameFault r (elementStep ⟨f, p.kernel⟩ input)) :
    EndAlike Refines SameFault (p.entered i r) (p.denote.entered i f input) := by
  unfold Process.entered Application.entered
  rw [show p.denote.kernel = p.kernel from rfl]
  generalize elementStep ⟨f, p.kernel⟩ input = s at hagree
  cases hagree with
  | error hsame => exact .error hsame
  | @ok x y hmatches =>
    refine .ok ⟨hmatches.stands.owned, ?_, hmatches.effects⟩
    rw [hmatches.stands.denotes, hmatches.anyCaps, hmatches.kernel]
    rfl

/-- **One action on pointers is the action on what they stand for.** -/
theorem step_refines (ho : p.Owned) (build : Build) (input : ProcessInput) :
    EndAlike Refines SameFault (p.step build input) (p.denote.step build input) := by
  obtain ⟨action, env⟩ := input
  cases action with
  | create =>
    have hagree := create_agree ho build env.os
    simp only [Process.step, Application.step]
    rw [show p.denote.kernel = p.kernel from rfl]
    generalize OnHeap.gstLookoutVisionInit build env.os p.kernel p.memory = x at hagree ⊢
    generalize gstLookoutVisionInit build env.os p.kernel = y at hagree ⊢
    cases hagree with
    | error hsame => exact .error hsame
    | ok h =>
      refine .ok ⟨h.1, ?_, rfl⟩
      exact congrArg (fun a : Application => { a with filterCount := p.filterCount + 1 }) h.2
  | setValue v text =>
    obtain ⟨p', hrun, howned, hdenote⟩ := setString_ok ho v text
    simp only [Process.step, Application.step, hrun, bind, Except.bind]
    exact .ok ⟨howned, hdenote, rfl⟩
  | getProperty i property v =>
    simp only [Process.step, Application.step]
    cases hi : p.filters i with
    | none =>
      rw [denote_filters_none hi]
      exact .ok ⟨ho, rfl, rfl⟩
    | some filter =>
      obtain ⟨f, hf, h⟩ := ho.instantiates hi
      obtain ⟨p', hrun, howned, hdenote⟩ := setString_ok ho v (p.text (.property i property))
      have hcopy := gStrdup_ok ho (.property i property)
      rw [h.string] at hcopy
      have hcopy' : p.memory.gStrdup (OnHeap.gstLookoutVisionGetProperty filter property) =
          .ok (p.memory.gStrdupLiteral (p.text (.property i property))) := by
        rw [← hcopy]
        cases property <;> rfl
      rw [hf]
      simp only [hcopy', hrun, bind, Except.bind]
      refine .ok ⟨howned, ?_, rfl⟩
      rw [hdenote, h.text]
  | setProperty i property v =>
    simp only [Process.step, Application.step]
    cases hi : p.filters i with
    | none =>
      rw [denote_filters_none hi]
      exact .ok ⟨ho, rfl, rfl⟩
    | some filter =>
      obtain ⟨f, hf, h⟩ := ho.instantiates hi
      rw [hf]
      refine entered_agree ?_
      cases property with
      | serverSocket => exact setServerSocket_agree h env v
      | modelComponent => exact setModelComponent_agree h env v
  | setTimeout i timeout =>
    simp only [Process.step, Application.step]
    cases hi : p.filters i with
    | none =>
      rw [denote_filters_none hi]
      exact .ok ⟨ho, rfl, rfl⟩
    | some filter =>
      obtain ⟨f, hf, h⟩ := ho.instantiates hi
      rw [hf]
      exact entered_agree (.ok ⟨setTimeout_stands h timeout, rfl, rfl, rfl⟩)
  | sinkEvent i event =>
    simp only [Process.step, Application.step]
    cases hi : p.filters i with
    | none =>
      rw [denote_filters_none hi]
      exact .ok ⟨ho, rfl, rfl⟩
    | some filter =>
      obtain ⟨f, hf, h⟩ := ho.instantiates hi
      obtain ⟨hstands, hkernel, hcaps⟩ := sinkEvent_stands h event
      rw [hf]
      refine .ok ⟨hstands.owned, ?_, rfl⟩
      rw [hstands.denotes, hcaps, hkernel]
      rfl
  | chain i buf =>
    simp only [Process.step, Application.step]
    cases hi : p.filters i with
    | none =>
      rw [denote_filters_none hi]
      exact .ok ⟨ho, rfl, rfl⟩
    | some filter =>
      obtain ⟨f, hf, h⟩ := ho.instantiates hi
      rw [hf]
      exact entered_agree (chain_agree h env buf)
  | finalize i =>
    simp only [Process.step, Application.step]
    cases hi : p.filters i with
    | none =>
      rw [denote_filters_none hi]
      exact .ok ⟨ho, rfl, rfl⟩
    | some filter =>
      obtain ⟨f, hf, h⟩ := ho.instantiates hi
      obtain ⟨e, hrun, howned, hdenote⟩ := finalize_ok h
      rw [hf]
      simp only [hrun, bind, Except.bind]
      exact .ok ⟨howned, hdenote, rfl⟩

end

/-! ## Runs -/

/-- The two runs go in lockstep. -/
theorem process_agree (build : Build) (k : Kernel) (is : List ProcessInput) :
    EndAlike (fun x y => (x.1.Owned ∧ x.1.denote = y.1) ∧
        List.Forall₂ (fun r r' => r.1 = r'.1 ∧ r.2 = r'.2) x.2 y.2) SameFault
      ((process build).run (.start k) is) ((application build).run (.start k) is) :=
  Machine.run_agree (M := process build) (N := application build)
    (R := fun p a => p.Owned ∧ p.denote = a)
    (Q := fun _ x y => x = y) (F := SameFault) (s := .start k) (u := .start k)
    (fun p a i hR (_ : True) => by
      obtain ⟨howned, rfl⟩ := hR
      exact (step_refines howned build i).mono (fun h => ⟨⟨h.1, h.2.1⟩, h.2.2⟩) id)
    ⟨start_owned k, denote_start k⟩ is (fun _ _ => trivial)

/-- **The process refines its application.**  From any shared memory and through any
actions, with the agents answering and the system calls ending in any way, the
two complete together and have done the same, and the process then stands for the
application; or both fault, and for the same reason.  So no pointer is ever read
or freed after it was freed. -/
theorem process_refines (build : Build) (k : Kernel) (is : List ProcessInput) :
    EndAlike (fun x y => x.1.Owned ∧ x.1.denote = y.1 ∧ x.2 = y.2) SameFault
      ((process build).run (.start k) is) ((application build).run (.start k) is) := by
  refine (process_agree build k is).mono (fun h => ⟨h.1.1, h.1.2, ?_⟩) id
  have heq := h.2.imp (S := Eq) fun x y hxy => Prod.ext hxy.1 hxy.2
  rwa [List.forall₂_eq_eq_eq] at heq

end LookoutVision
