import Mathlib.Data.List.Forall2
import Mathlib.Data.List.Induction

/-!
# Runs of a deterministic machine

A `Machine` takes one step per input; a step either produces an output and a
new state or faults, after which nothing is said.  A run over a list of inputs
returns the final state and the **history**: every input taken, with the output
of its step, in order.  Everything a machine is asked to guarantee is then a
predicate of a history and the state it ends in.

Six rules carry the inductions over runs, all from the end of the run:

* `run_invariant`: what one step establishes, every run establishes;
* `always_iff_guarded`: when a guard on single steps is exactly what keeps a
  property, the runs that keep it throughout are exactly the guarded ones;
* `guarded_completes`: where a guard keeps the steps from faulting, the guarded
  runs complete;
* `guarded_iff_guarded`: two guards that an invariant makes the same guard the
  same runs;
* `safe_iff_guarded`: the exactness of a guard for a property of the states a run
  reaches, when its steps may fault;
* `run_simulation`: two machines matched step by step are matched run by run.
-/

/-- A deterministic machine with outputs, whose steps may fault. -/
structure Machine (State Input Output Fault : Type) where
  step : State → Input → Except Fault (State × Output)

namespace Machine
variable {State Input Output Fault : Type} (M : Machine State Input Output Fault)

/-- One more input, after a run that ended in `r`. -/
def advance (r : Except Fault (State × List (Input × Output))) (i : Input) :
    Except Fault (State × List (Input × Output)) :=
  match r with
  | .error e => .error e
  | .ok (t, h) =>
      match M.step t i with
      | .error e => .error e
      | .ok (t', o) => .ok (t', h ++ [(i, o)])

/-- The run over `is`: the state it ends in and its history. -/
def run (s : State) (is : List Input) : Except Fault (State × List (Input × Output)) :=
  is.foldl M.advance (.ok (s, []))

@[simp] theorem run_nil (s : State) : M.run s [] = .ok (s, []) := rfl

theorem run_snoc (s : State) (is : List Input) (i : Input) :
    M.run s (is ++ [i]) = M.advance (M.run s is) i := by
  unfold run
  rw [List.foldl_append]
  rfl

variable {M} {s t : State} {is : List Input} {i : Input} {h : List (Input × Output)}

theorem run_snoc_ok (hr : M.run s is = .ok (t, h)) {t' : State} {o : Output}
    (hs : M.step t i = .ok (t', o)) : M.run s (is ++ [i]) = .ok (t', h ++ [(i, o)]) := by
  rw [run_snoc, hr]
  simp only [advance, hs]

theorem run_one {t' : State} {o : Output} (hs : M.step s i = .ok (t', o)) :
    M.run s [i] = .ok (t', [(i, o)]) :=
  run_snoc_ok (M.run_nil s) hs

/-- A run that completes was one step short of completing before its last
input. -/
theorem run_snoc_inv (hr : M.run s (is ++ [i]) = .ok (t, h)) :
    ∃ t₀ h₀ o, M.run s is = .ok (t₀, h₀) ∧ M.step t₀ i = .ok (t, o) ∧ h = h₀ ++ [(i, o)] := by
  rw [run_snoc] at hr
  cases hpre : M.run s is with
  | error e => rw [hpre] at hr; cases hr
  | ok r =>
    obtain ⟨t₀, h₀⟩ := r
    rw [hpre] at hr
    cases hs : M.step t₀ i with
    | error e => simp only [advance, hs] at hr; cases hr
    | ok r =>
      obtain ⟨t', o⟩ := r
      simp only [advance, hs] at hr
      obtain ⟨rfl, rfl⟩ := Prod.mk.inj (Except.ok.inj hr)
      exact ⟨t₀, h₀, o, rfl, hs, rfl⟩

/-- A run goes on where a shorter one ended. -/
theorem run_append_ok {js : List Input} {u : State} {h' : List (Input × Output)}
    (hr : M.run s is = .ok (t, h)) (hr' : M.run t js = .ok (u, h')) :
    M.run s (is ++ js) = .ok (u, h ++ h') := by
  induction js using List.reverseRecOn generalizing u h' with
  | nil =>
    obtain ⟨rfl, rfl⟩ := Prod.mk.inj (Except.ok.inj hr')
    rw [List.append_nil, List.append_nil]
    exact hr
  | append_singleton js j ih =>
    obtain ⟨t₀, h₀, o, hpre, hs, rfl⟩ := run_snoc_inv hr'
    rw [← List.append_assoc, ← List.append_assoc]
    exact run_snoc_ok (ih hpre) hs

/-- A history records exactly the inputs of its run. -/
theorem run_inputs (hr : M.run s is = .ok (t, h)) : h.map Prod.fst = is := by
  induction is using List.reverseRecOn generalizing t h with
  | nil =>
    obtain ⟨-, rfl⟩ := Prod.mk.inj (Except.ok.inj hr)
    rfl
  | append_singleton is i ih =>
    obtain ⟨t₀, h₀, o, hpre, -, rfl⟩ := run_snoc_inv hr
    rw [List.map_append, ih hpre]
    rfl

/-! ## What every run establishes -/

/-- **The invariant rule.**  A property of histories and states that holds
before the first step, and that every step on an admissible input preserves
without faulting, holds at the end of every admissible run, which completes. -/
theorem run_invariant {Admissible : Input → Prop}
    {Inv : List (Input × Output) → State → Prop} (hinit : Inv [] s)
    (hstep : ∀ h t i, Inv h t → Admissible i →
      ∃ t' o, M.step t i = .ok (t', o) ∧ Inv (h ++ [(i, o)]) t') :
    ∀ is, (∀ i ∈ is, Admissible i) → ∃ t h, M.run s is = .ok (t, h) ∧ Inv h t := by
  intro is
  induction is using List.reverseRecOn with
  | nil => exact fun _ => ⟨s, [], rfl, hinit⟩
  | append_singleton is i ih =>
    intro hadm
    obtain ⟨t, h, hr, hinv⟩ := ih fun j hj => hadm j (List.mem_append_left _ hj)
    obtain ⟨t', o, hs, hinv'⟩ := hstep h t i hinv (hadm i (by simp))
    exact ⟨t', h ++ [(i, o)], run_snoc_ok hr hs, hinv'⟩

/-- A property that steps preserve, when they do not fault, holds at the end of
every run that completes. -/
theorem run_preserves {Admissible : Input → Prop}
    {Inv : List (Input × Output) → State → Prop} (hinit : Inv [] s)
    (hstep : ∀ h t i t' o, Inv h t → Admissible i → M.step t i = .ok (t', o) →
      Inv (h ++ [(i, o)]) t')
    (hadm : ∀ i ∈ is, Admissible i) (hr : M.run s is = .ok (t, h)) : Inv h t := by
  induction is using List.reverseRecOn generalizing t h with
  | nil =>
    obtain ⟨rfl, rfl⟩ := Prod.mk.inj (Except.ok.inj hr)
    exact hinit
  | append_singleton is i ih =>
    obtain ⟨t₀, h₀, o, hpre, hs, rfl⟩ := run_snoc_inv hr
    exact hstep h₀ t₀ i t o (ih (fun j hj => hadm j (List.mem_append_left _ hj)) hpre)
      (hadm i (by simp)) hs

/-! ## Properties of every state along a run -/

/-- `P` holds in every state reached along `is`, the first and the last
included, and none of the steps faults. -/
def Always (M : Machine State Input Output Fault) (P : List (Input × Output) → State → Prop)
    (s : State) (is : List Input) : Prop :=
  ∀ pre, pre <+: is → ∃ t h, M.run s pre = .ok (t, h) ∧ P h t

/-- Every step along `is` meets `G`, a condition on the history and the state
before the step and on its input. -/
def Guarded (M : Machine State Input Output Fault)
    (G : List (Input × Output) → State → Input → Prop) (s : State) (is : List Input) : Prop :=
  ∀ pre i, pre ++ [i] <+: is → ∀ t h, M.run s pre = .ok (t, h) → G h t i

theorem always_nil {P : List (Input × Output) → State → Prop} :
    M.Always P s [] ↔ P [] s := by
  constructor
  · intro ha
    obtain ⟨t, h, hr, hp⟩ := ha [] (List.prefix_refl [])
    obtain ⟨rfl, rfl⟩ := Prod.mk.inj (Except.ok.inj hr)
    exact hp
  · intro hp pre hpre
    rw [List.prefix_nil.mp hpre]
    exact ⟨s, [], rfl, hp⟩

theorem always_snoc {P : List (Input × Output) → State → Prop} :
    M.Always P s (is ++ [i]) ↔
      M.Always P s is ∧ ∃ t h, M.run s (is ++ [i]) = .ok (t, h) ∧ P h t := by
  constructor
  · intro ha
    exact ⟨fun pre hpre => ha pre (hpre.trans (List.prefix_append is [i])),
      ha (is ++ [i]) (List.prefix_refl _)⟩
  · rintro ⟨ha, hlast⟩ pre hpre
    rcases List.prefix_concat_iff.mp hpre with rfl | hpre
    · exact hlast
    · exact ha pre hpre

theorem guarded_nil {G : List (Input × Output) → State → Input → Prop} : M.Guarded G s [] := by
  intro pre i hpre
  simp at hpre

theorem guarded_snoc {G : List (Input × Output) → State → Input → Prop} :
    M.Guarded G s (is ++ [i]) ↔
      M.Guarded G s is ∧ ∀ t h, M.run s is = .ok (t, h) → G h t i := by
  constructor
  · intro hg
    exact ⟨fun pre j hpre => hg pre j (hpre.trans (List.prefix_append is [i])),
      hg is i (List.prefix_refl _)⟩
  · rintro ⟨hg, hlast⟩ pre j hpre
    rcases List.prefix_concat_iff.mp hpre with he | hpre
    · obtain ⟨rfl, he⟩ := List.append_inj' he rfl
      obtain rfl : j = i := by simpa using he
      exact hlast
    · exact hg pre j hpre

/-- **The exact-guard rule.**  Let `J` be what completed steps always preserve,
and let a step from a state with `J` and `P` succeed and re-establish `P`
exactly when `G` held before it.  Then the admissible runs along which `P`
always holds are exactly the guarded ones. -/
theorem always_iff_guarded {Admissible : Input → Prop}
    {J P : List (Input × Output) → State → Prop}
    {G : List (Input × Output) → State → Input → Prop}
    (hJ₀ : J [] s) (hP₀ : P [] s)
    (hJ : ∀ h t i t' o, J h t → Admissible i → M.step t i = .ok (t', o) → J (h ++ [(i, o)]) t')
    (hstep : ∀ h t i, J h t → P h t → Admissible i →
      (G h t i ↔ ∃ t' o, M.step t i = .ok (t', o) ∧ P (h ++ [(i, o)]) t'))
    (hadm : ∀ i ∈ is, Admissible i) : M.Always P s is ↔ M.Guarded G s is := by
  induction is using List.reverseRecOn with
  | nil => exact ⟨fun _ => guarded_nil, fun _ => always_nil.mpr hP₀⟩
  | append_singleton is i ih =>
    have hadm' : ∀ j ∈ is, Admissible j := fun j hj => hadm j (List.mem_append_left _ hj)
    have hi : Admissible i := hadm i (by simp)
    have hkeep : ∀ t h, M.run s is = .ok (t, h) → J h t := fun t h =>
      run_preserves hJ₀ hJ hadm'
    -- Both sides are the shorter run's, by induction, and one more step.
    rw [always_snoc, guarded_snoc, ih hadm']
    refine and_congr_right fun hg => ?_
    obtain ⟨t, h, hr, hp⟩ := (ih hadm').mpr hg is (List.prefix_refl is)
    have hexact := hstep h t i (hkeep t h hr) hp hi
    constructor
    · rintro ⟨t', h', hr', hp'⟩ t₁ h₁ hr₁
      obtain ⟨t₀, h₀, o, hr₀, hs, rfl⟩ := run_snoc_inv hr'
      obtain ⟨rfl, rfl⟩ := Prod.mk.inj (Except.ok.inj (hr₀.symm.trans hr₁))
      obtain ⟨rfl, rfl⟩ := Prod.mk.inj (Except.ok.inj (hr₀.symm.trans hr))
      exact hexact.mpr ⟨t', o, hs, hp'⟩
    · intro hlast
      obtain ⟨t', o, hs, hp'⟩ := hexact.mp (hlast t h hr)
      exact ⟨t', _, run_snoc_ok hr hs, hp'⟩

/-- **The progress rule.**  Where every step under the guard completes and keeps
`J`, a guarded run completes. -/
theorem guarded_completes {J : List (Input × Output) → State → Prop}
    {G : List (Input × Output) → State → Input → Prop} (hJ₀ : J [] s)
    (hstep : ∀ h t i, J h t → G h t i → ∃ t' o, M.step t i = .ok (t', o) ∧ J (h ++ [(i, o)]) t')
    (hg : M.Guarded G s is) : ∃ t h, M.run s is = .ok (t, h) ∧ J h t := by
  induction is using List.reverseRecOn with
  | nil => exact ⟨s, [], rfl, hJ₀⟩
  | append_singleton is i ih =>
    obtain ⟨hg, hlast⟩ := guarded_snoc.mp hg
    obtain ⟨t, h, hr, hJ⟩ := ih hg
    obtain ⟨t', o, hs, hJ'⟩ := hstep h t i hJ (hlast t h hr)
    exact ⟨t', _, run_snoc_ok hr hs, hJ'⟩

/-- **The exchange rule for guards.**  Two guards that are the same wherever `J`
holds, where a step under the one completes and keeps `J`, guard the same
runs. -/
theorem guarded_iff_guarded {J : List (Input × Output) → State → Prop}
    {G G' : List (Input × Output) → State → Input → Prop} (hJ₀ : J [] s)
    (hexact : ∀ h t i, J h t → (G h t i ↔ G' h t i))
    (hstep : ∀ h t i, J h t → G' h t i →
      ∃ t' o, M.step t i = .ok (t', o) ∧ J (h ++ [(i, o)]) t') :
    M.Guarded G s is ↔ M.Guarded G' s is := by
  have hkeep : ∀ js, M.Guarded G' s js → ∀ t h, M.run s js = .ok (t, h) → J h t := by
    intro js hg t h hr
    obtain ⟨t', h', hr', hJ⟩ := guarded_completes hJ₀ hstep hg
    obtain ⟨rfl, rfl⟩ := Prod.mk.inj (Except.ok.inj (hr.symm.trans hr'))
    exact hJ
  induction is using List.reverseRecOn with
  | nil => exact ⟨fun _ => guarded_nil, fun _ => guarded_nil⟩
  | append_singleton is i ih =>
    rw [guarded_snoc, guarded_snoc]
    constructor
    · rintro ⟨hg, hlast⟩
      have hg' : M.Guarded G' s is := ih.mp hg
      exact ⟨hg', fun t h hr => (hexact h t i (hkeep is hg' t h hr)).mp (hlast t h hr)⟩
    · rintro ⟨hg', hlast⟩
      exact ⟨ih.mpr hg', fun t h hr => (hexact h t i (hkeep is hg' t h hr)).mpr (hlast t h hr)⟩

/-! ## Properties of the states a run reaches -/

/-- `P` holds in every state reached along `is`, up to the first fault. -/
def Safe (M : Machine State Input Output Fault) (P : List (Input × Output) → State → Prop)
    (s : State) (is : List Input) : Prop :=
  ∀ pre, pre <+: is → ∀ t h, M.run s pre = .ok (t, h) → P h t

theorem safe_nil {P : List (Input × Output) → State → Prop} : M.Safe P s [] ↔ P [] s := by
  constructor
  · exact fun hs => hs [] (List.prefix_refl []) s [] rfl
  · intro hp pre hpre t h hr
    rw [List.prefix_nil.mp hpre] at hr
    obtain ⟨rfl, rfl⟩ := Prod.mk.inj (Except.ok.inj hr)
    exact hp

theorem safe_snoc {P : List (Input × Output) → State → Prop} :
    M.Safe P s (is ++ [i]) ↔
      M.Safe P s is ∧ ∀ t h, M.run s (is ++ [i]) = .ok (t, h) → P h t := by
  constructor
  · intro hs
    exact ⟨fun pre hpre => hs pre (hpre.trans (List.prefix_append is [i])),
      hs (is ++ [i]) (List.prefix_refl _)⟩
  · rintro ⟨hs, hlast⟩ pre hpre
    rcases List.prefix_concat_iff.mp hpre with rfl | hpre
    · exact hlast
    · exact hs pre hpre

/-- **The exact-guard rule for safety.**  Where a completed step from a state
with `J` and `P` re-establishes `P` exactly when `G` held before it, the
admissible runs that reach only states with `P` are exactly the guarded ones. -/
theorem safe_iff_guarded {Admissible : Input → Prop}
    {J P : List (Input × Output) → State → Prop}
    {G : List (Input × Output) → State → Input → Prop}
    (hJ₀ : J [] s) (hP₀ : P [] s)
    (hJ : ∀ h t i t' o, J h t → Admissible i → M.step t i = .ok (t', o) → J (h ++ [(i, o)]) t')
    (hstep : ∀ h t i, J h t → P h t → Admissible i →
      (G h t i ↔ ∀ t' o, M.step t i = .ok (t', o) → P (h ++ [(i, o)]) t'))
    (hadm : ∀ i ∈ is, Admissible i) : M.Safe P s is ↔ M.Guarded G s is := by
  induction is using List.reverseRecOn with
  | nil => exact ⟨fun _ => guarded_nil, fun _ => safe_nil.mpr hP₀⟩
  | append_singleton is i ih =>
    have hadm' : ∀ j ∈ is, Admissible j := fun j hj => hadm j (List.mem_append_left _ hj)
    have hi : Admissible i := hadm i (by simp)
    rw [safe_snoc, guarded_snoc, ih hadm']
    refine and_congr_right fun hg => ?_
    -- If the shorter run faults, neither side asks anything of the last step.
    have hexact : ∀ t h, M.run s is = .ok (t, h) →
        (G h t i ↔ ∀ t' o, M.step t i = .ok (t', o) → P (h ++ [(i, o)]) t') := by
      intro t h hr
      have hp := (ih hadm').mpr hg is (List.prefix_refl is) t h hr
      exact hstep h t i (run_preserves hJ₀ hJ hadm' hr) hp hi
    constructor
    · intro hlast t h hr
      exact (hexact t h hr).mpr fun t' o hs => hlast t' _ (run_snoc_ok hr hs)
    · intro hlast t' h' hr'
      obtain ⟨t, h, o, hr, hs, rfl⟩ := run_snoc_inv hr'
      exact (hexact t h hr).mp (hlast t h hr) t' o hs

/-! ## Folds inside a step -/

/-- **The invariant rule for a fold that may fault.**  What holds of the start,
and is carried over each element without a fault, holds of the whole list. -/
theorem foldlM_invariant {α β : Type} {f : β → α → Except Fault β} {J : List α → β → Prop}
    {as : List α} (hstep : ∀ done b a, J done b → a ∈ as →
      ∃ b', f b a = .ok b' ∧ J (done ++ [a]) b')
    {b : β} (hinit : J [] b) : ∃ b', as.foldlM f b = .ok b' ∧ J as b' := by
  have hrest : ∀ rest done b, (∀ a ∈ rest, a ∈ as) → J done b →
      ∃ b', rest.foldlM f b = .ok b' ∧ J (done ++ rest) b' := by
    intro rest
    induction rest with
    | nil => exact fun done b _ hinv => ⟨b, rfl, by rw [List.append_nil]; exact hinv⟩
    | cons a rest ih =>
      intro done b hmem hinv
      obtain ⟨b₁, hb₁, hinv₁⟩ := hstep done b a hinv (hmem a List.mem_cons_self)
      obtain ⟨b', hb', hinv'⟩ :=
        ih (done ++ [a]) b₁ (fun x hx => hmem x (List.mem_cons_of_mem a hx)) hinv₁
      refine ⟨b', ?_, ?_⟩
      · rw [List.foldlM_cons, hb₁]
        exact hb'
      · rw [List.append_assoc, List.singleton_append] at hinv'
        exact hinv'
  exact hrest as [] b (fun _ ha => ha) hinit

/-! ## Two machines side by side -/

/-- **The simulation rule.**  Two machines whose steps on an admissible input
complete together, keep `R` between the states and give outputs related by `Q`,
complete their runs together, with histories related entry by entry. -/
theorem run_simulation {State' Output' Fault' : Type} {N : Machine State' Input Output' Fault'}
    {Admissible : Input → Prop} {R : State → State' → Prop} {Q : Input → Output → Output' → Prop}
    (hstep : ∀ t u i, R t u → Admissible i → ∃ t' o u' o',
      M.step t i = .ok (t', o) ∧ N.step u i = .ok (u', o') ∧ R t' u' ∧ Q i o o')
    {u : State'} (hR : R s u) :
    ∀ is, (∀ i ∈ is, Admissible i) → ∃ t' h u' h',
      M.run s is = .ok (t', h) ∧ N.run u is = .ok (u', h') ∧ R t' u' ∧
        List.Forall₂ (fun x y => x.1 = y.1 ∧ Q x.1 x.2 y.2) h h' := by
  intro is
  induction is using List.reverseRecOn with
  | nil => exact fun _ => ⟨s, [], u, [], rfl, rfl, hR, List.Forall₂.nil⟩
  | append_singleton is i ih =>
    intro hadm
    obtain ⟨t, h, v, h', hr, hr', hR', hQ⟩ := ih fun j hj => hadm j (List.mem_append_left _ hj)
    obtain ⟨t', o, v', o', hs, hs', hR'', hq⟩ := hstep t v i hR' (hadm i (by simp))
    exact ⟨t', _, v', _, run_snoc_ok hr hs, run_snoc_ok hr' hs', hR'',
      List.rel_append hQ (List.Forall₂.cons ⟨rfl, hq⟩ List.Forall₂.nil)⟩

end Machine
