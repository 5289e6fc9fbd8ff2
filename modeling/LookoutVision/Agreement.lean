import LookoutVision.Runs

/-!
# Machines that end alike

Two computations **end alike** when both return, with results related by `R`, or both
fault, with faults related by `F`.  Two machines whose steps end alike have runs that
agree (`run_agree`): the finer machine then faults where the coarser one does and
nowhere else, which a simulation of completed steps alone does not say.
-/

variable {ε ε' α α' : Type}

/-- Both return, or both fault. -/
inductive EndAlike (R : α → α' → Prop) (F : ε → ε' → Prop) : Except ε α → Except ε' α' → Prop
  | ok {a : α} {a' : α'} (h : R a a') : EndAlike R F (.ok a) (.ok a')
  | error {e : ε} {e' : ε'} (h : F e e') : EndAlike R F (.error e) (.error e')

namespace EndAlike
variable {R : α → α' → Prop} {F : ε → ε' → Prop}
  {x : Except ε α} {y : Except ε' α'}

theorem mono {R' : α → α' → Prop} {F' : ε → ε' → Prop} (h : EndAlike R F x y)
    (hR : ∀ {a a'}, R a a' → R' a a') (hF : ∀ {e e'}, F e e' → F' e e') : EndAlike R' F' x y := by
  cases h with
  | ok h => exact .ok (hR h)
  | error h => exact .error (hF h)

theorem of_error {e : ε} {e' : ε'} (hx : x = .error e) (hy : y = .error e') (h : F e e') :
    EndAlike R F x y := by
  rw [hx, hy]
  exact .error h

theorem ok_left {a : α} (h : EndAlike R F (.ok a) y) : ∃ a', y = .ok a' ∧ R a a' := by
  cases h with
  | ok h => exact ⟨_, rfl, h⟩

theorem ok_right {a' : α'} (h : EndAlike R F x (.ok a')) : ∃ a, x = .ok a ∧ R a a' := by
  cases h with
  | ok h => exact ⟨_, rfl, h⟩

theorem error_right {e' : ε'} (h : EndAlike R F x (.error e')) : ∃ e, x = .error e ∧ F e e' := by
  cases h with
  | error h => exact ⟨_, rfl, h⟩

end EndAlike

namespace Machine
variable {State State' Input Output Output' Fault Fault' : Type}
  {M : Machine State Input Output Fault} {N : Machine State' Input Output' Fault'}

/-- **The lockstep rule.**  Where steps on an admissible input agree, and keep `R`
between the states and `Q` between the outputs, runs agree, entry by entry. -/
theorem run_agree {Admissible : Input → Prop} {R : State → State' → Prop}
    {Q : Input → Output → Output' → Prop} {F : Fault → Fault' → Prop}
    (hstep : ∀ t u i, R t u → Admissible i →
      EndAlike (fun x y => R x.1 y.1 ∧ Q i x.2 y.2) F (M.step t i) (N.step u i))
    {s : State} {u : State'} (hR : R s u) :
    ∀ is, (∀ i ∈ is, Admissible i) →
      EndAlike (fun x y => R x.1 y.1 ∧
          List.Forall₂ (fun a b => a.1 = b.1 ∧ Q a.1 a.2 b.2) x.2 y.2) F
        (M.run s is) (N.run u is) := by
  intro is
  induction is using List.reverseRecOn with
  | nil => exact fun _ => .ok ⟨hR, List.Forall₂.nil⟩
  | append_singleton is i ih =>
    intro hadm
    have hi : Admissible i := hadm i (by simp)
    have hpre := ih fun j hj => hadm j (List.mem_append_left _ hj)
    rw [run_snoc, run_snoc]
    generalize M.run s is = x at hpre ⊢
    generalize N.run u is = y at hpre ⊢
    cases hpre with
    | error h => exact .error h
    | @ok r r' h =>
      obtain ⟨t, hist⟩ := r
      obtain ⟨v, hist'⟩ := r'
      have hlast := hstep t v i h.1 hi
      simp only [advance]
      generalize M.step t i = a at hlast ⊢
      generalize N.step v i = b at hlast ⊢
      cases hlast with
      | error h => exact .error h
      | ok hq =>
        exact .ok ⟨hq.1, List.rel_append h.2 (List.Forall₂.cons ⟨rfl, hq.2⟩ List.Forall₂.nil)⟩

end Machine
