import LookoutVision.Runs

/-!
# Calls to a world that moves on its own

A program's calls are answered by a **world**: between two calls the world moves,
at a call it answers, and both are known only as relations, what the world may do
and what it promises.  A sequence of calls is **explained** from one world to
another when the world can have moved and answered so (`Explains`).

What neither a move nor an answer ends is `Stable`.  Such a fact, once it holds,
holds at every later call, so a program that establishes it before it relies on it
may rely on it in every explained run (`run_explained`): the answers it gets are
those the promise leaves when the fact holds.
-/

variable {World Call : Type}

/-- These calls, with the moves around them, lead from one world to the other. -/
inductive Explains (moves : World → World → Prop) (answers : World → Call → World → Prop) :
    World → List Call → World → Prop
  | done {w w' : World} (h : moves w w') : Explains moves answers w [] w'
  | call {w w₁ w₂ w' : World} {c : Call} {cs : List Call} (hmove : moves w w₁)
      (hanswer : answers w₁ c w₂) (hrest : Explains moves answers w₂ cs w') :
      Explains moves answers w (c :: cs) w'

/-- Neither a move nor an answer ends it. -/
structure Stable (moves : World → World → Prop) (answers : World → Call → World → Prop)
    (P : World → Prop) : Prop where
  move : ∀ {w w'}, moves w w' → P w → P w'
  answer : ∀ {w c w'}, answers w c w' → P w → P w'

section
variable {moves : World → World → Prop} {answers : World → Call → World → Prop}
  {P : World → Prop} {Q : Call → Prop} {w w' : World} {cs ds : List Call} {c : Call}

namespace Explains

/-- Explained calls can be cut in two: the world need not move at the cut. -/
theorem append_inv (hrefl : ∀ w, moves w w) (h : Explains moves answers w (cs ++ ds) w') :
    ∃ v, Explains moves answers w cs v ∧ Explains moves answers v ds w' := by
  induction cs generalizing w with
  | nil => exact ⟨w, .done (hrefl w), h⟩
  | cons c cs ih =>
    cases h with
    | call hmove hanswer hrest =>
      obtain ⟨v, hleft, hright⟩ := ih hrest
      exact ⟨v, .call hmove hanswer hleft, hright⟩

/-- What is stable stays. -/
theorem stable (h : Explains moves answers w cs w') (hs : Stable moves answers P) (hP : P w) :
    P w' := by
  induction h with
  | done hmove => exact hs.move hmove hP
  | call hmove hanswer _ ih => exact ih (hs.answer hanswer (hs.move hmove hP))

/-- Every call is answered as the promise says of worlds with `P`. -/
theorem each (h : Explains moves answers w cs w') (hs : Stable moves answers P) (hP : P w)
    (hQ : ∀ {v c v'}, P v → answers v c v' → c ∈ cs → Q c) : ∀ c ∈ cs, Q c := by
  induction h with
  | done hmove =>
    intro c hc
    cases hc
  | @call w w₁ w₂ w' c cs hmove hanswer _ ih =>
    have hP₁ : P w₁ := hs.move hmove hP
    intro d hd
    rcases List.mem_cons.mp hd with rfl | hd
    · exact hQ hP₁ hanswer (List.mem_cons_self ..)
    · exact ih (hs.answer hanswer hP₁)
        (fun hv ha hmem => hQ hv ha (List.mem_cons_of_mem c hmem)) d hd

/-- What the answer to one of the calls establishes holds from then on. -/
theorem established (h : Explains moves answers w cs w') (hs : Stable moves answers P)
    (hc : c ∈ cs) (hP : ∀ {v v'}, answers v c v' → P v') : P w' := by
  induction h with
  | done hmove => cases hc
  | call hmove hanswer hrest ih =>
    rcases List.mem_cons.mp hc with rfl | hc
    · exact hrest.stable hs (hP hanswer)
    · exact ih hc

end Explains

namespace Machine
variable {State Input Output Fault : Type} {M : Machine State Input Output Fault}
  {s t : State} {is : List Input} {history : List (Input × Output)}

/-- **The rule for a program and its world.**  Let `J` relate the two, let a step
under the guard keep it whatever explains the step's calls, and let those calls be
answered as `Q` says.  Then the same holds of every guarded run that completes and
whose calls are explained. -/
theorem run_explained {sent : Output → List Call} {J : State → World → Prop}
    {G : List (Input × Output) → State → Input → Prop} (hrefl : ∀ w, moves w w)
    (hmove : ∀ {s w w'}, J s w → moves w w' → J s w')
    (hstep : ∀ h t i t' o w w', J t w → G h t i → M.step t i = .ok (t', o) →
      Explains moves answers w (sent o) w' → J t' w' ∧ ∀ c ∈ sent o, Q c)
    (hJ : J s w) (hr : M.run s is = .ok (t, history)) (hg : M.Guarded G s is)
    (hexplains : Explains moves answers w (history.flatMap fun r => sent r.2) w') :
    J t w' ∧ ∀ c ∈ history.flatMap fun r => sent r.2, Q c := by
  induction is using List.reverseRecOn generalizing t history w' with
  | nil =>
    obtain ⟨rfl, rfl⟩ := Prod.mk.inj (Except.ok.inj hr)
    cases hexplains with
    | done h =>
      refine ⟨hmove hJ h, fun c hc => ?_⟩
      cases hc
  | append_singleton is i ih =>
    obtain ⟨t₀, h₀, o, hpre, hs, rfl⟩ := run_snoc_inv hr
    obtain ⟨hg, hlast⟩ := guarded_snoc.mp hg
    rw [List.flatMap_append] at hexplains ⊢
    obtain ⟨v, hbefore, hafter⟩ := hexplains.append_inv hrefl
    obtain ⟨hJ₀, hQ₀⟩ := ih hpre hg hbefore
    rw [List.flatMap_cons, List.flatMap_nil, List.append_nil] at hafter ⊢
    obtain ⟨hJ', hQ'⟩ := hstep h₀ t₀ i t o v w' hJ₀ (hlast t₀ h₀ hpre) hs hafter
    refine ⟨hJ', fun c hc => ?_⟩
    rcases List.mem_append.mp hc with hc | hc
    · exact hQ₀ c hc
    · exact hQ' c hc

end Machine
end
