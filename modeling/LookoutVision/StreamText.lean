import LookoutVision.FloatText
import Mathlib.Data.Nat.Log

/-!
# What `std::ostream` makes of numbers, and what lines make a text

`<<` writes an `int` in decimal and a `float` to six significant digits, the exact
value rounded to the nearest and to the even one of two that are equally near: with a
point where its exponent allows, else with an exponent, and in both without trailing
zeros.

A text written line by line can be read line by line, as long as no line has a line
break of its own (`unlines_inj`).
-/

namespace StreamText

/-! ## Lines -/

/-- Lines, each with its end. -/
def unlines (lines : List (List Char)) : List Char := lines.flatMap fun line => line ++ ['\n']

/-- Two texts that are the same are the same up to a mark that neither has before, and
from there on. -/
theorem eq_of_first_mark {α : Type} {mark : α} {left left' right right' : List α}
    (hleft : mark ∉ left) (hleft' : mark ∉ left')
    (h : left ++ mark :: right = left' ++ mark :: right') : left = left' ∧ right = right' := by
  induction left generalizing left' with
  | nil =>
    cases left' with
    | nil => exact ⟨rfl, (List.cons.inj h).2⟩
    | cons c left' =>
      obtain ⟨rfl, -⟩ := List.cons.inj h
      exact absurd List.mem_cons_self hleft'
  | cons c left ih =>
    cases left' with
    | nil =>
      obtain ⟨rfl, -⟩ := List.cons.inj h
      exact absurd List.mem_cons_self hleft
    | cons c' left' =>
      obtain ⟨rfl, htail⟩ := List.cons.inj h
      obtain ⟨rfl, hright⟩ := ih (fun hmem => hleft (List.mem_cons_of_mem _ hmem))
        (fun hmem => hleft' (List.mem_cons_of_mem _ hmem)) htail
      exact ⟨rfl, hright⟩

/-- **A text tells its lines.** -/
theorem unlines_inj {lines lines' : List (List Char)} (hlines : ∀ line ∈ lines, '\n' ∉ line)
    (hlines' : ∀ line ∈ lines', '\n' ∉ line) (h : unlines lines = unlines lines') :
    lines = lines' := by
  induction lines generalizing lines' with
  | nil =>
    cases lines' with
    | nil => rfl
    | cons line rest => simp [unlines] at h
  | cons line lines ih =>
    cases lines' with
    | nil => simp [unlines] at h
    | cons line' lines' =>
      simp only [unlines, List.flatMap_cons, List.append_assoc, List.singleton_append] at h
      obtain ⟨rfl, hrest⟩ := eq_of_first_mark (hlines line List.mem_cons_self)
        (hlines' line' List.mem_cons_self) h
      rw [ih (fun l hl => hlines l (List.mem_cons_of_mem _ hl))
        (fun l hl => hlines' l (List.mem_cons_of_mem _ hl)) hrest]

/-! ## An `int` -/

/-- A decimal number, as characters. -/
def ofInt : Int → List Char
  | .ofNat n => Nat.toDigits 10 n
  | .negSucc n => '-' :: Nat.toDigits 10 (n + 1)

theorem mem_ofInt {n : Int} {c : Char} (hc : c ∈ ofInt n) : c = '-' ∨ c.isDigit = true := by
  cases n with
  | ofNat n => exact Or.inr (Nat.isDigit_of_mem_toDigits (by omega) (by omega) hc)
  | negSucc n =>
    rcases List.mem_cons.mp hc with rfl | hc
    · exact Or.inl rfl
    · exact Or.inr (Nat.isDigit_of_mem_toDigits (by omega) (by omega) hc)

theorem toDigits_inj {m n : Nat} (h : Nat.toDigits 10 m = Nat.toDigits 10 n) : m = n := by
  rw [← Nat.ofDigitChars_ten_toDigits (n := m), h, Nat.ofDigitChars_ten_toDigits]

theorem minus_notMem_toDigits (n : Nat) : '-' ∉ Nat.toDigits 10 n := by
  intro hmem
  have hdigit := Nat.isDigit_of_mem_toDigits (by omega) (by omega) hmem
  cases hdigit

theorem ofInt_inj {m n : Int} (h : ofInt m = ofInt n) : m = n := by
  cases m with
  | ofNat m =>
    cases n with
    | ofNat n => exact congrArg Int.ofNat (toDigits_inj h)
    | negSucc n =>
      have hmem : '-' ∈ Nat.toDigits 10 m := by
        rw [show Nat.toDigits 10 m = '-' :: Nat.toDigits 10 (n + 1) from h]
        exact List.mem_cons_self
      exact absurd hmem (minus_notMem_toDigits m)
  | negSucc m =>
    cases n with
    | ofNat n =>
      have hmem : '-' ∈ Nat.toDigits 10 n := by
        rw [← show '-' :: Nat.toDigits 10 (m + 1) = Nat.toDigits 10 n from h]
        exact List.mem_cons_self
      exact absurd hmem (minus_notMem_toDigits n)
    | negSucc n =>
      have hsucc := toDigits_inj (List.cons.inj h).2
      exact congrArg Int.negSucc (by omega)

/-! ## A `float` -/

/-- The power of ten of the leading digit of `num / den`, which is `10 ^ -45` at least. -/
def leadingExponent (num den : Nat) : Int := (Nat.log 10 (num * 10 ^ 45 / den) : Int) - 45

/-- The six significant digits of `num / den` as a number, and the power of ten of the
first of them. -/
def significant (num den : Nat) : Nat × Int :=
  let exponent := leadingExponent num den
  let rounded := Binary32.roundHalfEven (num * 10 ^ (5 - exponent).toNat)
    (den * 10 ^ (exponent - 5).toNat)
  if rounded = 10 ^ 6 then (10 ^ 5, exponent + 1) else (rounded, exponent)

/-- Decimals without the zeros at their end, and without the point if none is left. -/
def trimDecimals (text : List Char) : List Char :=
  match text.reverse.dropWhile fun c => c == '0' with
  | '.' :: rest => rest.reverse
  | rest => rest.reverse

/-- `%g` of a number with the significant digits `mantissa`, the first of them at
`10 ^ exponent`. -/
def generalText (mantissa : Nat) (exponent : Int) : List Char :=
  if -4 ≤ exponent ∧ exponent < 6 then
    trimDecimals (Binary32.fixedPoint (5 - exponent).toNat mantissa)
  else trimDecimals (Binary32.fixedPoint 5 mantissa) ++ 'e' ::
    (if exponent < 0 then '-' else '+') :: Binary32.digits 1 exponent.natAbs

/-- A float without its sign. -/
def ofMagnitude (x : UInt32) : List Char :=
  if Binary32.Finite x then
    if Binary32.units x = 0 then ['0']
    else generalText (significant (Binary32.units x) (2 ^ 149)).1
      (significant (Binary32.units x) (2 ^ 149)).2
  else if Binary32.fraction x = 0 then "inf".toList else "nan".toList

/-- `std::ostream << float`. -/
def ofFloat (x : UInt32) : List Char :=
  if Binary32.negative x then '-' :: ofMagnitude x else ofMagnitude x

/-! ### No number has a line break -/

theorem newline_notMem_ofInt (n : Int) : '\n' ∉ ofInt n := by
  intro hmem
  rcases mem_ofInt hmem with h | h
  · cases h
  · cases h

section
variable {mark : Char} (decimals n : Nat)

theorem notMem_digits (hdigit : mark.isDigit = false) : mark ∉ Binary32.digits decimals n := by
  intro hmem
  suffices htrue : mark.isDigit = true by
    rw [hdigit] at htrue
    cases htrue
  rcases List.mem_append.mp hmem with hzero | hmark
  · rw [List.eq_of_mem_replicate hzero]
    rfl
  · exact Nat.isDigit_of_mem_toDigits (by omega) (by omega) hmark

/-- Digits and a point are all there is. -/
theorem notMem_fixedPoint (hdigit : mark.isDigit = false) (hpoint : mark ≠ '.') :
    mark ∉ Binary32.fixedPoint decimals n := by
  intro hmem
  rcases List.mem_append.mp hmem with htake | hrest
  · exact notMem_digits decimals n hdigit (List.mem_of_mem_take htake)
  · rcases List.mem_cons.mp hrest with hmark | hdrop
    · exact hpoint hmark
    · exact notMem_digits decimals n hdigit (List.mem_of_mem_drop hdrop)

end

/-- What is left of a text was in it. -/
theorem mem_of_mem_trimDecimals {text : List Char} {c : Char} (h : c ∈ trimDecimals text) :
    c ∈ text := by
  have hdropped : ∀ d ∈ text.reverse.dropWhile fun d => d == '0', d ∈ text := fun d hd =>
    List.mem_reverse.mp ((List.dropWhile_sublist _).subset hd)
  unfold trimDecimals at h
  split at h
  · rename_i rest hrest
    exact hdropped c (hrest ▸ List.mem_cons_of_mem _ (List.mem_reverse.mp h))
  · exact hdropped c (List.mem_reverse.mp h)

theorem notMem_trimDecimals {mark : Char} (decimals n : Nat) (hdigit : mark.isDigit = false)
    (hpoint : mark ≠ '.') : mark ∉ trimDecimals (Binary32.fixedPoint decimals n) :=
  fun hmem => notMem_fixedPoint decimals n hdigit hpoint (mem_of_mem_trimDecimals hmem)

theorem newline_notMem_generalText (mantissa : Nat) (exponent : Int) :
    '\n' ∉ generalText mantissa exponent := by
  intro hmem
  unfold generalText at hmem
  split at hmem
  · exact notMem_trimDecimals _ _ rfl (by decide) hmem
  · rcases List.mem_append.mp hmem with hmem | hmem
    · exact notMem_trimDecimals _ _ rfl (by decide) hmem
    · rcases List.mem_cons.mp hmem with h | hmem
      · cases h
      · rcases List.mem_cons.mp hmem with h | hmem
        · split at h
          · cases h
          · cases h
        · exact notMem_digits _ _ rfl hmem

theorem newline_notMem_ofMagnitude (x : UInt32) : '\n' ∉ ofMagnitude x := by
  unfold ofMagnitude
  split
  · split
    · decide
    · exact newline_notMem_generalText _ _
  · split
    · decide
    · decide

theorem newline_notMem_ofFloat (x : UInt32) : '\n' ∉ ofFloat x := by
  intro hmem
  unfold ofFloat at hmem
  split at hmem
  · rcases List.mem_cons.mp hmem with h | hmem
    · cases h
    · exact newline_notMem_ofMagnitude x hmem
  · exact newline_notMem_ofMagnitude x hmem

end StreamText
