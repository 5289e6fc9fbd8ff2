import Mathlib.Algebra.Group.Nat.Defs
import Mathlib.Data.List.Basic

/-!
# `std::to_string` of a `float`

A binary32 number by its bits, and the text `%f` makes of it: the sign, the
integer part, a point and six decimals, the exact value rounded to the nearest
millionth and to the even one of two that are equally near.

Rounding is half a unit off at most (`roundHalfEven_near`), and the digits can be read
back (`ofDigitChars_digits`).
-/

namespace Binary32

/-! ## Rounding -/

/-- `num / den`, rounded to the nearest natural number, ties to even. -/
def roundHalfEven (num den : Nat) : Nat :=
  if 2 * (num % den) < den then num / den
  else if den < 2 * (num % den) then num / den + 1
  else if num / den % 2 = 0 then num / den else num / den + 1

/-- The rounded quotient is half a unit off at most. -/
theorem roundHalfEven_near (num : Nat) {den : Nat} (hden : 0 < den) :
    2 * num ≤ 2 * (den * roundHalfEven num den) + den ∧
      2 * (den * roundHalfEven num den) ≤ 2 * num + den := by
  have hdiv : den * (num / den) + num % den = num := Nat.div_add_mod num den
  have hrest : num % den < den := Nat.mod_lt num hden
  have hup : den * (num / den + 1) = den * (num / den) + den := Nat.mul_succ den (num / den)
  unfold roundHalfEven
  by_cases hbelow : 2 * (num % den) < den
  · rw [if_pos hbelow]
    omega
  · rw [if_neg hbelow]
    by_cases habove : den < 2 * (num % den)
    · rw [if_pos habove, hup]
      omega
    · rw [if_neg habove]
      by_cases heven : num / den % 2 = 0
      · rw [if_pos heven]
        omega
      · rw [if_neg heven, hup]
        omega

/-! ## Decimals -/

/-- The digits of `n`, `decimals + 1` of them at least. -/
def digits (decimals n : Nat) : List Char :=
  List.leftpad (decimals + 1) '0' (Nat.toDigits 10 n)

/-- The text of `n / 10 ^ decimals`. -/
def fixedPoint (decimals n : Nat) : List Char :=
  (digits decimals n).take ((digits decimals n).length - decimals) ++
    '.' :: (digits decimals n).drop ((digits decimals n).length - decimals)

section
variable {decimals m n : Nat}

theorem ofDigitChars_digits : Nat.ofDigitChars 10 (digits decimals n) 0 = n := by
  unfold digits List.leftpad
  rw [Nat.ofDigitChars_append, Nat.ofDigitChars_replicate_zero, Nat.mul_zero,
    Nat.ofDigitChars_ten_toDigits]

theorem decimals_lt_length_digits : decimals < (digits decimals n).length := by
  unfold digits List.leftpad
  rw [List.length_append, List.length_replicate]
  omega

/-- A text without a sign begins with a digit. -/
theorem head_fixedPoint (decimals n : Nat) :
    ∃ c rest, fixedPoint decimals n = c :: rest ∧ c.isDigit = true := by
  have hlt : decimals < (digits decimals n).length := decimals_lt_length_digits
  have hall : ∀ c ∈ digits decimals n, c.isDigit = true := by
    intro c hc
    rcases List.mem_append.mp hc with hc | hc
    · rw [List.eq_of_mem_replicate hc]
      rfl
    · exact Nat.isDigit_of_mem_toDigits (by omega) (by omega) hc
  cases hd : digits decimals n with
  | nil =>
    rw [hd] at hlt
    exact absurd hlt (Nat.not_lt_zero _)
  | cons c rest =>
    have hpos : ∃ k, (c :: rest).length - decimals = k + 1 := by
      rw [hd] at hlt
      exact ⟨(c :: rest).length - decimals - 1, by omega⟩
    obtain ⟨k, hk⟩ := hpos
    refine ⟨c, rest.take k ++ '.' :: rest.drop k, ?_, hall c (by rw [hd]; exact List.mem_cons_self)⟩
    unfold fixedPoint
    rw [hd, hk]
    rfl

end

/-! ## The number and its text -/

/-- The sign bit is set. -/
def negative (x : UInt32) : Bool := x.toNat / 2 ^ 31 == 1

def exponent (x : UInt32) : Nat := x.toNat / 2 ^ 23 % 2 ^ 8

def fraction (x : UInt32) : Nat := x.toNat % 2 ^ 23

/-- Neither an infinity nor a NaN. -/
def Finite (x : UInt32) : Prop := exponent x ≠ 255

instance (x : UInt32) : Decidable (Finite x) := inferInstanceAs (Decidable (_ ≠ _))

/-- The magnitude of a finite number, in units of `2 ^ -149`. -/
def units (x : UInt32) : Nat :=
  if exponent x = 0 then fraction x else (2 ^ 23 + fraction x) * 2 ^ (exponent x - 1)

/-- The magnitude in millionths, as it is printed. -/
def millionths (x : UInt32) : Nat := roundHalfEven (units x * 10 ^ 6) (2 ^ 149)

def magnitudeText (x : UInt32) : List Char :=
  if Finite x then fixedPoint 6 (millionths x)
  else if fraction x = 0 then "inf".toList else "nan".toList

/-- `std::to_string(float)`. -/
def toText (x : UInt32) : String :=
  String.ofList (if negative x then '-' :: magnitudeText x else magnitudeText x)

end Binary32
