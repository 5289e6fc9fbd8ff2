import LookoutVision.StreamText
import Mathlib.Algebra.Order.Field.Power
import Mathlib.Algebra.Order.Field.Rat
import Mathlib.Data.List.TakeWhile
import Mathlib.Data.Rat.Cast.Order
import Mathlib.Tactic.FieldSimp
import Mathlib.Tactic.Linarith
import Mathlib.Tactic.Positivity
import Mathlib.Tactic.Ring

/-!
# Reading back the text of a `float`

What `std::ostream` and `std::to_string` write of a `float` is a sign, digits, perhaps a
point, perhaps an exponent.  `readFloat` is the number that such a text stands for.

Zeros dropped at the end of the decimals do not change it (`readDecimal_trimDecimals`), so
it is the number that was written, rounded to six significant digits or to six decimals
and half a unit of the last one off at most: `<<` is true to a two hundred thousandth of
the number (`readFloat_ofFloat`), `to_string` to half a millionth (`readFloat_toText`).
Numbers of one text are then as near to each other (`TellsFinite.alike`).
-/

namespace StreamText

/-! ## Reading -/

/-- A text before its first `mark`, and after it. -/
def cut (mark : Char) (text : List Char) : List Char × List Char :=
  (text.takeWhile fun c => c != mark, (text.dropWhile fun c => c != mark).tail)

/-- The number that digits stand for, before and after a point. -/
def readDecimal (text : List Char) : ℚ :=
  Nat.ofDigitChars 10 (cut '.' text).1 0 +
    Nat.ofDigitChars 10 (cut '.' text).2 0 / 10 ^ (cut '.' text).2.length

def readExponent : List Char → Int
  | [] => 0
  | sign :: power =>
      if sign = '-' then -(Nat.ofDigitChars 10 power 0 : Int) else Nat.ofDigitChars 10 power 0

def readMagnitude (text : List Char) : ℚ :=
  readDecimal (cut 'e' text).1 * 10 ^ readExponent (cut 'e' text).2

/-- The number that the text of a `float` stands for. -/
def readFloat (text : List Char) : ℚ :=
  if text.head? = some '-' then -readMagnitude text.tail else readMagnitude text

section
variable {mark : Char} {left right text whole decimals : List Char}

theorem cut_append (h : mark ∉ left) : cut mark (left ++ mark :: right) = (left, right) := by
  have hall : ∀ c ∈ left, (c != mark) = true := by
    intro c hc
    rw [bne_iff_ne]
    rintro rfl
    exact h hc
  unfold cut
  rw [List.takeWhile_append_of_pos hall, List.dropWhile_append_of_pos hall]
  simp

theorem cut_of_notMem (h : mark ∉ text) : cut mark text = (text, []) := by
  have hall : ∀ c ∈ text, (c != mark) = true := by
    intro c hc
    rw [bne_iff_ne]
    rintro rfl
    exact h hc
  unfold cut
  rw [List.takeWhile_eq_self_iff.mpr hall, List.dropWhile_eq_nil_iff.mpr hall]
  rfl

theorem readDecimal_point (h : '.' ∉ whole) :
    readDecimal (whole ++ '.' :: decimals) =
      Nat.ofDigitChars 10 whole 0 + Nat.ofDigitChars 10 decimals 0 / 10 ^ decimals.length := by
  unfold readDecimal
  rw [cut_append h]

theorem readDecimal_whole (h : '.' ∉ whole) :
    readDecimal whole = Nat.ofDigitChars 10 whole 0 := by
  unfold readDecimal
  rw [cut_of_notMem h]
  simp

/-! ## Zeros at the end -/

theorem trimDecimals_zero : trimDecimals (text ++ ['0']) = trimDecimals text := by
  have hdrop : (text ++ ['0']).reverse.dropWhile (fun c => c == '0') =
      text.reverse.dropWhile fun c => c == '0' := by
    rw [List.reverse_append]
    rfl
  unfold trimDecimals
  rw [hdrop]

theorem trimDecimals_keep {c : Char} (hzero : c ≠ '0') (hpoint : c ≠ '.') :
    trimDecimals (text ++ [c]) = text ++ [c] := by
  have hdrop : (text ++ [c]).reverse.dropWhile (fun c => c == '0') = c :: text.reverse := by
    rw [List.reverse_append]
    exact List.dropWhile_cons_of_neg (by simpa using hzero)
  unfold trimDecimals
  rw [hdrop]
  split
  · rename_i heq
    exact absurd (List.cons.inj heq).1 hpoint
  · simp

theorem trimDecimals_none : trimDecimals (whole ++ ['.']) = whole := by
  have hdrop : (whole ++ ['.']).reverse.dropWhile (fun c => c == '0') =
      '.' :: whole.reverse := by
    rw [List.reverse_append]
    rfl
  unfold trimDecimals
  rw [hdrop]
  exact List.reverse_reverse whole

/-- **Decimals keep their value** when the zeros at their end go. -/
theorem readDecimal_trimDecimals (hwhole : '.' ∉ whole) (hdecimals : '.' ∉ decimals) :
    readDecimal (trimDecimals (whole ++ '.' :: decimals)) =
      readDecimal (whole ++ '.' :: decimals) := by
  induction decimals using List.reverseRecOn with
  | nil =>
    rw [trimDecimals_none, readDecimal_whole hwhole, readDecimal_point hwhole]
    simp
  | append_singleton decimals c ih =>
    have hassoc : whole ++ '.' :: (decimals ++ [c]) = (whole ++ '.' :: decimals) ++ [c] := by
      simp
    by_cases hzero : c = '0'
    · subst hzero
      have hdigits : Nat.ofDigitChars 10 (decimals ++ ['0']) 0 =
          10 * Nat.ofDigitChars 10 decimals 0 := by
        rw [Nat.ofDigitChars_append]
        exact Nat.ofDigitChars_replicate_zero (n := 1)
      rw [hassoc, trimDecimals_zero, ← hassoc,
        ih fun hmem => hdecimals (List.mem_append_left _ hmem), readDecimal_point hwhole,
        readDecimal_point hwhole, hdigits, List.length_append, List.length_singleton]
      push_cast
      field_simp
      ring
    · have hpoint : c ≠ '.' := by
        rintro rfl
        exact hdecimals (List.mem_append_right _ List.mem_cons_self)
      rw [hassoc, trimDecimals_keep hzero hpoint]

/-! ## What was written reads back -/

/-- The digits before the point, and those after it. -/
theorem fixedPoint_parts (decimals n : Nat) :
    ∃ whole rest, Binary32.fixedPoint decimals n = whole ++ '.' :: rest ∧ '.' ∉ whole ∧
      '.' ∉ rest ∧ rest.length = decimals ∧
      n = 10 ^ decimals * Nat.ofDigitChars 10 whole 0 + Nat.ofDigitChars 10 rest 0 := by
  have hlt : decimals < (Binary32.digits decimals n).length := Binary32.decimals_lt_length_digits
  have hpoint : '.' ∉ Binary32.digits decimals n := notMem_digits decimals n rfl
  have hread : Nat.ofDigitChars 10 (Binary32.digits decimals n) 0 = n :=
    Binary32.ofDigitChars_digits
  unfold Binary32.fixedPoint
  generalize Binary32.digits decimals n = ds at hlt hpoint hread
  have hlength : (ds.drop (ds.length - decimals)).length = decimals := by
    rw [List.length_drop, Nat.sub_sub_self hlt.le]
  refine ⟨ds.take (ds.length - decimals), ds.drop (ds.length - decimals), rfl,
    fun hmem => hpoint (List.mem_of_mem_take hmem),
    fun hmem => hpoint (List.mem_of_mem_drop hmem), hlength, ?_⟩
  calc n = Nat.ofDigitChars 10
        (ds.take (ds.length - decimals) ++ ds.drop (ds.length - decimals)) 0 := by
        rw [List.take_append_drop, hread]
    _ = Nat.ofDigitChars 10 (ds.drop (ds.length - decimals))
        (Nat.ofDigitChars 10 (ds.take (ds.length - decimals)) 0) := Nat.ofDigitChars_append 0
    _ = 10 ^ (ds.drop (ds.length - decimals)).length *
          Nat.ofDigitChars 10 (ds.take (ds.length - decimals)) 0 +
        Nat.ofDigitChars 10 (ds.drop (ds.length - decimals)) 0 :=
      Nat.ofDigitChars_eq_ofDigitChars_zero
    _ = _ := by rw [hlength]

theorem readDecimal_fixedPoint (decimals n : Nat) :
    readDecimal (Binary32.fixedPoint decimals n) = n / 10 ^ decimals := by
  obtain ⟨whole, rest, htext, hwhole, -, hlength, hn⟩ := fixedPoint_parts decimals n
  rw [htext, readDecimal_point hwhole, hlength, hn]
  push_cast
  field_simp

theorem readDecimal_trimmed (decimals n : Nat) :
    readDecimal (trimDecimals (Binary32.fixedPoint decimals n)) = n / 10 ^ decimals := by
  obtain ⟨whole, rest, htext, hwhole, hrest, -, -⟩ := fixedPoint_parts decimals n
  rw [← readDecimal_fixedPoint, htext, readDecimal_trimDecimals hwhole hrest]

theorem readExponent_digits (exponent : Int) :
    readExponent ((if exponent < 0 then '-' else '+') ::
      Binary32.digits 1 exponent.natAbs) = exponent := by
  have hread : Nat.ofDigitChars 10 (Binary32.digits 1 exponent.natAbs) 0 = exponent.natAbs :=
    Binary32.ofDigitChars_digits
  by_cases hneg : exponent < 0
  · simp only [readExponent, hneg, if_true, hread]
    omega
  · simp only [readExponent, hneg, if_false, hread, show ('+' : Char) ≠ '-' by decide]
    omega

/-- **The digits read back**, with and without an exponent. -/
theorem readMagnitude_generalText (mantissa : Nat) (exponent : Int) :
    readMagnitude (generalText mantissa exponent) = mantissa * 10 ^ (exponent - 5) := by
  have hten : (10 : ℚ) ≠ 0 := by norm_num
  have hmark : ∀ decimals, 'e' ∉ trimDecimals (Binary32.fixedPoint decimals mantissa) :=
    fun _ => notMem_trimDecimals _ _ rfl (by decide)
  unfold readMagnitude generalText
  split
  · rename_i hplain
    have hpower : ((10 : ℚ) ^ (5 - exponent).toNat)⁻¹ = 10 ^ (exponent - 5) := by
      rw [← zpow_natCast, ← zpow_neg, Int.toNat_of_nonneg (by omega)]
      congr 1
      omega
    rw [cut_of_notMem (hmark _), readDecimal_trimmed, div_eq_mul_inv, hpower]
    simp [readExponent]
  · rw [cut_append (hmark _), readDecimal_trimmed, readExponent_digits, zpow_sub₀ hten]
    field_simp

/-! ## Six digits are near -/

/-- The leading digit stands at its exponent. -/
theorem leadingExponent_le {num den : Nat} (hden : 0 < den) (hbig : den ≤ num * 10 ^ 45) :
    (10 : ℚ) ^ leadingExponent num den ≤ num / den := by
  have hten : (10 : ℚ) ≠ 0 := by norm_num
  have hlog : 10 ^ Nat.log 10 (num * 10 ^ 45 / den) * den ≤ num * 10 ^ 45 := by
    have hpow := Nat.pow_log_le_self 10 (Nat.div_pos hbig hden).ne'
    exact (Nat.mul_le_mul_right den hpow).trans (Nat.div_mul_le_self _ _)
  have hcast : (10 : ℚ) ^ Nat.log 10 (num * 10 ^ 45 / den) * den ≤ num * 10 ^ 45 := by
    exact_mod_cast hlog
  have hpos : (0 : ℚ) < den := by exact_mod_cast hden
  unfold leadingExponent
  rw [zpow_sub₀ hten, zpow_natCast, le_div_iff₀ hpos, div_mul_eq_mul_div,
    div_le_iff₀ (by positivity)]
  exact_mod_cast hcast

/-- A rounded quotient, both parts of it shifted by the same power of ten. -/
theorem roundHalfEven_shift_near (num : Nat) {den : Nat} (hden : 0 < den) (exponent : Int) :
    |(Binary32.roundHalfEven (num * 10 ^ (5 - exponent).toNat)
        (den * 10 ^ (exponent - 5).toNat) : ℚ) * 10 ^ (exponent - 5) - num / den| ≤
      10 ^ (exponent - 5) / 2 := by
  have hshift : (10 : ℚ) ^ (exponent - 5).toNat =
      10 ^ (exponent - 5) * 10 ^ (5 - exponent).toNat := by
    rw [← zpow_natCast, ← zpow_natCast, ← zpow_add₀ (by norm_num)]
    congr 1
    omega
  obtain ⟨hbelow, habove⟩ := Binary32.roundHalfEven_near (num * 10 ^ (5 - exponent).toNat)
    (Nat.mul_pos hden (Nat.pow_pos (n := (exponent - 5).toNat) (show 0 < 10 by omega)))
  generalize Binary32.roundHalfEven (num * 10 ^ (5 - exponent).toNat)
    (den * 10 ^ (exponent - 5).toNat) = rounded at hbelow habove ⊢
  have hpos : (0 : ℚ) < 10 ^ (5 - exponent).toNat := by positivity
  have hdenpos : (0 : ℚ) < den := by exact_mod_cast hden
  have hbelow' : (2 : ℚ) * (num * 10 ^ (5 - exponent).toNat) ≤
      2 * (den * 10 ^ (exponent - 5).toNat * rounded) + den * 10 ^ (exponent - 5).toNat := by
    exact_mod_cast hbelow
  have habove' : (2 : ℚ) * (den * 10 ^ (exponent - 5).toNat * rounded) ≤
      2 * (num * 10 ^ (5 - exponent).toNat) + den * 10 ^ (exponent - 5).toNat := by
    exact_mod_cast habove
  rw [hshift] at hbelow' habove'
  generalize (10 : ℚ) ^ (exponent - 5) = unit at hbelow' habove' ⊢
  have hlow : (num : ℚ) ≤ (rounded * unit + unit / 2) * den :=
    le_of_mul_le_mul_right (by linarith) hpos
  have hhigh : (rounded * unit - unit / 2) * den ≤ (num : ℚ) :=
    le_of_mul_le_mul_right (by linarith) hpos
  have hlow' := (div_le_iff₀ hdenpos).mpr hlow
  have hhigh' := (le_div_iff₀ hdenpos).mpr hhigh
  rw [abs_le]
  constructor <;> linarith

/-- **The six digits** are half a unit of the last one off at most, which is a two hundred
thousandth of the number. -/
theorem significant_near {num den : Nat} (hden : 0 < den) (hbig : den ≤ num * 10 ^ 45) :
    |((significant num den).1 : ℚ) * 10 ^ ((significant num den).2 - 5) - num / den| ≤
      (num / den : ℚ) / 200000 := by
  have hten : (10 : ℚ) ≠ 0 := by norm_num
  have hlead : (10 : ℚ) ^ leadingExponent num den ≤ num / den := leadingExponent_le hden hbig
  have hrounded := roundHalfEven_shift_near num hden (leadingExponent num den)
  generalize hexponent : leadingExponent num den = exponent at hlead hrounded
  generalize hquotient : Binary32.roundHalfEven (num * 10 ^ (5 - exponent).toNat)
    (den * 10 ^ (exponent - 5).toNat) = rounded at hrounded
  have hdigits : ((significant num den).1 : ℚ) * 10 ^ ((significant num den).2 - 5) =
      rounded * 10 ^ (exponent - 5) := by
    simp only [significant, hexponent, hquotient]
    by_cases hcarry : rounded = 10 ^ 6
    · rw [if_pos hcarry, hcarry, show exponent + 1 - 5 = exponent - 5 + 1 by omega,
        zpow_add_one₀ hten]
      push_cast
      ring
    · rw [if_neg hcarry]
  have hpower : (10 : ℚ) ^ exponent = 10 ^ (exponent - 5) * 100000 := by
    rw [zpow_sub₀ hten]
    norm_num
  rw [hdigits]
  refine hrounded.trans ?_
  rw [hpower] at hlead
  linarith

/-! ## Signs -/

/-- A magnitude's text, with the sign before it. -/
def signed (magnitude : UInt32 → List Char) (x : UInt32) : List Char :=
  if Binary32.negative x then '-' :: magnitude x else magnitude x

/-- A text of magnitudes that says of what is not finite what it is, and of a finite one
something else. -/
structure TellsFinite (magnitude : UInt32 → List Char) : Prop where
  special : ∀ x, ¬ Binary32.Finite x →
    magnitude x = if Binary32.fraction x = 0 then "inf".toList else "nan".toList
  finite : ∀ x, Binary32.Finite x → ∀ mark : Char, mark ∈ ['-', 'i', 'n'] →
    (magnitude x).head? ≠ some mark

theorem notDigit_of_mem : ∀ mark ∈ ['-', 'i', 'n'],
    mark.isDigit = false ∧ mark ≠ '.' ∧ mark ≠ 'e' := by
  simp only [List.forall_mem_cons]
  refine ⟨⟨rfl, ?_, ?_⟩, ⟨rfl, ?_, ?_⟩, ⟨rfl, ?_, ?_⟩, fun _ hnil => absurd hnil List.not_mem_nil⟩
  all_goals decide

section
variable {magnitude : UInt32 → List Char} {x y : UInt32}

/-- No magnitude begins with a sign. -/
theorem TellsFinite.head_ne_minus (hm : TellsFinite magnitude) (x : UInt32) :
    (magnitude x).head? ≠ some '-' := by
  by_cases hx : Binary32.Finite x
  · exact hm.finite x hx '-' (by decide)
  · rw [hm.special x hx]
    split
    · decide
    · decide

theorem TellsFinite.head_signed (hm : TellsFinite magnitude) (x : UInt32) :
    (signed magnitude x).head? = some '-' ↔ Binary32.negative x = true := by
  unfold signed
  split
  · rename_i hneg
    exact iff_of_true rfl hneg
  · rename_i hneg
    exact iff_of_false (hm.head_ne_minus x) hneg

theorem TellsFinite.finite_of_eq (hm : TellsFinite magnitude) (h : magnitude x = magnitude y)
    (hx : Binary32.Finite x) : Binary32.Finite y := by
  by_contra hy
  have hinf := hm.finite x hx 'i' (by decide)
  have hnan := hm.finite x hx 'n' (by decide)
  rw [h, hm.special y hy] at hinf hnan
  by_cases hfraction : Binary32.fraction y = 0
  · rw [if_pos hfraction] at hinf
    exact hinf rfl
  · rw [if_neg hfraction] at hnan
    exact hnan rfl

theorem TellsFinite.signed_inj (hm : TellsFinite magnitude)
    (h : signed magnitude x = signed magnitude y) :
    Binary32.negative x = Binary32.negative y ∧ magnitude x = magnitude y := by
  have hsign : Binary32.negative x = Binary32.negative y := by
    rw [Bool.eq_iff_iff, ← hm.head_signed x, ← hm.head_signed y, h]
  refine ⟨hsign, ?_⟩
  unfold signed at h
  rw [hsign] at h
  split at h
  · exact (List.cons.inj h).2
  · exact h

end

/-! ## Numbers of one text -/

/-- A finite number, as the rational number it is. -/
def value (x : UInt32) : ℚ :=
  if Binary32.negative x then -(Binary32.units x / 2 ^ 149) else Binary32.units x / 2 ^ 149

/-- Two floats that a text does not tell apart which is off by `tolerance` at most. -/
structure Alike (tolerance : ℚ → ℚ) (x y : UInt32) : Prop where
  sign : Binary32.negative x = Binary32.negative y
  finite : Binary32.Finite x ↔ Binary32.Finite y
  near : Binary32.Finite x → |value x - value y| ≤ tolerance (value x) + tolerance (value y)
  nan : ¬ Binary32.Finite x → (Binary32.fraction x = 0 ↔ Binary32.fraction y = 0)

/-- **Numbers of one text are alike**, where finite numbers of one text are both near to
what it says. -/
theorem TellsFinite.alike {magnitude : UInt32 → List Char} {tolerance : ℚ → ℚ}
    (hm : TellsFinite magnitude) (said : List Char → ℚ)
    (hsaid : ∀ x, Binary32.Finite x →
      |said (signed magnitude x) - value x| ≤ tolerance (value x))
    {x y : UInt32} (h : signed magnitude x = signed magnitude y) : Alike tolerance x y := by
  obtain ⟨hsign, hmagnitude⟩ := hm.signed_inj h
  have hfinite : Binary32.Finite x ↔ Binary32.Finite y :=
    ⟨hm.finite_of_eq hmagnitude, hm.finite_of_eq hmagnitude.symm⟩
  refine ⟨hsign, hfinite, fun hx => ?_, fun hx => ?_⟩
  · have hnear := hsaid x hx
    have hnear' := hsaid y (hfinite.mp hx)
    rw [h, abs_sub_comm] at hnear
    calc |value x - value y|
        ≤ |value x - said (signed magnitude y)| + |said (signed magnitude y) - value y| :=
          abs_sub_le _ _ _
      _ ≤ tolerance (value x) + tolerance (value y) := add_le_add hnear hnear'
  · rw [hm.special x hx, hm.special y (mt hfinite.mpr hx)] at hmagnitude
    by_cases hinf : Binary32.fraction x = 0 <;> by_cases hinf' : Binary32.fraction y = 0
    · exact iff_of_true hinf hinf'
    · rw [if_pos hinf, if_neg hinf'] at hmagnitude
      cases hmagnitude
    · rw [if_neg hinf, if_pos hinf'] at hmagnitude
      cases hmagnitude
    · exact iff_of_false hinf hinf'

/-- A text whose magnitude reads back reads back with its sign. -/
theorem TellsFinite.readFloat_near {magnitude : UInt32 → List Char}
    (hm : TellsFinite magnitude) {x : UInt32} {error : ℚ}
    (hnear : |readMagnitude (magnitude x) - Binary32.units x / 2 ^ 149| ≤ error) :
    |readFloat (signed magnitude x) - value x| ≤ error := by
  have hhead := hm.head_signed x
  by_cases hneg : Binary32.negative x = true
  · have htext : (signed magnitude x).tail = magnitude x := by
      unfold signed
      rw [if_pos hneg]
      rfl
    unfold readFloat value
    rw [if_pos (hhead.mpr hneg), if_pos hneg, htext, neg_sub_neg, abs_sub_comm]
    exact hnear
  · have htext : signed magnitude x = magnitude x := by
      unfold signed
      rw [if_neg hneg]
    unfold readFloat value
    rw [if_neg (mt hhead.mp hneg), if_neg hneg, htext]
    exact hnear

theorem abs_value (x : UInt32) : |value x| = Binary32.units x / 2 ^ 149 := by
  have hpos : (0 : ℚ) ≤ Binary32.units x / 2 ^ 149 := by positivity
  unfold value
  split
  · rw [abs_neg, abs_of_nonneg hpos]
  · exact abs_of_nonneg hpos

/-! ### `std::ostream` -/

theorem tellsFinite_ofMagnitude : TellsFinite ofMagnitude where
  special := by
    intro x hx
    unfold ofMagnitude
    rw [if_neg hx]
  finite := by
    intro x hx mark hmark hhead
    obtain ⟨hdigit, hpoint, hexponent⟩ := notDigit_of_mem mark hmark
    unfold ofMagnitude at hhead
    rw [if_pos hx] at hhead
    split at hhead
    · obtain rfl := Option.some.inj hhead
      cases hdigit
    · unfold generalText at hhead
      split at hhead
      · exact notMem_trimDecimals _ _ hdigit hpoint (List.mem_of_head? hhead)
      · rw [List.head?_append, Option.or_eq_some_iff] at hhead
        rcases hhead with hhead | ⟨-, hhead⟩
        · exact notMem_trimDecimals _ _ hdigit hpoint (List.mem_of_head? hhead)
        · exact hexponent (Option.some.inj hhead).symm

theorem readMagnitude_ofMagnitude {x : UInt32} (hx : Binary32.Finite x) :
    |readMagnitude (ofMagnitude x) - Binary32.units x / 2 ^ 149| ≤
      (Binary32.units x / 2 ^ 149 : ℚ) / 200000 := by
  unfold ofMagnitude
  rw [if_pos hx]
  by_cases hzero : Binary32.units x = 0
  · rw [if_pos hzero, hzero]
    have hread : readMagnitude ['0'] = 0 := by
      have hdigit : Nat.ofDigitChars 10 ['0'] 0 = 0 := rfl
      unfold readMagnitude
      rw [cut_of_notMem (by decide), readDecimal_whole (by decide), hdigit]
      simp
    rw [hread]
    simp
  · rw [if_neg hzero, readMagnitude_generalText]
    have hbig : 2 ^ 149 ≤ Binary32.units x * 10 ^ 45 :=
      calc 2 ^ 149 ≤ 1 * 10 ^ 45 := by norm_num
        _ ≤ Binary32.units x * 10 ^ 45 := Nat.mul_le_mul_right _ (Nat.pos_of_ne_zero hzero)
    have hnear := significant_near (Nat.two_pow_pos 149) hbig
    push_cast at hnear
    exact hnear

/-- How far six significant digits may be off. -/
def sixDigits (v : ℚ) : ℚ := |v| / 200000

/-- **A finite number reads back** to within a two hundred thousandth of it. -/
theorem readFloat_ofFloat {x : UInt32} (hx : Binary32.Finite x) :
    |readFloat (ofFloat x) - value x| ≤ sixDigits (value x) := by
  unfold sixDigits
  rw [abs_value]
  exact tellsFinite_ofMagnitude.readFloat_near (readMagnitude_ofMagnitude hx)

theorem alike_of_ofFloat {x y : UInt32} (h : ofFloat x = ofFloat y) : Alike sixDigits x y :=
  tellsFinite_ofMagnitude.alike readFloat (fun _ hx => readFloat_ofFloat hx) h

/-! ### `std::to_string` -/

theorem tellsFinite_magnitudeText : TellsFinite Binary32.magnitudeText where
  special := by
    intro x hx
    unfold Binary32.magnitudeText
    rw [if_neg hx]
  finite := by
    intro x hx mark hmark hhead
    obtain ⟨hdigit, -⟩ := notDigit_of_mem mark hmark
    obtain ⟨c, rest, hc, htrue⟩ := Binary32.head_fixedPoint 6 (Binary32.millionths x)
    unfold Binary32.magnitudeText at hhead
    rw [if_pos hx, hc] at hhead
    obtain rfl := Option.some.inj hhead
    rw [htrue] at hdigit
    cases hdigit

theorem readMagnitude_magnitudeText {x : UInt32} (hx : Binary32.Finite x) :
    |readMagnitude (Binary32.magnitudeText x) - Binary32.units x / 2 ^ 149| ≤ 1 / 2000000 := by
  have hmark : 'e' ∉ Binary32.fixedPoint 6 (Binary32.millionths x) :=
    notMem_fixedPoint _ _ rfl (by decide)
  have hnear := roundHalfEven_shift_near (Binary32.units x) (Nat.two_pow_pos 149) (-1)
  rw [show (5 - (-1 : Int)).toNat = 6 from rfl, show (-1 - 5 : Int) = -6 from rfl,
    show (-6 : Int).toNat = 0 from rfl, Nat.pow_zero, Nat.mul_one] at hnear
  unfold readMagnitude Binary32.magnitudeText
  rw [if_pos hx, cut_of_notMem hmark, readDecimal_fixedPoint]
  push_cast at hnear
  rw [show (10 : ℚ) ^ (-6 : Int) = 1 / 10 ^ 6 by norm_num, mul_one_div] at hnear
  simp only [readExponent, zpow_zero, mul_one]
  exact hnear.trans (by norm_num)

/-- How far six decimals may be off. -/
def sixDecimals (_ : ℚ) : ℚ := 1 / 2000000

theorem toList_toText (x : UInt32) :
    (Binary32.toText x).toList = signed Binary32.magnitudeText x :=
  String.toList_ofList

/-- **A finite number reads back** to within half a millionth. -/
theorem readFloat_toText {x : UInt32} (hx : Binary32.Finite x) :
    |readFloat (Binary32.toText x).toList - value x| ≤ sixDecimals (value x) := by
  rw [toList_toText]
  exact tellsFinite_magnitudeText.readFloat_near (readMagnitude_magnitudeText hx)

theorem alike_of_toText {x y : UInt32} (h : Binary32.toText x = Binary32.toText y) :
    Alike sixDecimals x y := by
  refine tellsFinite_magnitudeText.alike readFloat (fun x hx => ?_)
    (String.ofList_injective h)
  rw [← toList_toText]
  exact readFloat_toText hx

end

end StreamText
