import CodeMentor.Number.Binary64
import Mathlib.Data.Nat.Basic
import Mathlib.Tactic.Ring
import Mathlib.Tactic.Positivity

/-!
# The range of binary numbers

Magnitudes count numbers from zero upwards, `2 ^ 52` of them for each power of two, so a bound on a
magnitude bounds the value and the other way round. The main result says that a product stays finite
as long as the powers of two that bound its factors leave room. A number that is moved into a range
is in the range, unless it is NaN.
-/

namespace CodeMentor.Number

theorem roundDiv_le (num den : Nat) : roundDiv num den ≤ num / den + 1 := by
  have hparity := Nat.mod_lt (num / den) (show 0 < 2 by decide)
  simp only [roundDiv]
  split
  · omega
  · split <;> omega

namespace Binary64

theorem magnitude_ofMagnitude (negative : Bool) (m : Nat) :
    (ofMagnitude negative m).magnitude = min m infinite := by
  have hlt : min m infinite < 2 ^ 63 := lt_of_le_of_lt (min_le_right m infinite) (by decide)
  have hsum : (if negative then Nat.pow 2 63 else 0) + min m infinite < UInt64.size := by
    cases negative <;> simp only [Nat.pow_eq, UInt64.size] <;> simp <;> omega
  rw [magnitude, ofMagnitude, UInt64.toNat_ofNat_of_lt' hsum]
  cases negative
  · simpa using Nat.mod_eq_of_lt hlt
  · simpa using Nat.mod_eq_of_lt hlt

/-- The absolute value is at most `2 ^ e`, whose magnitude this is. -/
def AtMost (x : Binary64) (e : Nat) : Prop :=
  x.magnitude ≤ (e + 1023) * 2 ^ 52

theorem AtMost.isFinite {x : Binary64} {e : Nat} (h : x.AtMost e) (he : e ≤ 1023) :
    x.isFinite = true := by
  have hle : x.magnitude ≤ (1023 + 1023) * 2 ^ 52 := h.trans (by gcongr)
  rw [Binary64.isFinite, decide_eq_true_iff]
  exact hle.trans_lt (by decide)

theorem AtMost.isNaN {x : Binary64} {e : Nat} (h : x.AtMost e) (he : e ≤ 1023) :
    x.isNaN = false := by
  have hfinite := h.isFinite he
  simp only [Binary64.isFinite, decide_eq_true_eq] at hfinite
  simpa [Binary64.isNaN] using hfinite.le

theorem unitsPerOne_mul_pow (e : Nat) : unitsPerOne * 2 ^ e = 2 ^ (e + 1074) := by
  unfold unitsPerOne
  generalize 1074 = k
  rw [Nat.pow_eq, ← pow_add, add_comm]

theorem unitsPerOne_pos : 0 < unitsPerOne := by
  unfold unitsPerOne
  generalize 1074 = k
  exact Nat.two_pow_pos k

/-- The scale leaves at most 53 bits of the quotient, and rounding adds at most one. -/
theorem atMost_ofRatio (negative : Bool) {num den e : Nat} (h : num < den * 2 ^ e) :
    (ofRatio negative num den).AtMost e := by
  set q := num * unitsPerOne / den with hq
  set scale := Nat.log2 q - 52 with hscale
  have hden : 0 < den := Nat.pos_of_ne_zero fun hzero ↦ by simp [hzero] at h
  have hlow : q < 2 ^ (e + 1074) := by
    rw [hq, Nat.div_lt_iff_lt_mul hden, ← unitsPerOne_mul_pow, mul_comm num, mul_assoc,
      mul_comm (2 ^ e)]
    exact Nat.mul_lt_mul_of_pos_left h unitsPerOne_pos
  have hlog : q ≠ 0 → Nat.log2 q < e + 1074 := fun hne ↦ (Nat.log2_lt hne).mpr hlow
  have hbits : q / 2 ^ scale < 2 ^ 53 := by
    rw [Nat.div_lt_iff_lt_mul (by positivity), ← pow_add]
    exact Nat.lt_log2_self.trans_le (Nat.pow_le_pow_right (by decide) (by omega))
  have hround : roundDiv (num * unitsPerOne) (den * 2 ^ scale) ≤ 2 ^ 53 := by
    have hle := roundDiv_le (num * unitsPerOne) (den * 2 ^ scale)
    rw [← Nat.div_div_eq_div_mul, ← hq] at hle
    omega
  have hscale_le : scale ≤ e + 1021 := by
    by_cases hzero : q = 0
    · simp [hscale, hzero]
    · have hlt := hlog hzero
      omega
  rw [AtMost, ofRatio, magnitude_ofMagnitude]
  calc min (scale * 2 ^ 52 + roundDiv (num * unitsPerOne) (den * 2 ^ scale)) infinite
      ≤ scale * 2 ^ 52 + roundDiv (num * unitsPerOne) (den * 2 ^ scale) := min_le_left _ _
    _ ≤ (e + 1021) * 2 ^ 52 + 2 ^ 53 := by gcongr
    _ = (e + 1023) * 2 ^ 52 := by ring

theorem atMost_ofNat {n e : Nat} (h : n < 2 ^ e) : (ofNat n).AtMost e :=
  atMost_ofRatio false (by simpa using h)

theorem AtMost.units_lt {x : Binary64} {e : Nat} (h : x.AtMost e) :
    x.units < unitsPerOne * 2 ^ (e + 1) := by
  have hsignificand : x.significand < 2 ^ 53 := by
    have hmod := Nat.mod_lt x.magnitude (show 0 < 2 ^ 52 by decide)
    simp only [significand]
    split
    · simp only [Nat.pow_eq] at *
      omega
    · simp only [Nat.pow_eq] at *
      omega
  have hscale : x.scale ≤ e + 1022 := by
    have hle := Nat.div_le_div_right (c := 2 ^ 52) h
    rw [Nat.mul_div_cancel _ (by decide)] at hle
    simp only [scale, Nat.pow_eq]
    omega
  rw [unitsPerOne_mul_pow, units, Nat.pow_eq]
  calc x.significand * 2 ^ x.scale
      < 2 ^ 53 * 2 ^ x.scale := Nat.mul_lt_mul_of_pos_right hsignificand (by positivity)
    _ ≤ 2 ^ 53 * 2 ^ (e + 1022) := by gcongr; decide
    _ = 2 ^ (e + 1 + 1074) := by
        rw [← pow_add, show 53 + (e + 1022) = e + 1 + 1074 by omega]

/-- A product is finite as long as the bounds of its factors leave room. -/
theorem AtMost.isFinite_mul {x y : Binary64} {e f : Nat} (hx : x.AtMost e) (hy : y.AtMost f)
    (h : e + f ≤ 1021) : (x.mul y).isFinite = true := by
  have he : e ≤ 1023 := by omega
  have hf : f ≤ 1023 := by omega
  have hsum : e + f + 2 ≤ 1023 := by omega
  have hproduct : x.units * y.units < unitsPerOne * unitsPerOne * 2 ^ (e + f + 2) := by
    have hpow : 2 ^ (e + 1) * 2 ^ (f + 1) = 2 ^ (e + f + 2) := by ring
    have hlt := Nat.mul_lt_mul_of_lt_of_lt hx.units_lt hy.units_lt
    rwa [Nat.mul_mul_mul_comm, hpow] at hlt
  have hround := atMost_ofRatio (x.negative != y.negative) hproduct
  simp only [mul, hx.isNaN he, hy.isNaN hf, hx.isFinite he, hy.isFinite hf]
  exact hround.isFinite hsum

theorem le_iff {x y : Binary64} :
    x.le y = true ↔ x.isNaN = false ∧ y.isNaN = false ∧ x.key ≤ y.key := by
  simp [le, and_assoc]

theorem lt_eq_false_iff {x y : Binary64} (hx : x.isNaN = false) (hy : y.isNaN = false) :
    x.lt y = false ↔ y.key ≤ x.key := by
  simp [lt, hx, hy]

theorem lt_of_le_of_lt {x y z : Binary64} (hxy : x.le y = true) (hyz : y.lt z = true) :
    x.lt z = true := by
  obtain ⟨hx, -, hle⟩ := le_iff.mp hxy
  simp only [lt, Bool.and_eq_true, Bool.not_eq_true', decide_eq_true_eq] at hyz ⊢
  exact ⟨⟨hx, hyz.1.2⟩, hle.trans_lt hyz.2⟩

theorem clamp_mem {x low high : Binary64} (hx : x.isNaN = false) (h : low.le high = true) :
    low.le (x.clamp low high) = true ∧ (x.clamp low high).le high = true := by
  obtain ⟨hlow, hhigh, hkeys⟩ := le_iff.mp h
  rw [clamp]
  split_ifs with hbelow habove
  · exact ⟨le_iff.mpr ⟨hlow, hlow, le_rfl⟩, h⟩
  · exact ⟨h, le_iff.mpr ⟨hhigh, hhigh, le_rfl⟩⟩
  · rw [Bool.not_eq_true, lt_eq_false_iff hx hlow] at hbelow
    rw [Bool.not_eq_true, lt_eq_false_iff hhigh hx] at habove
    exact ⟨le_iff.mpr ⟨hlow, hx, hbelow⟩, le_iff.mpr ⟨hx, hhigh, habove⟩⟩

end Binary64

end CodeMentor.Number
