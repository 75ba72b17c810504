import Mathlib.Data.Rat.Floor
import Mathlib.Tactic.Linarith
import Mathlib.Tactic.Positivity

/-! # Sample types and scalar conversions

The typedefs of `convert_common.hpp` and the C++ scalar conversions its inline
converters are built from. Floating values are exact rationals. `int16_t`, `uint16_t`
and the packed items are bit vectors, so a signed/unsigned conversion of one width keeps
the bits and a narrowing conversion keeps the low bits, as the code relies on.
-/

namespace Uhd.Convert

/-- `std::complex<T>`. -/
structure StdComplex (α : Type) where
  real : α
  imag : α
deriving DecidableEq, Repr

abbrev Fc64 := StdComplex ℚ
abbrev Fc32 := StdComplex ℚ
abbrev Sc16 := StdComplex (BitVec 16)
abbrev Item32 := BitVec 32
abbrev Item16 := BitVec 16

/-! ## Floating-to-integer conversion -/

/-- Truncation toward zero, the rounding of every C++ floating-to-integer conversion. -/
def truncTowardZero (q : ℚ) : ℤ :=
  if 0 ≤ q then ⌊q⌋ else ⌈q⌉

/-- The values `boost::int16_t` holds. -/
def FitsInt16 (t : ℤ) : Prop :=
  -32768 ≤ t ∧ t ≤ 32767

instance : DecidablePred FitsInt16 :=
  fun _ => inferInstanceAs (Decidable (_ ∧ _))

/-- `boost::int16_t(f)` for a floating `f`: the value truncated toward zero. A truncated
value outside `int16_t` is undefined behaviour, modelled as `none`. -/
def int16OfFloat (f : ℚ) : Option (BitVec 16) :=
  if FitsInt16 (truncTowardZero f) then some (BitVec.ofInt 16 (truncTowardZero f)) else none

@[simp] theorem truncTowardZero_intCast (n : ℤ) : truncTowardZero n = n := by
  by_cases h : (0 : ℚ) ≤ n <;> simp [truncTowardZero, h]

/-- `r` is `q` rounded toward zero on a grid of the given step: closer than one step,
no larger in magnitude, and never of the opposite sign. -/
def TowardZeroWithin (step q r : ℚ) : Prop :=
  |q - r| < step ∧ |r| ≤ |q| ∧ 0 ≤ q * r

theorem towardZeroWithin_truncTowardZero (q : ℚ) :
    TowardZeroWithin 1 q (truncTowardZero q) := by
  unfold TowardZeroWithin truncTowardZero
  split
  case isTrue h =>
      have hlo := Int.floor_le q
      have hhi := Int.lt_floor_add_one q
      have hpos : (0 : ℚ) ≤ ⌊q⌋ := by exact_mod_cast Int.floor_nonneg.mpr h
      refine ⟨abs_lt.mpr ⟨by linarith, by linarith⟩, ?_, by positivity⟩
      rw [abs_of_nonneg hpos, abs_of_nonneg h]
      exact hlo
  case isFalse h =>
      have hneg : q < 0 := lt_of_not_le h
      have hlo := Int.le_ceil q
      have hhi := Int.ceil_lt_add_one q
      have hnpos : (⌈q⌉ : ℚ) ≤ 0 := by exact_mod_cast Int.ceil_le.mpr (by simpa using hneg.le)
      refine ⟨abs_lt.mpr ⟨by linarith, by linarith⟩, ?_, by nlinarith⟩
      rw [abs_of_nonpos hnpos, abs_of_neg hneg]
      linarith

/-- Scaling by `s`, truncating, and scaling back rounds toward zero on the grid `1 / s`. -/
theorem towardZeroWithin_truncTowardZero_div (q s : ℚ) (hs : 0 < s) :
    TowardZeroWithin (1 / s) q (truncTowardZero (q * s) / s) := by
  obtain ⟨herr, habs, hsign⟩ := towardZeroWithin_truncTowardZero (q * s)
  have hq : q = q * s / s := by field_simp
  refine ⟨?_, ?_, ?_⟩
  · calc |q - truncTowardZero (q * s) / s|
        = |q * s - truncTowardZero (q * s)| / s := by
          rw [← abs_of_pos hs, ← abs_div, abs_of_pos hs, sub_div, ← hq]
      _ < 1 / s := div_lt_div_of_pos_right herr hs
  · rw [abs_div, abs_of_pos hs, div_le_iff₀ hs, ← abs_of_pos hs, ← abs_mul, abs_of_pos hs]
    exact habs
  · have : 0 ≤ q * s * truncTowardZero (q * s) / (s * s) := by positivity
    calc (0 : ℚ) ≤ q * s * truncTowardZero (q * s) / (s * s) := this
      _ = q * (truncTowardZero (q * s) / s) := by field_simp; ring

/-! ## `int16_t` values -/

theorem fitsInt16_toInt (x : BitVec 16) : FitsInt16 x.toInt := by
  have hlt := x.isLt
  rw [FitsInt16, BitVec.toInt_eq_toNat_cond]
  split <;> omega

theorem toInt_ofInt_of_fitsInt16 {t : ℤ} (h : FitsInt16 t) : (BitVec.ofInt 16 t).toInt = t := by
  rw [BitVec.toInt_ofInt, Int.bmod_def]
  unfold FitsInt16 at h
  norm_num
  split <;> omega

@[simp] theorem ofInt_toInt (x : BitVec 16) : BitVec.ofInt 16 x.toInt = x :=
  BitVec.eq_of_toInt_eq (toInt_ofInt_of_fitsInt16 (fitsInt16_toInt x))

theorem int16OfFloat_of_fitsInt16 {f : ℚ} (h : FitsInt16 (truncTowardZero f)) :
    int16OfFloat f = some (BitVec.ofInt 16 (truncTowardZero f)) := by
  simp [int16OfFloat, h]

/-- A truncated value fits `int16_t` just when the value lies strictly between `-32769` and
`32768`; the bounds are not symmetric because truncation moves toward zero. -/
theorem fitsInt16_truncTowardZero_iff (q : ℚ) :
    FitsInt16 (truncTowardZero q) ↔ -32769 < q ∧ q < 32768 := by
  unfold FitsInt16 truncTowardZero
  split
  case isTrue h =>
      rw [Int.le_floor, Int.floor_le_iff]
      push_cast
      constructor <;> rintro ⟨_, _⟩ <;> constructor <;> linarith
  case isFalse h =>
      rw [Int.le_ceil_iff, Int.ceil_le]
      push_cast
      constructor <;> rintro ⟨_, _⟩ <;> constructor <;> linarith

theorem isSome_int16OfFloat_iff (f : ℚ) : (int16OfFloat f).isSome ↔ -32769 < f ∧ f < 32768 := by
  rw [← fitsInt16_truncTowardZero_iff]
  unfold int16OfFloat
  split <;> simp_all

theorem int16OfFloat_toInt_div_mul (x : BitVec 16) {s : ℚ} (hs : s ≠ 0) :
    int16OfFloat (x.toInt * (1 / s) * s) = some x := by
  have hcancel : (x.toInt : ℚ) * (1 / s) * s = x.toInt := by field_simp
  rw [hcancel, int16OfFloat_of_fitsInt16 (by simpa using fitsInt16_toInt x)]
  simp

/-! ## Floating samples through `sc16_t`

The floating converters are the `sc16_t` converters with a scaling on the floating
side; these two maps are that scaling, and the lemmas below are how the round trips of
the floating converters reduce to those of the fixed-point ones.
-/

/-- The two `boost::int16_t(num.x()*scale_factor)` conversions of a floating-to-item
converter. -/
def quantizeSc16 (num : StdComplex ℚ) (scaleFactor : ℚ) : Option Sc16 := do
  let real ← int16OfFloat (num.real * scaleFactor)
  let imag ← int16OfFloat (num.imag * scaleFactor)
  pure ⟨real, imag⟩

/-- The two `int16_t * scale_factor` products of an item-to-floating converter. -/
def scaleSc16 (num : Sc16) (scaleFactor : ℚ) : StdComplex ℚ :=
  ⟨num.real.toInt * scaleFactor, num.imag.toInt * scaleFactor⟩

/-- The conversions are defined, with no out-of-range `int16_t`, just when both scaled
components lie strictly between `-32769` and `32768`. -/
theorem isSome_quantizeSc16_iff (num : StdComplex ℚ) (s : ℚ) :
    (quantizeSc16 num s).isSome ↔ (-32769 < num.real * s ∧ num.real * s < 32768) ∧
      (-32769 < num.imag * s ∧ num.imag * s < 32768) := by
  rw [← isSome_int16OfFloat_iff, ← isSome_int16OfFloat_iff]
  unfold quantizeSc16
  cases int16OfFloat (num.real * s) <;> cases int16OfFloat (num.imag * s) <;> simp

theorem quantizeSc16_scaleSc16 (x : Sc16) {s : ℚ} (hs : s ≠ 0) :
    quantizeSc16 (scaleSc16 x (1 / s)) s = some x := by
  simp [quantizeSc16, scaleSc16, -one_div, int16OfFloat_toInt_div_mul _ hs]

theorem quantizeSc16_of_fitsInt16 {num : StdComplex ℚ} {s : ℚ}
    (hre : FitsInt16 (truncTowardZero (num.real * s)))
    (him : FitsInt16 (truncTowardZero (num.imag * s))) :
    quantizeSc16 num s =
      some ⟨BitVec.ofInt 16 (truncTowardZero (num.real * s)),
        BitVec.ofInt 16 (truncTowardZero (num.imag * s))⟩ := by
  simp [quantizeSc16, int16OfFloat_of_fitsInt16 hre, int16OfFloat_of_fitsInt16 him]

theorem scaleSc16_ofInt {re im : ℤ} (hre : FitsInt16 re) (him : FitsInt16 im) (s : ℚ) :
    scaleSc16 ⟨BitVec.ofInt 16 re, BitVec.ofInt 16 im⟩ (1 / s) = ⟨re / s, im / s⟩ := by
  simp [scaleSc16, toInt_ofInt_of_fitsInt16 hre, toInt_ofInt_of_fitsInt16 him, div_eq_mul_inv]

theorem scaleSc16_inj {x y : Sc16} {s : ℚ} (hs : s ≠ 0) :
    scaleSc16 x (1 / s) = scaleSc16 y (1 / s) ↔ x = y := by
  constructor
  · intro h
    simp only [scaleSc16, StdComplex.mk.injEq, mul_eq_mul_right_iff, one_div, inv_eq_zero, hs,
      or_false, Int.cast_inj] at h
    cases x
    cases y
    exact congrArg₂ StdComplex.mk (BitVec.eq_of_toInt_eq h.1) (BitVec.eq_of_toInt_eq h.2)
  · rintro rfl
    rfl

end Uhd.Convert
