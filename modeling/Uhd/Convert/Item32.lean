import Uhd.Convert.Common

/-! # The packed 32-bit item

`sc16_t`, `fc32_t` and `fc64_t` samples to and from `item32_t` words. The real
component's 16-bit two's-complement pattern is bits 31..16 of the word and the imaginary
one's is bits 15..0, and unpacking reads each half back as a signed `int16_t`.
-/

namespace Uhd.Convert

/-- `(item32_t(real) << 16) | (item32_t(imag) << 0)`, the word every converter to
`item32_t` returns from its two `boost::uint16_t` halves. -/
def packItem32 (real imag : BitVec 16) : Item32 :=
  (real.setWidth 32 <<< 16) ||| (imag.setWidth 32 <<< 0)

/-- `sc16_to_item32`; the scale factor is unused. -/
def sc16ToItem32 (num : Sc16) (_ : ℚ) : Item32 :=
  packItem32 num.real num.imag

/-- `item32_to_sc16`: `boost::int16_t(item >> 16)` and `boost::int16_t(item >> 0)`. -/
def item32ToSc16 (item : Item32) (_ : ℚ) : Sc16 :=
  ⟨(item >>> 16).setWidth 16, (item >>> 0).setWidth 16⟩

/-- The body shared by `fc32_to_item32` and `fc64_to_item32`, which differ only in the
floating width. -/
def floatToItem32 (num : StdComplex ℚ) (scaleFactor : ℚ) : Option Item32 := do
  let real ← int16OfFloat (num.real * scaleFactor)
  let imag ← int16OfFloat (num.imag * scaleFactor)
  pure (packItem32 real imag)

/-- The body shared by `item32_to_fc32` and `item32_to_fc64`. Both narrow the product
through `float(...)`, which is exact in the rational model. -/
def item32ToFloat (item : Item32) (scaleFactor : ℚ) : StdComplex ℚ :=
  ⟨((item >>> 16).setWidth 16).toInt * scaleFactor,
    ((item >>> 0).setWidth 16).toInt * scaleFactor⟩

/-- `fc32_to_item32`. -/
def fc32ToItem32 (num : Fc32) (scaleFactor : ℚ) : Option Item32 :=
  floatToItem32 num scaleFactor

/-- `item32_to_fc32`. -/
def item32ToFc32 (item : Item32) (scaleFactor : ℚ) : Fc32 :=
  item32ToFloat item scaleFactor

/-- `fc64_to_item32`. -/
def fc64ToItem32 (num : Fc64) (scaleFactor : ℚ) : Option Item32 :=
  floatToItem32 num scaleFactor

/-- `item32_to_fc64`. -/
def item32ToFc64 (item : Item32) (scaleFactor : ℚ) : Fc64 :=
  item32ToFloat item scaleFactor

/-! ## Bit layout -/

@[simp] theorem item32ToSc16_packItem32 (real imag : BitVec 16) (s : ℚ) :
    item32ToSc16 (packItem32 real imag) s = ⟨real, imag⟩ := by
  simp only [item32ToSc16, StdComplex.mk.injEq]
  constructor <;> ext ⟨j, hj⟩ <;>
    simp (disch := omega) [packItem32, decide_eq_true, decide_eq_false]

theorem packItem32_item32ToSc16 (item : Item32) (s : ℚ) :
    packItem32 (item32ToSc16 item s).real (item32ToSc16 item s).imag = item := by
  ext ⟨j, hj⟩
  by_cases h : j < 16 <;>
    simp (disch := omega) [packItem32, item32ToSc16, h, decide_eq_true, decide_eq_false]

theorem toNat_item32ToSc16 (item : Item32) (s : ℚ) :
    item.toNat = (item32ToSc16 item s).real.toNat * 2 ^ 16 + (item32ToSc16 item s).imag.toNat := by
  have hlt := item.isLt
  simp only [item32ToSc16, BitVec.toNat_setWidth, BitVec.toNat_ushiftRight,
    Nat.shiftRight_eq_div_pow]
  omega

theorem toNat_eq_toInt_emod (x : BitVec 16) : (x.toNat : ℤ) = x.toInt % 2 ^ 16 := by
  have hlt := x.isLt
  rw [BitVec.toInt_eq_toNat_cond]
  split <;> omega

theorem toInt_item32ToSc16_real (item : Item32) (s : ℚ) :
    (item32ToSc16 item s).real.toInt = Int.bmod (item.toNat / 2 ^ 16 : ℕ) (2 ^ 16) := by
  have hlt := item.isLt
  rw [BitVec.toInt_eq_toNat_bmod]
  congr 2
  simp only [item32ToSc16, BitVec.toNat_setWidth, BitVec.toNat_ushiftRight,
    Nat.shiftRight_eq_div_pow]
  omega

theorem toInt_item32ToSc16_imag (item : Item32) (s : ℚ) :
    (item32ToSc16 item s).imag.toInt = Int.bmod (item.toNat % 2 ^ 16 : ℕ) (2 ^ 16) := by
  rw [BitVec.toInt_eq_toNat_bmod]
  simp [item32ToSc16]

theorem sc16_item32_bijection :
    (∀ (x : Sc16) (s t : ℚ), item32ToSc16 (sc16ToItem32 x s) t = x) ∧
    (∀ (w : Item32) (s t : ℚ), sc16ToItem32 (item32ToSc16 w s) t = w) ∧
    (∀ (x : Sc16) (s : ℚ),
      ((sc16ToItem32 x s).toNat : ℤ) = x.real.toInt % 2 ^ 16 * 2 ^ 16 + x.imag.toInt % 2 ^ 16) ∧
    (∀ (w : Item32) (s : ℚ),
      (item32ToSc16 w s).real.toInt = Int.bmod (w.toNat / 2 ^ 16 : ℕ) (2 ^ 16) ∧
      (item32ToSc16 w s).imag.toInt = Int.bmod (w.toNat % 2 ^ 16 : ℕ) (2 ^ 16)) := by
  refine ⟨fun x s t => item32ToSc16_packItem32 x.real x.imag t,
    fun w s t => packItem32_item32ToSc16 w s, fun x s => ?_,
    fun w s => ⟨toInt_item32ToSc16_real w s, toInt_item32ToSc16_imag w s⟩⟩
  have hw := toNat_item32ToSc16 (packItem32 x.real x.imag) 0
  rw [item32ToSc16_packItem32] at hw
  rw [sc16ToItem32, hw, ← toNat_eq_toInt_emod, ← toNat_eq_toInt_emod]
  push_cast
  ring

/-! ## Floating converters -/

theorem floatToItem32_eq (num : StdComplex ℚ) (s : ℚ) :
    floatToItem32 num s = (quantizeSc16 num s).map (sc16ToItem32 · 0) := by
  simp only [floatToItem32, quantizeSc16, sc16ToItem32]
  cases int16OfFloat (num.real * s) <;> cases int16OfFloat (num.imag * s) <;> rfl

theorem item32ToFloat_eq (item : Item32) (s : ℚ) :
    item32ToFloat item s = scaleSc16 (item32ToSc16 item 0) s := rfl

theorem floatToItem32_item32ToFloat (w : Item32) {s : ℚ} (hs : s ≠ 0) :
    floatToItem32 (item32ToFloat w (1 / s)) s = some w := by
  rw [floatToItem32_eq, item32ToFloat_eq, quantizeSc16_scaleSc16 _ hs]
  exact congrArg some (packItem32_item32ToSc16 w 0)

theorem item32ToFloat_floatToItem32 (x : StdComplex ℚ) (s : ℚ)
    (hre : FitsInt16 (truncTowardZero (x.real * s)))
    (him : FitsInt16 (truncTowardZero (x.imag * s))) :
    (floatToItem32 x s).map (item32ToFloat · (1 / s)) =
      some ⟨truncTowardZero (x.real * s) / s, truncTowardZero (x.imag * s) / s⟩ := by
  rw [floatToItem32_eq, quantizeSc16_of_fitsInt16 hre him]
  simp only [Option.map_some', item32ToFloat_eq, sc16ToItem32, item32ToSc16_packItem32]
  rw [scaleSc16_ofInt hre him]

theorem float_item32_round_trip (x : StdComplex ℚ) (s : ℚ) (hs : 0 < s)
    (hre : FitsInt16 (truncTowardZero (x.real * s)))
    (him : FitsInt16 (truncTowardZero (x.imag * s))) :
    (fc32ToItem32 x s).map (item32ToFc32 · (1 / s)) =
        some ⟨truncTowardZero (x.real * s) / s, truncTowardZero (x.imag * s) / s⟩ ∧
    (fc64ToItem32 x s).map (item32ToFc64 · (1 / s)) =
        some ⟨truncTowardZero (x.real * s) / s, truncTowardZero (x.imag * s) / s⟩ ∧
    TowardZeroWithin (1 / s) x.real (truncTowardZero (x.real * s) / s) ∧
    TowardZeroWithin (1 / s) x.imag (truncTowardZero (x.imag * s) / s) ∧
    ∀ w : Item32, fc32ToItem32 (item32ToFc32 w (1 / s)) s = some w ∧
      fc64ToItem32 (item32ToFc64 w (1 / s)) s = some w :=
  ⟨item32ToFloat_floatToItem32 x s hre him, item32ToFloat_floatToItem32 x s hre him,
    towardZeroWithin_truncTowardZero_div x.real s hs,
    towardZeroWithin_truncTowardZero_div x.imag s hs,
    fun w => ⟨floatToItem32_item32ToFloat w hs.ne', floatToItem32_item32ToFloat w hs.ne'⟩⟩

/-- The word `0x00100020` at scale one: `(16, 32)` and back. -/
theorem float_item32_round_trip_sixteen_thirtytwo :
    FitsInt16 (truncTowardZero ((16 : ℚ) * 1)) ∧ FitsInt16 (truncTowardZero ((32 : ℚ) * 1)) ∧
    (fc32ToItem32 ⟨16, 32⟩ 1).map (item32ToFc32 · (1 / 1)) = some ⟨16, 32⟩ := by
  have h16 : FitsInt16 (truncTowardZero ((16 : ℚ) * 1)) := by
    norm_num [FitsInt16, truncTowardZero]
  have h32 : FitsInt16 (truncTowardZero ((32 : ℚ) * 1)) := by
    norm_num [FitsInt16, truncTowardZero]
  refine ⟨h16, h32, ?_⟩
  have h := (float_item32_round_trip ⟨16, 32⟩ 1 one_pos h16 h32).1
  norm_num [truncTowardZero] at h ⊢
  exact h

end Uhd.Convert
