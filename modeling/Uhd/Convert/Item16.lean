import Uhd.Convert.Item32

/-! # The packed 16-bit item

`sc16_t`, `fc32_t` and `fc64_t` samples to and from `item16_t` words. The shifts are
those of a real byte over an imaginary byte, but the imaginary component is or-ed in
with all sixteen of its bits and neither half is read back through an 8-bit type: an
unpacked word gives its high byte, zero-extended, as the real component and the whole
word as the imaginary one.
-/

namespace Uhd.Convert

/-- `(item16_t(real) << 8) | (item16_t(imag) << 0)`: both operands are promoted to
`int` (32 bits, where these values never overflow) and the result is converted to
`item16_t` on return. -/
def packItem16 (real imag : BitVec 16) : Item16 :=
  ((real.setWidth 32 <<< 8) ||| (imag.setWidth 32 <<< 0)).setWidth 16

/-- `sc16_to_item16`; the scale factor is unused. -/
def sc16ToItem16 (num : Sc16) (_ : ℚ) : Item16 :=
  packItem16 num.real num.imag

/-- `item16_to_sc16`: `boost::int16_t(item >> 8)` and `boost::int16_t(item >> 0)`, the
shift on `item` promoted to `int`. -/
def item16ToSc16 (item : Item16) (_ : ℚ) : Sc16 :=
  ⟨(item.setWidth 32 >>> 8).setWidth 16, (item.setWidth 32 >>> 0).setWidth 16⟩

/-- The body shared by `fc32_to_item16` and `fc64_to_item16`. -/
def floatToItem16 (num : StdComplex ℚ) (scaleFactor : ℚ) : Option Item16 := do
  let real ← int16OfFloat (num.real * scaleFactor)
  let imag ← int16OfFloat (num.imag * scaleFactor)
  pure (packItem16 real imag)

/-- The body shared by `item16_to_fc32` and `item16_to_fc64`. -/
def item16ToFloat (item : Item16) (scaleFactor : ℚ) : StdComplex ℚ :=
  ⟨((item.setWidth 32 >>> 8).setWidth 16).toInt * scaleFactor,
    ((item.setWidth 32 >>> 0).setWidth 16).toInt * scaleFactor⟩

/-- `fc32_to_item16`. -/
def fc32ToItem16 (num : Fc32) (scaleFactor : ℚ) : Option Item16 :=
  floatToItem16 num scaleFactor

/-- `item16_to_fc32`. -/
def item16ToFc32 (item : Item16) (scaleFactor : ℚ) : Fc32 :=
  item16ToFloat item scaleFactor

/-- `fc64_to_item16`. -/
def fc64ToItem16 (num : Fc64) (scaleFactor : ℚ) : Option Item16 :=
  floatToItem16 num scaleFactor

/-- `item16_to_fc64`. -/
def item16ToFc64 (item : Item16) (scaleFactor : ℚ) : Fc64 :=
  item16ToFloat item scaleFactor

/-! ## Bit layout -/

theorem packItem16_eq (real imag : BitVec 16) : packItem16 real imag = real <<< 8 ||| imag := by
  ext ⟨j, hj⟩
  simp (disch := omega) [packItem16, decide_eq_true, decide_eq_false]

/-- Unpacking is a logical shift for the real component and the identity for the
imaginary one. -/
theorem item16ToSc16_eq (item : Item16) (s : ℚ) : item16ToSc16 item s = ⟨item >>> 8, item⟩ := by
  simp only [item16ToSc16, StdComplex.mk.injEq]
  constructor <;> ext ⟨j, hj⟩ <;> simp (disch := omega) [decide_eq_true, decide_eq_false]

theorem packItem16_ushiftRight (w : Item16) : packItem16 (w >>> 8) w = w := by
  rw [packItem16_eq]
  ext ⟨j, hj⟩
  by_cases h : j < 8 <;> simp (disch := omega) [h, decide_eq_true, decide_eq_false]

theorem item16ToSc16_packItem16 (real imag : BitVec 16) (s : ℚ) :
    item16ToSc16 (packItem16 real imag) s =
      ⟨(real <<< 8 ||| imag) >>> 8, real <<< 8 ||| imag⟩ := by
  rw [packItem16_eq, item16ToSc16_eq]

/-- Each bit of the unpacked real byte is the real component's bit or-ed with the
imaginary component's bit eight places up: the imaginary high byte leaks into it. -/
theorem getLsbD_item16ToSc16_sc16ToItem16_real (x : Sc16) (s t : ℚ) (j : ℕ) :
    (item16ToSc16 (sc16ToItem16 x s) t).real.getLsbD j =
      (decide (j < 8) && (x.real.getLsbD j || x.imag.getLsbD (j + 8))) := by
  rw [sc16ToItem16, item16ToSc16_packItem16]
  by_cases h : j < 8
  · simp (disch := omega) [h, Nat.add_comm j 8, decide_eq_true, decide_eq_false]
  · by_cases h16 : j < 16
    · simp (disch := omega) [h, decide_eq_true, decide_eq_false, Nat.add_comm 8 j]
    · simp (disch := omega) [h, BitVec.getLsbD_ge]

/-! ## Round trips -/

/-- The values an 8-bit component holds, the range the 16-bit item is meant for. -/
def FitsInt8 (t : ℤ) : Prop :=
  -128 ≤ t ∧ t ≤ 127

instance : DecidablePred FitsInt8 :=
  fun _ => inferInstanceAs (Decidable (_ ∧ _))

theorem item16ToSc16_packItem16_eq_iff (real imag : BitVec 16) (s : ℚ) :
    item16ToSc16 (packItem16 real imag) s = ⟨real, imag⟩ ↔ real = imag >>> 8 := by
  rw [item16ToSc16_packItem16, StdComplex.mk.injEq]
  constructor
  · rintro ⟨hre, him⟩
    rw [him] at hre
    exact hre.symm
  · rintro rfl
    have hw := packItem16_ushiftRight imag
    rw [packItem16_eq] at hw
    rw [hw]
    exact ⟨rfl, rfl⟩

/-- Among 8-bit values, only a zero real part is the high byte of the imaginary part,
and then only of a non-negative one. -/
theorem eq_ushiftRight_iff_of_fitsInt8 {real imag : BitVec 16}
    (hre : FitsInt8 real.toInt) (him : FitsInt8 imag.toInt) :
    real = imag >>> 8 ↔ real = 0 ∧ 0 ≤ imag.toInt := by
  have hr := real.isLt
  have hi := imag.isLt
  rw [BitVec.toNat_eq, BitVec.toNat_eq]
  simp only [FitsInt8, BitVec.toInt_eq_toNat_cond] at hre him ⊢
  simp only [BitVec.toNat_ushiftRight, Nat.shiftRight_eq_div_pow, BitVec.ofNat_eq_ofNat,
    BitVec.toNat_ofNat, Nat.zero_mod]
  split at hre <;> split at him <;> split <;> omega

/-- The 16-bit round trip gives a sample back exactly when its real component is the
imaginary component's high byte. -/
theorem item16ToSc16_sc16ToItem16_eq_self_iff (x : Sc16) (s t : ℚ) :
    item16ToSc16 (sc16ToItem16 x s) t = x ↔ x.real = x.imag >>> 8 :=
  item16ToSc16_packItem16_eq_iff x.real x.imag t

/-- On samples whose components fit in 8 bits, the 16-bit round trip is the identity
only for a zero real part and a non-negative imaginary part. -/
theorem item16ToSc16_sc16ToItem16_eq_self_iff_of_fitsInt8 (x : Sc16) (s t : ℚ)
    (hre : FitsInt8 x.real.toInt) (him : FitsInt8 x.imag.toInt) :
    item16ToSc16 (sc16ToItem16 x s) t = x ↔ x.real = 0 ∧ 0 ≤ x.imag.toInt := by
  rw [← eq_ushiftRight_iff_of_fitsInt8 hre him]
  exact item16ToSc16_packItem16_eq_iff x.real x.imag t

theorem item16ToSc16_sc16ToItem16_one_zero :
    FitsInt8 (1#16).toInt ∧ FitsInt8 (0#16).toInt ∧
      item16ToSc16 (sc16ToItem16 ⟨1#16, 0#16⟩ 0) 0 ≠ ⟨1#16, 0#16⟩ :=
  ⟨by decide, by decide,
    fun h => absurd ((item16ToSc16_sc16ToItem16_eq_self_iff_of_fitsInt8 ⟨1#16, 0#16⟩ 0 0
      (by decide) (by decide)).mp h).1 (by decide)⟩

/-- A sample that fits in 8 bits does not survive the 16-bit round trip: `(1, 2)` comes
back as `(1, 258)`, and `(-1, 0)` comes back with the real part `255`. -/
theorem sc16_item16_round_trip_one_two :
    item16ToSc16 (sc16ToItem16 ⟨1#16, 2#16⟩ 0) 0 = ⟨1#16, 258#16⟩ ∧
    (item16ToSc16 (sc16ToItem16 ⟨-1#16, 0#16⟩ 0) 0).real.toInt = 255 := by
  decide

/-! ## Floating converters -/

theorem floatToItem16_eq (num : StdComplex ℚ) (s : ℚ) :
    floatToItem16 num s = (quantizeSc16 num s).map (sc16ToItem16 · 0) := by
  simp only [floatToItem16, quantizeSc16, sc16ToItem16]
  cases int16OfFloat (num.real * s) <;> cases int16OfFloat (num.imag * s) <;> rfl

theorem item16ToFloat_eq (item : Item16) (s : ℚ) :
    item16ToFloat item s = scaleSc16 (item16ToSc16 item 0) s := rfl

theorem floatToItem16_item16ToFloat (w : Item16) {s : ℚ} (hs : s ≠ 0) :
    floatToItem16 (item16ToFloat w (1 / s)) s = some w := by
  rw [floatToItem16_eq, item16ToFloat_eq, quantizeSc16_scaleSc16 _ hs, Option.map_some',
    sc16ToItem16, item16ToSc16_eq, packItem16_ushiftRight]

/-- Every 16-bit word survives unpacking and repacking, through `sc16_t` and, at any
nonzero scale, through either floating type. -/
theorem item16_word_round_trip (w : Item16) (s t : ℚ) (hs : s ≠ 0) :
    sc16ToItem16 (item16ToSc16 w s) t = w ∧
    fc32ToItem16 (item16ToFc32 w (1 / s)) s = some w ∧
    fc64ToItem16 (item16ToFc64 w (1 / s)) s = some w := by
  refine ⟨?_, floatToItem16_item16ToFloat w hs, floatToItem16_item16ToFloat w hs⟩
  rw [sc16ToItem16, item16ToSc16_eq, packItem16_ushiftRight]

theorem item16_word_round_trip_scale_two :
    (2 : ℚ) ≠ 0 ∧ fc32ToItem16 (item16ToFc32 0xff80#16 (1 / 2)) 2 = some 0xff80#16 :=
  ⟨two_ne_zero, (item16_word_round_trip 0xff80#16 2 0 two_ne_zero).2.1⟩

theorem fitsInt16_of_fitsInt8 {t : ℤ} (h : FitsInt8 t) : FitsInt16 t := by
  unfold FitsInt8 at h
  unfold FitsInt16
  omega

theorem item16ToFloat_floatToItem16_eq_iff (x : StdComplex ℚ) {s : ℚ} (hs : s ≠ 0)
    (hre : FitsInt8 (truncTowardZero (x.real * s)))
    (him : FitsInt8 (truncTowardZero (x.imag * s))) :
    (floatToItem16 x s).map (item16ToFloat · (1 / s)) =
        some ⟨truncTowardZero (x.real * s) / s, truncTowardZero (x.imag * s) / s⟩ ↔
      truncTowardZero (x.real * s) = 0 ∧ 0 ≤ truncTowardZero (x.imag * s) := by
  have hre16 := fitsInt16_of_fitsInt8 hre
  have him16 := fitsInt16_of_fitsInt8 him
  rw [floatToItem16_eq, quantizeSc16_of_fitsInt16 hre16 him16, ← scaleSc16_ofInt hre16 him16]
  simp only [Option.map_some', Option.some.injEq, item16ToFloat_eq, scaleSc16_inj hs,
    sc16ToItem16, item16ToSc16_packItem16_eq_iff]
  rw [eq_ushiftRight_iff_of_fitsInt8 (by rwa [toInt_ofInt_of_fitsInt16 hre16])
      (by rwa [toInt_ofInt_of_fitsInt16 him16]),
    ← BitVec.toInt_inj, toInt_ofInt_of_fitsInt16 hre16, toInt_ofInt_of_fitsInt16 him16]
  simp

/-- For components that truncate into 8 bits, both floating 16-bit round trips return
the truncated sample exactly when the real part truncates to zero and the imaginary
part is non-negative. -/
theorem float_item16_round_trip_iff (x : StdComplex ℚ) {s : ℚ} (hs : s ≠ 0)
    (hre : FitsInt8 (truncTowardZero (x.real * s)))
    (him : FitsInt8 (truncTowardZero (x.imag * s))) :
    ((fc32ToItem16 x s).map (item16ToFc32 · (1 / s)) =
        some ⟨truncTowardZero (x.real * s) / s, truncTowardZero (x.imag * s) / s⟩ ↔
      truncTowardZero (x.real * s) = 0 ∧ 0 ≤ truncTowardZero (x.imag * s)) ∧
    ((fc64ToItem16 x s).map (item16ToFc64 · (1 / s)) =
        some ⟨truncTowardZero (x.real * s) / s, truncTowardZero (x.imag * s) / s⟩ ↔
      truncTowardZero (x.real * s) = 0 ∧ 0 ≤ truncTowardZero (x.imag * s)) :=
  ⟨item16ToFloat_floatToItem16_eq_iff x hs hre him, item16ToFloat_floatToItem16_eq_iff x hs hre him⟩

theorem float_item16_round_trip_iff_zero_five :
    FitsInt8 (truncTowardZero ((0 : ℚ) * 1)) ∧ FitsInt8 (truncTowardZero ((5 : ℚ) * 1)) ∧
    (fc32ToItem16 ⟨0, 5⟩ 1).map (item16ToFc32 · (1 / 1)) = some ⟨0, 5⟩ := by
  have h0 : FitsInt8 (truncTowardZero ((0 : ℚ) * 1)) := by norm_num [FitsInt8, truncTowardZero]
  have h5 : FitsInt8 (truncTowardZero ((5 : ℚ) * 1)) := by norm_num [FitsInt8, truncTowardZero]
  refine ⟨h0, h5, ?_⟩
  have h := ((float_item16_round_trip_iff ⟨0, 5⟩ one_ne_zero h0 h5).1).2
    (by norm_num [truncTowardZero])
  norm_num [truncTowardZero] at h ⊢
  exact h

/-- The four floating-to-item converters are defined, with no out-of-range `int16_t`
conversion, exactly when each scaled component lies strictly between `-32769` and `32768`. -/
theorem float_converters_defined_iff (num : StdComplex ℚ) (s : ℚ) :
    ((fc32ToItem32 num s).isSome ↔ (-32769 < num.real * s ∧ num.real * s < 32768) ∧
        (-32769 < num.imag * s ∧ num.imag * s < 32768)) ∧
    ((fc64ToItem32 num s).isSome ↔ (-32769 < num.real * s ∧ num.real * s < 32768) ∧
        (-32769 < num.imag * s ∧ num.imag * s < 32768)) ∧
    ((fc32ToItem16 num s).isSome ↔ (-32769 < num.real * s ∧ num.real * s < 32768) ∧
        (-32769 < num.imag * s ∧ num.imag * s < 32768)) ∧
    ((fc64ToItem16 num s).isSome ↔ (-32769 < num.real * s ∧ num.real * s < 32768) ∧
        (-32769 < num.imag * s ∧ num.imag * s < 32768)) := by
  simp only [fc32ToItem32, fc64ToItem32, fc32ToItem16, fc64ToItem16, floatToItem32_eq,
    floatToItem16_eq, Option.isSome_map', isSome_quantizeSc16_iff, and_self]

/-- At scale one the sample `(1, 2)` comes back as `(1, 258)` through both floating
16-bit round trips. -/
theorem float_item16_round_trip_one_two :
    (fc32ToItem16 ⟨1, 2⟩ 1).map (item16ToFc32 · (1 / 1)) = some ⟨1, 258⟩ ∧
    (fc64ToItem16 ⟨1, 2⟩ 1).map (item16ToFc64 · (1 / 1)) = some ⟨1, 258⟩ := by
  have hq : quantizeSc16 ⟨1, 2⟩ 1 = some ⟨1#16, 2#16⟩ := by
    rw [quantizeSc16_of_fitsInt16] <;> norm_num [FitsInt16, truncTowardZero]
  have hw : item16ToSc16 (sc16ToItem16 ⟨1#16, 2#16⟩ 0) 0 = ⟨1#16, 258#16⟩ := by decide
  simp only [fc32ToItem16, fc64ToItem16, item16ToFc32, item16ToFc64, floatToItem16_eq, hq,
    Option.map_some', item16ToFloat_eq, hw]
  norm_num [scaleSc16]
  decide

end Uhd.Convert
