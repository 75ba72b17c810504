import Mathlib.Tactic.Ring

/-! # The USRP1 capabilities register

`get_num_ddcs`, `get_num_ducs`, `has_rx_halfband` and `has_tx_halfband` of
`usrp1_impl`, each a field of the word `peek32(FR_RB_CAPS)` reads from the FPGA, and
the layout drawn above them: DDCs in bits 2..0, R in bit 3, DUCs in bits 6..4, T in
bit 7, the rest reserved. The getters are modelled on the value the read returned.
-/

namespace Uhd.Usrp1

/-- `(regval >> shift) & mask`, the read shared by the four getters. -/
def capsField (regval : BitVec 32) (shift : Nat) (mask : BitVec 32) : BitVec 32 :=
  (regval >>> shift) &&& mask

/-- `usrp1_impl::get_num_ddcs`. -/
def getNumDdcs (regval : BitVec 32) : Nat :=
  (capsField regval 0 0x0007#32).toNat

/-- `usrp1_impl::get_num_ducs`. -/
def getNumDucs (regval : BitVec 32) : Nat :=
  (capsField regval 4 0x0007#32).toNat

/-- `usrp1_impl::has_rx_halfband`; the field converts to `bool` by comparison with zero. -/
def hasRxHalfband (regval : BitVec 32) : Bool :=
  capsField regval 3 0x0001#32 != 0

/-- `usrp1_impl::has_tx_halfband`. -/
def hasTxHalfband (regval : BitVec 32) : Bool :=
  capsField regval 7 0x0001#32 != 0

theorem toNat_capsField (regval : BitVec 32) (shift width : Nat) (hw : width ≤ 32) :
    (capsField regval shift (BitVec.ofNat 32 (2 ^ width - 1))).toNat =
      regval.toNat / 2 ^ shift % 2 ^ width := by
  have hp : 2 ^ width ≤ 2 ^ 32 := Nat.pow_le_pow_right (by decide) hw
  have hpos : 0 < 2 ^ width := Nat.two_pow_pos width
  simp only [capsField, BitVec.toNat_and, BitVec.toNat_ushiftRight, BitVec.toNat_ofNat,
    Nat.shiftRight_eq_div_pow, Nat.mod_eq_of_lt (show 2 ^ width - 1 < 2 ^ 32 by omega),
    Nat.and_pow_two_sub_one_eq_mod]

@[simp] theorem getNumDdcs_eq (regval : BitVec 32) : getNumDdcs regval = regval.toNat % 8 := by
  simpa using toNat_capsField regval 0 3 (by decide)

@[simp] theorem getNumDucs_eq (regval : BitVec 32) :
    getNumDucs regval = regval.toNat / 16 % 8 := by
  simpa using toNat_capsField regval 4 3 (by decide)

private theorem bne_zero_toNat {regval : BitVec 32} {shift : Nat} :
    (capsField regval shift 0x0001#32 != 0).toNat = regval.toNat / 2 ^ shift % 2 := by
  have h := toNat_capsField regval shift 1 (by decide)
  simp only [Nat.pow_one, Nat.reduceSub] at h
  generalize regval.toNat / 2 ^ shift = v at h ⊢
  by_cases hv : v % 2 = 0
  · have hz : capsField regval shift 0x0001#32 = 0 := by
      rw [BitVec.toNat_eq, h, hv]
      rfl
    simp [hz, hv]
  · have hz : capsField regval shift 0x0001#32 ≠ 0 := by
      rw [Ne, BitVec.toNat_eq, h]
      simpa using hv
    rw [bne_iff_ne.mpr hz, Bool.toNat_true]
    omega

@[simp] theorem hasRxHalfband_toNat (regval : BitVec 32) :
    (hasRxHalfband regval).toNat = regval.toNat / 8 % 2 :=
  bne_zero_toNat

@[simp] theorem hasTxHalfband_toNat (regval : BitVec 32) :
    (hasTxHalfband regval).toNat = regval.toNat / 128 % 2 :=
  bne_zero_toNat

/-! ## The documented layout -/

/-- The capabilities the register layout describes. -/
structure Capabilities where
  numDdcs : Fin 8
  rxHalfband : Bool
  numDucs : Fin 8
  txHalfband : Bool
deriving DecidableEq, Repr

/-- The register word of the layout, reserved bits clear. -/
def Capabilities.toRegval (c : Capabilities) : BitVec 32 :=
  BitVec.ofNat 32 (c.numDdcs + 8 * c.rxHalfband.toNat + 16 * c.numDucs + 128 * c.txHalfband.toNat)

/-- The capabilities the four getters report for one register value. -/
def Capabilities.ofRegval (regval : BitVec 32) : Capabilities :=
  ⟨⟨getNumDdcs regval, by simp; omega⟩, hasRxHalfband regval,
    ⟨getNumDucs regval, by simp; omega⟩, hasTxHalfband regval⟩

/-- The getters read exactly the low byte: re-encoding what they report clears only the
reserved bits. -/
theorem toRegval_ofRegval (regval : BitVec 32) :
    (Capabilities.ofRegval regval).toRegval = regval &&& 0xFF#32 := by
  have hr := hasRxHalfband_toNat regval
  have ht := hasTxHalfband_toNat regval
  rw [BitVec.toNat_eq]
  simp only [Capabilities.toRegval, Capabilities.ofRegval, getNumDdcs_eq, getNumDucs_eq, hr, ht,
    BitVec.toNat_ofNat, BitVec.toNat_and]
  rw [show (0xFF : Nat) % 2 ^ 32 = 2 ^ 8 - 1 by rfl, Nat.and_pow_two_sub_one_eq_mod]
  omega

end Uhd.Usrp1
