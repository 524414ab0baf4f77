import Mathlib
import TypesetTrace.Proofs.Number.Scalar

/-! Doubles that stay finite. How large a double can be is said by its last place: rounding moves it up by
at most one, a quotient has it as much lower as the divisor is long, and a sum hardly higher. Lengths in
scaled points are so far below the largest double that a place on a page, which is a sum of two of them,
cancels out against itself. -/
namespace TypesetTrace.Binary64
open Float.Model
open Float.Model.UnpackedFloat (Accuracy ExtendedMantissa Sign)

/-- Zero, or at most 53 bits, the last of which counts at most `2 ^ c`. -/
def Fits (c : Int) : UnpackedFloat → Prop
  | .zero _ => True
  | .finite _ m e _ => m < 2 ^ 53 ∧ e ≤ c
  | .infinity _ | .notANumber => False

variable {c : Int} {u v : UnpackedFloat} {s : Sign} {m : Nat} {e : Int}

theorem Fits.mono {c' : Int} (h : Fits c u) (hle : c ≤ c') : Fits c' u := by
  cases u with
  | finite _ _ _ _ => exact ⟨h.1, h.2.trans hle⟩
  | _ => exact h

section
variable {j k n : Nat}

private theorem log2_le_of_lt (h : m < 2 ^ (n + 1)) : m.log2 ≤ n := by
  rcases Nat.eq_zero_or_pos m with rfl | hpos
  · exact Nat.zero_le n
  · exact Nat.le_of_lt_succ ((Nat.log2_lt hpos.ne').mpr h)

private theorem log2_shiftLeft_le (m k : Nat) : (m <<< k).log2 ≤ m.log2 + k := by
  refine log2_le_of_lt ?_
  rw [Nat.shiftLeft_eq, Nat.add_right_comm, Nat.pow_add]
  exact Nat.mul_lt_mul_of_pos_right Nat.lt_log2_self (Nat.two_pow_pos k)

private theorem shiftLeft_lt (hm : m < 2 ^ 53) (h : j ≤ k) : m <<< j < 2 ^ (53 + k) := by
  rw [Nat.shiftLeft_eq, Nat.pow_add]
  exact Nat.mul_lt_mul_of_lt_of_le hm (Nat.pow_le_pow_right (by decide) h) (Nat.two_pow_pos k)

end

private theorem mantissa_shiftRight (em : ExtendedMantissa) (k : Nat) :
    (em >>> k).mantissa = em.mantissa / 2 ^ k := by
  induction k with
  | zero => exact (Nat.div_one _).symm
  | succ k ih =>
    calc (em >>> (k + 1)).mantissa = (em >>> k).mantissa / 2 := rfl
      _ = em.mantissa / 2 ^ (k + 1) := by rw [ih, Nat.div_div_eq_div_mul, Nat.pow_succ]

private theorem mantissa_ofMantissaAndAccuracy (m : Nat) (accuracy : Accuracy) :
    (ExtendedMantissa.ofMantissaAndAccuracy m accuracy).mantissa = m := by
  rcases accuracy with _ | _ | _ | _ <;> rfl

private theorem roundedMantissa_le (em : ExtendedMantissa) : em.roundedMantissa ≤ em.mantissa + 1 := by
  rw [ExtendedMantissa.roundedMantissa]
  rcases em.accuracy with _ | _ | _ | _ <;> simp only [Accuracy.roundToNearestEven] <;> omega

private theorem targetExponent_eq (t : Int) :
    Format.binary64.targetExponent t = max (t - 53) (-1074) := rfl

/-- A shift leaves 53 bits, and puts the last place where they end or where the smallest double does. -/
private theorem shiftToTargetExponent_fits (m : Nat) (e : Int) (accuracy : Accuracy) :
    (UnpackedFloat.shiftToTargetExponent Format.binary64 m e accuracy).1.mantissa < 2 ^ 53 ∧
      (UnpackedFloat.shiftToTargetExponent Format.binary64 m e accuracy).2 =
        max e (max ((m.log2 : Int) + 1 + e - 53) (-1074)) := by
  rw [UnpackedFloat.shiftToTargetExponent, UnpackedFloat.shiftToExponent, targetExponent_eq, totalExponent]
  dsimp only
  rw [mantissa_shiftRight, mantissa_ofMantissaAndAccuracy]
  constructor
  · refine Nat.div_lt_of_lt_mul (Nat.lt_log2_self.trans_le ?_)
    rw [← Nat.pow_add]
    exact Nat.pow_le_pow_right (by decide) (by omega)
  · omega

/-- Rounding moves the last place up by at most one. -/
theorem fits_roundWithAccuracy {accuracy : Accuracy} (he : e < c) (hm : (m.log2 : Int) + e < c + 52)
    (hc : -1074 < c) : Fits c (UnpackedFloat.roundWithAccuracy Format.binary64 s m e accuracy) := by
  rw [UnpackedFloat.roundWithAccuracy]
  obtain ⟨hmantissa, hexponent⟩ := shiftToTargetExponent_fits m e accuracy
  obtain ⟨⟨em, e₁⟩, hshift⟩ :
    ∃ shifted, shifted = UnpackedFloat.shiftToTargetExponent Format.binary64 m e accuracy := ⟨_, rfl⟩
  rw [← hshift] at hmantissa hexponent ⊢
  dsimp only at hmantissa hexponent ⊢
  -- The rounded number has 54 bits at most, of which the second shift takes the last one away.
  obtain ⟨hfinal, hlast⟩ := shiftToTargetExponent_fits em.roundedMantissa e₁ .exact
  have hlog : em.roundedMantissa.log2 ≤ 53 := by
    have hrounded := roundedMantissa_le em
    exact log2_le_of_lt (by omega)
  split
  · trivial
  · exact ⟨hfinal, by omega⟩

theorem fits_round (he : e < c) (hm : (m.log2 : Int) + e < c + 52) (hc : -1074 < c) :
    Fits c (UnpackedFloat.round Format.binary64 s m e) := by
  have hshift := log2_shiftLeft_le m (e - Format.binary64.targetExponent (totalExponent m e)).toNat
  exact fits_roundWithAccuracy (by omega) (by omega) hc

theorem fits_normalize {n : Int} (he : e < c) (hn : (n.natAbs.log2 : Int) + e < c + 52) (hc : -1074 < c) :
    Fits c (UnpackedFloat.normalize Format.binary64 n e s) := by
  rw [UnpackedFloat.normalize]
  split
  · rename_i hsign
    have hnegative := Int.compare_eq_lt.mp hsign
    have habs : (-n).toNat = n.natAbs := by omega
    exact fits_round he (habs ▸ hn) hc
  · trivial
  · rename_i hsign
    have hpositive := Int.compare_eq_gt.mp hsign
    have habs : n.toNat = n.natAbs := by omega
    exact fits_round he (habs ▸ hn) hc

private theorem natAbs_apply (s : Sign) (n : Int) : (s.apply n).natAbs = n.natAbs := by
  cases s
  · exact Int.natAbs_neg n
  · rfl

private theorem fits_add_finite {s' : Sign} {m' : Nat} {e' : Int} {hpos : 0 < m} {hpos' : 0 < m'}
    (hu : Fits c (.finite s m e hpos)) (hv : Fits c (.finite s' m' e' hpos')) (hc : -1074 ≤ c) :
    Fits (c + 2) (UnpackedFloat.add Format.binary64 (.finite s m e hpos) (.finite s' m' e' hpos')) := by
  obtain ⟨hm, he⟩ := hu
  obtain ⟨hm', he'⟩ := hv
  rw [UnpackedFloat.add]
  dsimp only [UnpackedFloat.decreaseExponent]
  obtain ⟨k, hk⟩ : ∃ k, k = (c - min e e').toNat := ⟨_, rfl⟩
  have hleft : m <<< (e - min e e').toNat < 2 ^ (53 + k) := shiftLeft_lt hm (by omega)
  have hright : m' <<< (e' - min e e').toNat < 2 ^ (53 + k) := shiftLeft_lt hm' (by omega)
  have hsum : (s.apply (m <<< (e - min e e').toNat : Nat) +
      s'.apply (m' <<< (e' - min e e').toNat : Nat)).natAbs.log2 ≤ 53 + k := by
    refine log2_le_of_lt ((Int.natAbs_add_le _ _).trans_lt ?_)
    rw [natAbs_apply, natAbs_apply, Int.natAbs_natCast, Int.natAbs_natCast, Nat.pow_succ, Nat.mul_two]
    exact Nat.add_lt_add hleft hright
  exact fits_normalize (by omega) (by omega) (by omega)

/-- A sum is one bit longer than the longer summand, and rounded. -/
theorem fits_add (hu : Fits c u) (hv : Fits c v) (hc : -1074 ≤ c) :
    Fits (c + 2) (u.add Format.binary64 v) := by
  cases u with
  | infinity _ | notANumber => cases hu
  | zero s =>
    cases v with
    | infinity _ | notANumber => cases hv
    | zero s' =>
      rw [UnpackedFloat.add]
      split <;> trivial
    | finite _ _ _ _ => exact hv.mono (by omega)
  | finite s m e _ =>
    cases v with
    | infinity _ | notANumber => cases hv
    | zero _ => exact hu.mono (by omega)
    | finite _ _ _ _ => exact fits_add_finite hu hv hc

/-- A quotient has as many places fewer as the divisor has in front of its last one. -/
theorem fits_div {s' : Sign} {m' : Nat} {e' : Int} {hpos' : 0 < m'} (hu : Fits c u) (hlog' : 52 ≤ m'.log2)
    (hc : -1074 < c - e' - 51) :
    Fits (c - e' - 51) (u.div Format.binary64 (.finite s' m' e' hpos')) := by
  cases u with
  | infinity _ | notANumber => cases hu
  | zero _ => trivial
  | finite s m e _ =>
    obtain ⟨hm, he⟩ := hu
    rw [UnpackedFloat.div, UnpackedFloat.divCore, targetExponent_eq, totalExponent, totalExponent]
    dsimp only
    have hlog : m.log2 ≤ 52 := log2_le_of_lt hm
    obtain ⟨t, ht⟩ :
      ∃ t, t = min (e - e') (max ((m.log2 : Int) + 1 + e - (m'.log2 + 1 + e') - 53) (-1074)) := ⟨_, rfl⟩
    rw [← ht]
    have hquotient : (m <<< (e - e' - t).toNat / m').log2 ≤ (e - e' - t).toNat := by
      refine log2_le_of_lt (Nat.div_lt_of_lt_mul ?_)
      calc m <<< (e - e' - t).toNat
          < 2 ^ (53 + (e - e' - t).toNat) := shiftLeft_lt hm le_rfl
        _ = 2 ^ 52 * 2 ^ ((e - e' - t).toNat + 1) := by rw [← Nat.pow_add]; congr 1; omega
        _ ≤ m' * 2 ^ ((e - e' - t).toNat + 1) :=
          Nat.mul_le_mul_right _ ((Nat.le_log2 hpos'.ne').mp hlog')
    exact fits_roundWithAccuracy (by omega) (by omega) hc

/-- The exponent in the bits of a double says where the last place is. -/
theorem fits_unpack {b : BitVec Format.binary64.numBits}
    (hb : ((UnpackedFloat.unpackExponent b).toNat : Int) ≤ c + 1075) (hc : -1074 ≤ c) (hc' : c ≤ 971) :
    Fits c (UnpackedFloat.unpack Format.binary64 b) := by
  have hbias : (Format.binary64.exponentBias : Int) + Format.binary64.mantissaBitsWithoutImplicit = 1075 := rfl
  rw [UnpackedFloat.unpack]
  dsimp only
  rw [hbias]
  split
  · rename_i hones
    have htop : (UnpackedFloat.unpackExponent b).toNat = 2047 := congrArg BitVec.toNat hones
    omega
  split
  · rename_i hzero
    have hbottom : (UnpackedFloat.unpackExponent b).toNat = 0 := congrArg BitVec.toNat hzero
    split
    · trivial
    · exact ⟨(UnpackedFloat.unpackMantissa b).isLt.trans (by decide), by omega⟩
  · exact ⟨(1#1 ++ UnpackedFloat.unpackMantissa b).isLt, by omega⟩

/-- A number is as large in the bits of a double as it was, if it is not too large for them. -/
theorem fits_pack (h : Fits c u) (hc : -1074 ≤ c) (hc' : c ≤ 971) : Fits c (Float.Model.pack u).unpack := by
  refine fits_unpack ?_ hc hc'
  have hzero : ((BitVec.ofNat Format.binary64.exponentBits 0).toNat : Int) = 0 := rfl
  show ((UnpackedFloat.unpackExponent (u.pack Format.binary64)).toNat : Int) ≤ c + 1075
  cases u with
  | infinity _ | notANumber => cases h
  | zero s =>
    rw [UnpackedFloat.pack, UnpackedFloat.packedZero, UnpackedFloat.unpackExponent_packComponents]
    exact hzero.trans_le (by omega)
  | finite s m e _ =>
    have he := h.2
    have hbias : (Format.binary64.exponentBias : Int) = 1023 := rfl
    rw [UnpackedFloat.pack]
    dsimp only
    rw [hbias]
    split
    · omega
    split
    · rw [UnpackedFloat.unpackExponent_packComponents, BitVec.toNat_ofNat]
      have hle := Nat.mod_le (e + 1023 + 52).toNat (2 ^ 11)
      omega
    · rw [UnpackedFloat.unpackExponent_packComponents, hzero]
      omega

theorem fits_signed {negative : Bool} {bits : Nat} (h : bits < infinityBits) :
    Fits 971 (signed negative bits).toModel.unpack := by
  refine fits_pack (fits_unpack ?_ (by decide) (by decide)) (by decide) (by decide)
  obtain ⟨all, hall⟩ : ∃ all, all = if negative then signBit + bits else bits := ⟨_, rfl⟩
  rw [← hall]
  have hexponent : (@UnpackedFloat.unpackExponent Format.binary64 (UInt64.ofNat all).toBitVec).toNat =
      all / 2 ^ 52 % 2 ^ 11 := by
    simp only [UnpackedFloat.unpackExponent, BitVec.cast_eq, BitVec.extractLsb_toNat,
      UInt64.toNat_toBitVec, UInt64.toNat_ofNat', Nat.shiftRight_eq_div_pow]
    omega
  have hinfinity : infinityBits = 2047 * 2 ^ 52 := rfl
  have hsign : signBit = 2 ^ 11 * 2 ^ 52 := rfl
  rw [hexponent]
  cases negative <;> simp only [Bool.false_eq_true, if_false, if_true] at hall <;> omega

theorem fits_ofInt {n : Int} {x : Float} (h : ofInt n = .ok x) : Fits 971 x.toModel.unpack := by
  rw [ofInt] at h
  split at h
  · cases h
  · rename_i hfinite
    cases h
    exact fits_signed (Nat.not_le.mp hfinite)

private theorem unpack_scaledPointsPerUnit : scaledPointsPerUnit.toModel.unpack =
    .finite .positive 4520488125973135 (-36) (by decide) := rfl

theorem fits_ofScaledPoints {n : Int} {x : Float} (h : Scalar.ofScaledPoints n = .ok x) :
    Fits 956 x.toModel.unpack := by
  have h : (ofInt n).map (· / scaledPointsPerUnit) = .ok x := h
  cases hn : ofInt n with
  | error fault => rw [hn] at h; cases h
  | ok y =>
    rw [hn] at h
    cases h
    have hquotient : Fits 956 (y.toModel.unpack.div Format.binary64 scaledPointsPerUnit.toModel.unpack) := by
      rw [unpack_scaledPointsPerUnit]
      exact fits_div (fits_ofInt hn) (by decide) (by decide)
    exact fits_pack hquotient (by decide) (by decide)

/-- A double that is neither infinite nor undefined cancels out. -/
theorem sub_self_of_fits {x : Float} (h : Fits c x.toModel.unpack) : x - x = 0.0 := by
  have hzero : x.toModel.unpack.sub Format.binary64 x.toModel.unpack = .zero .positive := by
    cases hx : x.toModel.unpack with
    | infinity _ | notANumber => rw [hx] at h; cases h
    | zero s => cases s <;> rfl
    | finite s m e _ =>
      rw [UnpackedFloat.sub]
      dsimp only
      rw [Int.sub_self]
      rfl
  show Float.ofModel (Float.Model.pack (x.toModel.unpack.sub Format.binary64 x.toModel.unpack)) = 0.0
  rw [hzero]
  rfl

end TypesetTrace.Binary64

namespace TypesetTrace.Scalar

/-- The number is a length in scaled points. -/
def IsLength {K : Type} [Scalar K] (x : K) : Prop := ∃ n, ofScaledPoints n = .ok x

/-- There is no distance from a length, moved by another one, to itself. -/
class HasDifferences (K : Type) [Scalar K] : Prop where
  isLength_zero : IsLength (0 : K)
  sub_self_of_isLength : ∀ {a b : K}, IsLength a → IsLength b → a + b - (a + b) = 0

export HasDifferences (isLength_zero sub_self_of_isLength)

instance : HasDifferences Float where
  isLength_zero := ⟨0, rfl⟩
  sub_self_of_isLength := by
    rintro a b ⟨m, ha⟩ ⟨n, hb⟩
    have hsum := Binary64.fits_add (Binary64.fits_ofScaledPoints ha) (Binary64.fits_ofScaledPoints hb)
      (by decide)
    have hpacked : Binary64.Fits 958 (a + b).toModel.unpack :=
      Binary64.fits_pack hsum (by decide) (by decide)
    exact Binary64.sub_self_of_fits hpacked

theorem Exact.hasDifferences {K : Type} [Scalar K] (exact : Exact K) : HasDifferences K where
  isLength_zero := by
    obtain ⟨x, hx, hvalue⟩ := exact.ofScaledPoints_ok 0
    have hzero : x = 0 := exact.value_injective (by rw [hvalue, exact.value_zero]; simp)
    exact ⟨0, hzero ▸ hx⟩
  sub_self_of_isLength _ _ := exact.value_injective (by rw [exact.value_sub, exact.value_zero, sub_self])

instance : HasDifferences ℝ := exactReal.hasDifferences

end TypesetTrace.Scalar
