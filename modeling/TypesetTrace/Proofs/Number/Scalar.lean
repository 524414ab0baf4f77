import Mathlib.Analysis.Real.Sqrt
import Mathlib.Data.Prod.Lex
import TypesetTrace.Number.Scalar

/-! What is asked of the numbers that coordinates are made of. An interpolation takes a proper fraction,
which must be among them; it is among the doubles. What lies inside what is a matter of comparing alone, and
doubles are compared by their places in an order. The laws of distances are those of real numbers: they hold
as soon as each number stands for a real one and calculating with it is exact. -/
namespace TypesetTrace.Binary64
open Float.Model
open Float.Model.UnpackedFloat (Sign)

theorem roundDiv_le (n d : Nat) : roundDiv n d ≤ n / d + 1 := by
  simp only [roundDiv]
  split_ifs <;> omega

/-- Cutting off `k` bits leaves at least as many fewer. -/
private theorem roundDiv_le_two_pow {m k n : Nat} (h : m.log2 ≤ n + k) :
    roundDiv m (1 <<< k) ≤ 2 ^ (n + 1) := by
  have hm : m < 2 ^ (n + 1) * 2 ^ k := by
    rw [← Nat.pow_add]
    exact Nat.lt_log2_self.trans_le (Nat.pow_le_pow_right (by decide) (by omega))
  have hdiv : m / 2 ^ k < 2 ^ (n + 1) := Nat.div_lt_of_lt_mul (by rwa [Nat.mul_comm])
  have hround := roundDiv_le m (1 <<< k)
  rw [Nat.one_shiftLeft] at hround ⊢
  omega

private theorem shiftLeft_le_two_pow {m k n : Nat} (h : m.log2 + k ≤ n) : m <<< k ≤ 2 ^ (n + 1) := by
  rw [Nat.shiftLeft_eq]
  calc m * 2 ^ k ≤ 2 ^ (m.log2 + 1) * 2 ^ k := Nat.mul_le_mul_right _ Nat.lt_log2_self.le
    _ = 2 ^ (m.log2 + 1 + k) := (Nat.pow_add ..).symm
    _ ≤ 2 ^ (n + 1) := Nat.pow_le_pow_right (by decide) (by omega)

/-- A number below `2 ^ 1023` is rounded to a finite double. -/
theorem nearestBits_lt_infinityBits {m : Nat} {e : Int} (h : e + (m.log2 : Int) < 1023) :
    nearestBits m e < infinityBits := by
  have hinfinity : infinityBits = 2047 * 2 ^ 52 := rfl
  rw [nearestBits]
  split
  · rw [hinfinity]
    norm_num
  -- The last place counts `2 ^ q`, and at most 53 bits are kept above it.
  obtain ⟨q, hq⟩ : ∃ q, q = max (e + (m.log2 : Int) - 52) (-1074) := ⟨_, rfl⟩
  have hplace : (q + 1074).toNat ≤ 2044 := by omega
  have hkept : (if q ≤ e then m <<< (e - q).toNat else roundDiv m (1 <<< (q - e).toNat)) ≤ 2 ^ 53 := by
    split
    · exact shiftLeft_le_two_pow (by omega)
    · exact roundDiv_le_two_pow (by omega)
  simp only [← hq]
  refine lt_of_le_of_lt (Nat.min_le_left _ _) ?_
  rw [Nat.shiftLeft_eq, hinfinity]
  omega

private theorem quotientDigits_lt {n d : Nat} (hd : d ≠ 0) (h : n.log2 ≤ d.log2) :
    (quotientDigits n d).1 < 2 ^ 68 ∧ (quotientDigits n d).2 < 0 := by
  have hscaled : n <<< (66 + d.log2 - n.log2) < 2 ^ 67 * d := by
    rw [Nat.shiftLeft_eq]
    calc n * 2 ^ (66 + d.log2 - n.log2)
        < 2 ^ (n.log2 + 1) * 2 ^ (66 + d.log2 - n.log2) := by gcongr; exact Nat.lt_log2_self
      _ = 2 ^ 67 * 2 ^ d.log2 := by rw [← Nat.pow_add, ← Nat.pow_add]; congr 1; omega
      _ ≤ 2 ^ 67 * d := Nat.mul_le_mul_left _ (Nat.log2_self_le hd)
  have hquotient : n <<< (66 + d.log2 - n.log2) / d < 2 ^ 67 :=
    Nat.div_lt_of_lt_mul (by rwa [Nat.mul_comm])
  simp only [quotientDigits]
  split <;> omega

/-- A proper fraction is a double. -/
theorem quotient_of_lt {a b : Int} (ha : 0 < a) (hb : a < b) : ∃ x, quotient a b = .ok x := by
  have hlog : a.natAbs.log2 ≤ b.natAbs.log2 :=
    (Nat.le_log2 (by omega)).mpr ((Nat.log2_self_le (by omega)).trans (by omega))
  obtain ⟨hm, he⟩ := quotientDigits_lt (by omega) hlog
  rw [quotient, if_neg (by omega)]
  obtain ⟨⟨m, e⟩, hdigits⟩ : ∃ p, p = quotientDigits a.natAbs b.natAbs := ⟨_, rfl⟩
  rw [← hdigits] at hm he ⊢
  have hlog : m.log2 < 68 := by
    rcases Nat.eq_zero_or_pos m with rfl | hpos
    · decide
    · exact (Nat.log2_lt hpos.ne').mpr hm
  have hfinite : nearestBits m e < infinityBits := nearestBits_lt_infinityBits (by omega)
  exact ⟨_, if_neg (Nat.not_le.mpr hfinite)⟩

/-- Where a number stands among the others: its sign tells it from zero and from the infinite ones, then
the exponent counts before the digits. -/
def rank? : UnpackedFloat → Option (ℤ ×ₗ ℤ ×ₗ ℤ)
  | .infinity .negative => some (toLex (-2, toLex (0, 0)))
  | .finite .negative m e _ => some (toLex (-1, toLex (-e, -m)))
  | .zero _ => some (toLex (0, toLex (0, 0)))
  | .finite .positive m e _ => some (toLex (1, toLex (e, m)))
  | .infinity .positive => some (toLex (2, toLex (0, 0)))
  | .notANumber => none

private theorem isLE_then_iff {e e' : Int} {m m' : Nat} :
    ((compare e e').then (compare m m')).isLE ↔ e < e' ∨ e = e' ∧ m ≤ m' := by
  rw [Ordering.isLE_then_iff_or, Int.compare_eq_lt, Int.compare_eq_eq, Nat.isLE_compare]

private theorem isGE_then_iff {e e' : Int} {m m' : Nat} :
    ((compare e e').then (compare m m')).isGE ↔ e' < e ∨ e = e' ∧ m' ≤ m := by
  rw [← Ordering.isLE_swap, Ordering.swap_then, Int.compare_swap, Nat.compare_swap, isLE_then_iff, eq_comm]

private theorem unpacked_le_iff (u v : UnpackedFloat) :
    u.le v ↔ ∃ p q, rank? u = some p ∧ rank? v = some q ∧ p ≤ q := by
  have hsame (s : Sign) : compare s s = .eq := by cases s <;> rfl
  have hlt : compare Sign.negative .positive = .lt := rfl
  have hgt : compare Sign.positive .negative = .gt := rfl
  -- Signs decide, except between finite numbers of one sign. Negative ones stand the other way round.
  rcases u with (_ | _) | _ | _ | ⟨_ | _, m, e, _⟩ <;> rcases v with (_ | _) | _ | _ | ⟨_ | _, m', e', _⟩ <;>
    dsimp only [UnpackedFloat.le, UnpackedFloat.compare, rank?] <;>
    simp [Prod.Lex.toLex_le_toLex, hsame, hlt, hgt, isLE_then_iff, isGE_then_iff]

/-- A double is at most another one if both are numbers and it does not stand behind it. -/
theorem le_iff {a b : Float} :
    a ≤ b ↔ ∃ p q, rank? a.toModel.unpack = some p ∧ rank? b.toModel.unpack = some q ∧ p ≤ q := by
  rw [← unpacked_le_iff]
  exact decide_eq_true_iff

end TypesetTrace.Binary64

namespace TypesetTrace.Scalar

/-- Every proper fraction can be formed. -/
class HasProportions (K : Type) [Scalar K] : Prop where
  ratio_of_lt : ∀ {a b : Int}, 0 < a → a < b → ∃ t : K, ratio a b = .ok t

export HasProportions (ratio_of_lt)

instance : HasProportions Float := ⟨Binary64.quotient_of_lt⟩

/-- Comparing is transitive, and what can be compared with anything can be compared with itself. -/
class IsOrdered (K : Type) [Scalar K] : Prop where
  le_trans : ∀ {a b c : K}, a ≤ b → b ≤ c → a ≤ c
  le_self_of_le : ∀ {a b : K}, a ≤ b → a ≤ a ∧ b ≤ b

instance : IsOrdered Float where
  le_trans h h' := by
    obtain ⟨p, q, hp, hq, hle⟩ := Binary64.le_iff.mp h
    obtain ⟨q', r, hq', hr, hle'⟩ := Binary64.le_iff.mp h'
    obtain rfl : q = q' := Option.some.inj (hq.symm.trans hq')
    exact Binary64.le_iff.mpr ⟨p, r, hp, hr, hle.trans hle'⟩
  le_self_of_le h := by
    obtain ⟨p, q, hp, hq, -⟩ := Binary64.le_iff.mp h
    exact ⟨Binary64.le_iff.mpr ⟨p, p, hp, hp, le_rfl⟩, Binary64.le_iff.mpr ⟨q, q, hq, hq, le_rfl⟩⟩

/-- Each number stands for a real one, and calculating with the numbers is calculating with those. -/
structure Exact (K : Type) [Scalar K] where
  value : K → ℝ
  value_injective : Function.Injective value
  value_zero : value 0 = 0
  value_add : ∀ a b, value (a + b) = value a + value b
  value_sub : ∀ a b, value (a - b) = value a - value b
  value_mul : ∀ a b, value (a * b) = value a * value b
  le_iff : ∀ {a b}, a ≤ b ↔ value a ≤ value b
  lt_iff : ∀ {a b}, a < b ↔ value a < value b
  value_half : ∀ a, value (half a) = value a / 2
  isZero_iff : ∀ {a}, isZero a ↔ value a = 0
  value_hypot : ∀ a b, value (hypot a b) = √(value a ^ 2 + value b ^ 2)
  value_far : value far = 2 * 10 ^ 16
  ofScaledPoints_ok : ∀ n, ∃ x, ofScaledPoints n = .ok x ∧ value x = n / 65781.76
  ratio_ok : ∀ a {b}, b ≠ 0 → ∃ x, ratio a b = .ok x ∧ value x = a / b

noncomputable instance : Scalar ℝ where
  decideLE := inferInstance
  decideLT := inferInstance
  half a := a / 2
  isZero a := decide (a = 0)
  hypot a b := √(a ^ 2 + b ^ 2)
  far := 2 * 10 ^ 16
  ofScaledPoints n := .ok (n / 65781.76)
  ratio a b := if b = 0 then .error .divisionByZero else .ok (a / b)

def exactReal : Exact ℝ where
  value := id
  value_injective := Function.injective_id
  value_zero := rfl
  value_add _ _ := rfl
  value_sub _ _ := rfl
  value_mul _ _ := rfl
  le_iff := Iff.rfl
  lt_iff := Iff.rfl
  value_half _ := rfl
  isZero_iff := decide_eq_true_iff
  value_hypot _ _ := rfl
  value_far := rfl
  ofScaledPoints_ok _ := ⟨_, rfl, rfl⟩
  ratio_ok _ _ hb := ⟨_, if_neg hb, rfl⟩

theorem Exact.hasProportions {K : Type} [Scalar K] (exact : Exact K) : HasProportions K where
  ratio_of_lt ha hb := (exact.ratio_ok _ (by omega)).imp fun _ h => h.1

instance : HasProportions ℝ := exactReal.hasProportions

theorem Exact.isOrdered {K : Type} [Scalar K] (exact : Exact K) : IsOrdered K where
  le_trans h h' := exact.le_iff.mpr ((exact.le_iff.mp h).trans (exact.le_iff.mp h'))
  le_self_of_le _ := ⟨exact.le_iff.mpr le_rfl, exact.le_iff.mpr le_rfl⟩

/-- A ratio that was formed is the quotient. -/
theorem Exact.value_ratio {K : Type} [Scalar K] (exact : Exact K) {a b : Int} {t : K} (hb : b ≠ 0)
    (h : ratio a b = .ok t) : exact.value t = a / b := by
  obtain ⟨x, hx, hvalue⟩ := exact.ratio_ok a hb
  rw [hx] at h
  cases h
  exact hvalue

end TypesetTrace.Scalar
