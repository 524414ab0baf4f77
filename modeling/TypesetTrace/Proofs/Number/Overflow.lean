import TypesetTrace.Proofs.Number.Scalar

/-! Which integers are too large for a double. The largest double is `2 ^ 1024 - 2 ^ 971`, and what lies
nearer to it than to `2 ^ 1024` is rounded to it; the middle between both already counts as too large,
since the larger neighbour is the even one. -/
namespace TypesetTrace.Binary64

/-- An even number is reached from the middle below it on. -/
theorem le_roundDiv_iff {k n d : Nat} (hd : 0 < d) (hk : k % 2 = 0) :
    k ≤ roundDiv n d ↔ 2 * (k * d) ≤ 2 * n + d := by
  obtain ⟨q, hq⟩ : ∃ q, q = n / d := ⟨_, rfl⟩
  obtain ⟨r, hr⟩ : ∃ r, r = n % d := ⟨_, rfl⟩
  have hn : n = q * d + r := by rw [hq, hr, Nat.mul_comm, Nat.div_add_mod]
  have hrd : r < d := hr ▸ Nat.mod_lt n hd
  rw [roundDiv, ← hq, ← hr, hn]
  -- What the quotient rounds to is `q` or `q + 1`.
  have hbelow : k ≤ q → k * d ≤ q * d := Nat.mul_le_mul_right d
  have hnext : k = q + 1 → k * d = q * d + d := fun h => by rw [h, Nat.succ_mul]
  have habove : q + 2 ≤ k → q * d + 2 * d ≤ k * d := fun h => by
    rw [← Nat.add_mul]
    exact Nat.mul_le_mul_right d h
  rcases Nat.lt_trichotomy k (q + 1) with h | h | h
  · have := hbelow (by omega)
    split_ifs <;> omega
  · have := hnext h
    split_ifs <;> omega
  · have := habove (by omega)
    split_ifs <;> omega

theorem div_le_roundDiv (n d : Nat) : n / d ≤ roundDiv n d := by
  simp only [roundDiv]
  split_ifs <;> omega

/-- An integer with more than 53 bits is cut down to as many. -/
theorem nearestBits_of_lt_log2 {m : Nat} (h : 52 < m.log2) :
    nearestBits m 0 =
      min ((m.log2 + 1022) * 2 ^ 52 + roundDiv m (2 ^ (m.log2 - 52))) infinityBits := by
  have hm : m ≠ 0 := by
    rintro rfl
    exact absurd h (by decide)
  have hq : max ((0 : Int) + m.log2 - 52) (-1074) = ((m.log2 - 52 : Nat) : Int) := by omega
  have hplace : (((m.log2 - 52 : Nat) : Int) + 1074).toNat = m.log2 + 1022 := by omega
  have hcut : (((m.log2 - 52 : Nat) : Int) - 0).toNat = m.log2 - 52 := by omega
  rw [nearestBits, if_neg hm]
  dsimp only
  rw [hq, if_neg (by omega), hplace, hcut, Nat.shiftLeft_eq, Nat.one_shiftLeft]

/-- The first integer that is too large. -/
def firstTooLarge : Nat := 2 ^ 1024 - 2 ^ 970

theorem infinityBits_le_nearestBits_iff {m : Nat} :
    infinityBits ≤ nearestBits m 0 ↔ firstTooLarge ≤ m := by
  have hinfinity : infinityBits = 2047 * 2 ^ 52 := rfl
  -- The powers of two that matter, as multiples of the smallest.
  obtain ⟨k, hk⟩ : ∃ k, k = 970 := ⟨_, rfl⟩
  obtain ⟨u, hu⟩ : ∃ u, u = 2 ^ k := ⟨_, rfl⟩
  have hpos : 0 < u := hu ▸ Nat.two_pow_pos k
  have hfirst : firstTooLarge = 2 ^ 54 * u - u := by
    rw [firstTooLarge, hu, ← Nat.pow_add, hk]
  rcases Nat.lt_trichotomy m.log2 1023 with h | h | h
  · have hbits : nearestBits m 0 < infinityBits := nearestBits_lt_infinityBits (by omega)
    have hm : m < 2 ^ 53 * u := by
      rw [hu, ← Nat.pow_add]
      exact Nat.lt_log2_self.trans_le (Nat.pow_le_pow_right (by decide) (by omega))
    omega
  · have hround : 2 ^ 53 ≤ roundDiv m (2 * u) ↔ 2 * (2 ^ 53 * (2 * u)) ≤ 2 * m + 2 * u :=
      le_roundDiv_iff (by omega) (by decide)
    have hplace : 2 ^ (1023 - 52) = 2 * u := by rw [hu, ← Nat.pow_succ', hk]
    rw [nearestBits_of_lt_log2 (by omega), h, hplace, le_min_iff, and_iff_left (Nat.le_refl _)]
    omega
  · have hm : m ≠ 0 := by
      rintro rfl
      exact absurd h (by decide)
    have hlarge : 2 ^ 54 * u ≤ m := by
      rw [hu, ← Nat.pow_add]
      exact (Nat.pow_le_pow_right (by decide) (by omega)).trans (Nat.log2_self_le hm)
    have hkept : 2 ^ 52 ≤ roundDiv m (2 ^ (m.log2 - 52)) := by
      refine Nat.le_trans ?_ (div_le_roundDiv _ _)
      rw [Nat.le_div_iff_mul_le (Nat.two_pow_pos _), ← Nat.pow_add, Nat.add_sub_cancel' (by omega)]
      exact Nat.log2_self_le hm
    rw [nearestBits_of_lt_log2 (by omega), le_min_iff, and_iff_left (Nat.le_refl _)]
    omega

theorem ofInt_eq_error_iff {n : Int} {fault : Fault} :
    ofInt n = .error fault ↔ firstTooLarge ≤ n.natAbs ∧ fault = .integerTooLarge := by
  rw [ofInt, ← infinityBits_le_nearestBits_iff]
  split
  · rename_i h
    simp [h, eq_comm]
  · rename_i h
    simp [h]

end TypesetTrace.Binary64
