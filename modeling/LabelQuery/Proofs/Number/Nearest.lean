import LabelQuery.Proofs.Config.Document

/-!
Natural numbers that are read as doubles. Main statement: a number comes back as the nearest
multiple of a unit that leaves it 53 bits, so it comes back as it is if and only if it has no more
bits than that, zeros at its end apart, or is the greatest that is held.
-/
namespace LabelQuery

namespace Binary64

/-- The distance between the doubles around a number with a given number of bits. -/
def unit (n : Nat) : Nat :=
  2 ^ (n.log2 - 52)

theorem unit_pos (n : Nat) : 0 < unit n :=
  Nat.two_pow_pos _

theorem roundDiv_mul (m : Nat) {den : Nat} (positive : 0 < den) : roundDiv (m * den) den = m := by
  simp [roundDiv, Nat.mul_div_cancel m positive, positive]

theorem roundDiv_one (m : Nat) : roundDiv m 1 = m := by
  simpa using roundDiv_mul m Nat.one_pos

theorem roundDiv_le (num den : Nat) : roundDiv num den ≤ num / den + 1 := by
  unfold roundDiv
  dsimp only
  split
  · omega
  · split <;> omega

theorem binaryOrder_one {n : Nat} (positive : n ≠ 0) : binaryOrder n 1 = n.log2 := by
  have one : Nat.log2 1 = 0 := by decide
  have below : 2 ^ n.log2 ≤ n := Nat.log2_self_le positive
  simp [binaryOrder, one, Nat.shiftLeft_eq, below]

theorem div_unit_lt {n : Nat} : n / unit n < 2 ^ 53 := by
  by_cases zero : n = 0
  · simp [zero]
  · apply Nat.div_lt_of_lt_mul
    rw [unit, ← Nat.pow_add]
    apply (Nat.log2_lt zero).1
    omega

theorem floorMagnitude_natCast (negative : Bool) (significand exponent : Nat) :
    floorMagnitude ⟨negative, significand, exponent⟩ = significand * 2 ^ exponent := by
  simp [floorMagnitude, Nat.shiftLeft_eq]

theorem floorMagnitude_neg (negative : Bool) (n exponent : Nat) :
    floorMagnitude ⟨negative, n <<< exponent, -exponent⟩ = n := by
  simp [floorMagnitude, Nat.shiftLeft_shiftRight]

/-- A significand that is carried over is written with one bit less, and means the same. -/
theorem floorMagnitude_carried (negative : Bool) (significand exponent : Nat) :
    (if significand = 1 <<< 53 then ⟨negative, 1 <<< 52, (exponent : Int) + 1⟩
      else ⟨negative, significand, exponent⟩ : Binary64).floorMagnitude =
      significand * 2 ^ exponent := by
  split
  · next carries =>
    have next : (exponent : Int) + 1 = (exponent + 1 : Nat) := rfl
    rw [next, floorMagnitude_natCast, carries, Nat.pow_succ, Nat.shiftLeft_eq, Nat.shiftLeft_eq]
    omega
  · exact floorMagnitude_natCast negative significand exponent

/-- A whole number is read as the nearest multiple of its unit. -/
theorem floorMagnitude_nearest {n : Nat} {value : Binary64} (h : nearest? false n 1 = some value) :
    value.negative = false ∧ value.floorMagnitude = roundDiv n (unit n) * unit n := by
  by_cases zero : n = 0
  · subst zero
    cases h
    simp [floorMagnitude, roundDiv]
  · simp only [nearest?, if_neg zero, binaryOrder_one zero, leastExponent] at h
    have exponent : max ((n.log2 : Int) - 52) (-1074) = n.log2 - 52 := by omega
    rw [exponent] at h
    obtain rfl := Option.some.inj (Option.ite_none_right_eq_some.1 h).2
    refine ⟨by split <;> rfl, ?_⟩
    rcases Nat.le_total 52 n.log2 with many | few
    · obtain ⟨k, order⟩ := Nat.exists_eq_add_of_le many
      have power : (n.log2 : Int) - 52 = k := by omega
      have units : unit n = 2 ^ k := by rw [unit, order, Nat.add_sub_cancel_left]
      rw [power, Int.toNat_natCast, Int.toNat_neg_natCast, Nat.shiftLeft_zero, Nat.shiftLeft_eq 1 k,
        Nat.one_mul, floorMagnitude_carried, units]
    · -- all bits have room: the significand is the number with zeros behind it
      obtain ⟨k, order⟩ := Nat.exists_eq_add_of_le few
      have power : (n.log2 : Int) - 52 = -k := by omega
      have units : unit n = 1 := by rw [unit, Nat.sub_eq_zero_of_le few, Nat.pow_zero]
      have short : n <<< k ≠ 1 <<< 53 := by
        have below : n * 2 ^ k < 2 ^ (n.log2 + 1) * 2 ^ k :=
          Nat.mul_lt_mul_of_pos_right Nat.lt_log2_self (Nat.two_pow_pos k)
        rw [← Nat.pow_add, show n.log2 + 1 + k = 53 by omega, ← Nat.shiftLeft_eq] at below
        exact Nat.ne_of_lt below
      rw [power, Int.neg_neg, Int.toNat_natCast, Int.toNat_neg_natCast, Nat.shiftLeft_zero,
        roundDiv_one, if_neg short, floorMagnitude_neg, units, roundDiv_one, Nat.mul_one]

/-- The digits of a number have no places that would settle it. -/
theorem ofDecimal?_eq_nearest {n : Nat} (small : n < counterLimit) :
    ofDecimal? false n 0 = nearest? false n 1 := by
  have digits : (Nat.toDigits 10 n).length ≤ 20 :=
    (Nat.length_toDigits_le_iff (by decide) (by decide)).2 (Nat.lt_trans small (by decide))
  have few : ¬mostPlaces < ((Nat.toDigits 10 n).length : Int) + 0 := by
    simp only [mostPlaces]
    omega
  have many : ¬((Nat.toDigits 10 n).length : Int) + 0 < leastPlaces := by
    simp only [leastPlaces]
    omega
  by_cases zero : n = 0
  · simp [ofDecimal?, nearest?, zero]
  · simp only [ofDecimal?, zero, many, few, or_self, if_false]
    simp

/-- A number of at most 53 bits, perhaps with zeros behind them. -/
def Short (n : Nat) : Prop :=
  ∃ significand shift, significand < 2 ^ 53 ∧ n = significand * 2 ^ shift

theorem short_iff_unit_dvd {n : Nat} : Short n ↔ unit n ∣ n := by
  constructor
  · rintro ⟨significand, shift, short, rfl⟩
    by_cases zero : significand = 0
    · simp [zero]
    · have positive := Nat.two_pow_pos shift
      have bits : (significand * 2 ^ shift).log2 < 53 + shift := by
        apply (Nat.log2_lt (Nat.mul_ne_zero zero (Nat.ne_of_gt positive))).2
        rw [Nat.pow_add]
        exact Nat.mul_lt_mul_of_pos_right short positive
      apply Nat.dvd_trans _ (Nat.dvd_mul_left _ _)
      apply Nat.pow_dvd_pow
      omega
  · intro divides
    exact ⟨n / unit n, n.log2 - 52, div_unit_lt, (Nat.div_mul_cancel divides).symm⟩

theorem roundDiv_mul_unit {n : Nat} : roundDiv n (unit n) * unit n = n ↔ Short n := by
  rw [short_iff_unit_dvd]
  constructor
  · intro same
    exact ⟨_, same.symm.trans (Nat.mul_comm ..)⟩
  · rintro divides
    obtain ⟨m, whole⟩ := divides
    have nearest := roundDiv_mul m (unit_pos n)
    rw [Nat.mul_comm m, ← whole] at nearest
    rw [nearest, Nat.mul_comm, ← whole]

/-- What is nearest is short. -/
theorem short_roundDiv (n : Nat) : Short (roundDiv n (unit n) * unit n) := by
  have below := @div_unit_lt n
  have bound := roundDiv_le n (unit n)
  by_cases carries : roundDiv n (unit n) = 2 ^ 53
  · refine ⟨1, 53 + (n.log2 - 52), by decide, ?_⟩
    rw [carries, unit, Nat.one_mul, Nat.pow_add]
  · exact ⟨_, n.log2 - 52, by omega, rfl⟩

end Binary64

namespace Config

open Binary64

theorem storedThreshold_eq {n : Nat} (small : n < counterLimit) :
    storedThreshold n = min (roundDiv n (unit n) * unit n) (counterLimit - 1) := by
  obtain ⟨value, read⟩ := ofDecimal?_of_lt small
  rw [ofDecimal?_eq_nearest small] at read
  obtain ⟨positive, magnitude⟩ := floorMagnitude_nearest read
  simp only [storedThreshold, ofDecimal?_eq_nearest small, read, Double.saturate, truncate,
    positive, magnitude, Bool.false_eq_true, if_false, Int.toNat_natCast]

theorem storedThreshold_greatest : storedThreshold (counterLimit - 1) = counterLimit - 1 := by
  decide +kernel

theorem storedThreshold_of_short {n : Nat} (small : n < counterLimit) (short : Short n) :
    storedThreshold n = n := by
  rw [storedThreshold_eq small, roundDiv_mul_unit.2 short]
  omega

/-- A threshold is read as it was written if and only if a double can be it, or it is the greatest.
-/
theorem storedThreshold_eq_self {n : Nat} (small : n < counterLimit) :
    storedThreshold n = n ↔ Short n ∨ n = counterLimit - 1 := by
  constructor
  · intro same
    rw [storedThreshold_eq small] at same
    rcases Nat.le_total (roundDiv n (unit n) * unit n) (counterLimit - 1) with fits | beyond
    · rw [Nat.min_eq_left fits] at same
      exact .inl (roundDiv_mul_unit.1 same)
    · rw [Nat.min_eq_right beyond] at same
      exact .inr same.symm
  · rintro (short | rfl)
    · exact storedThreshold_of_short small short
    · exact storedThreshold_greatest

/-- Writing and reading once more changes nothing. -/
theorem storedThreshold_again {n : Nat} (small : n < counterLimit) :
    storedThreshold (storedThreshold n) = storedThreshold n := by
  apply (storedThreshold_eq_self (storedThreshold_lt small)).2
  rw [storedThreshold_eq small]
  rcases Nat.le_total (roundDiv n (unit n) * unit n) (counterLimit - 1) with fits | beyond
  · rw [Nat.min_eq_left fits]
    exact .inl (short_roundDiv n)
  · exact .inr (Nat.min_eq_right beyond)

end Config

end LabelQuery
