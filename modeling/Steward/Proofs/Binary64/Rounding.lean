import Steward.Binary64.Basic

/-!
# What rounding does

All that is said of a rounded number is said in integers. A finite number is compared with the quotient that it was
rounded from through products, so nothing here needs a fraction: `2 * |m * den - num| ≤ den * grid` says that `m` is
no farther from `num / den` than half of the grid that numbers of this size lie on.

## Contents

* `twoTo_add`, `twoTo_mono` — powers of two;
* `roundHalfEven_bounds`, `roundHalfEven_eq` — the nearest integer;
* `nearest`, `ofUnits_finite` — the magnitude of a rounded number;
* `nearest_bounds` — how far rounding moves, `nearest_eq` — where it goes to a given number of its grid;
* `nearest_exact`, `ofInt_finite` — what is represented is not moved; `add_ofInt` — sums of counts.
-/

namespace Steward.Binary64

/-! ## Powers of two -/

theorem twoTo_pos (n : Nat) : 0 < twoTo n :=
  Nat.pow_pos (by decide)

theorem twoTo_add (a b : Nat) : twoTo (a + b) = twoTo a * twoTo b :=
  Nat.pow_add 2 a b

theorem twoTo_mono {a b : Nat} (h : a ≤ b) : twoTo a ≤ twoTo b :=
  Nat.pow_le_pow_right (by decide) h

theorem twoTo_lt {a b : Nat} (h : a < b) : twoTo a < twoTo b :=
  Nat.pow_lt_pow_right (by decide) h

theorem unit_eq : unit = twoTo 1074 :=
  rfl

theorem unit_pos : 0 < unit :=
  twoTo_pos 1074

/-! ## The nearest integer -/

/-- The nearest integer is at most one half away. -/
theorem roundHalfEven_bounds (num : Nat) {den : Nat} (hden : 0 < den) :
    2 * num ≤ 2 * (roundHalfEven num den * den) + den ∧ 2 * (roundHalfEven num den * den) ≤ 2 * num + den := by
  have hdiv : num / den * den + num % den = num := Nat.div_add_mod' num den
  have hsucc : (num / den + 1) * den = num / den * den + den := Nat.succ_mul _ _
  have hrest : num % den < den := Nat.mod_lt num hden
  unfold roundHalfEven
  dsimp only
  split
  · omega
  · split
    · omega
    · split <;> omega

/-- An integer less than one half away is the nearest. -/
theorem roundHalfEven_eq {num den j : Nat} (hden : 0 < den) (hbelow : 2 * num < 2 * (j * den) + den)
    (habove : 2 * (j * den) < 2 * num + den) : roundHalfEven num den = j := by
  obtain ⟨hlow, hhigh⟩ := roundHalfEven_bounds num hden
  -- the two integers are less than one apart
  have hle : roundHalfEven num den < j + 1 := by
    apply Nat.lt_of_mul_lt_mul_right (a := den)
    have hsucc : (j + 1) * den = j * den + den := Nat.succ_mul _ _
    omega
  have hge : j < roundHalfEven num den + 1 := by
    apply Nat.lt_of_mul_lt_mul_right (a := den)
    have hsucc : (roundHalfEven num den + 1) * den = roundHalfEven num den * den + den := Nat.succ_mul _ _
    omega
  omega

/-! ## Rounded numbers -/

/-- The shift of the number nearest to `num / den` units, carries apart. -/
def shiftFor (num den : Nat) : Nat :=
  (num / den).log2 - 52

/-- The magnitude of the number nearest to `num / den` units. -/
def nearest (num den : Nat) : Nat :=
  roundHalfEven num (den * twoTo (shiftFor num den)) * twoTo (shiftFor num den)

/-- A quotient below this bound has no greater shift. -/
theorem shiftFor_le {num den s : Nat} (h : num < den * twoTo (s + 53)) : shiftFor num den ≤ s := by
  have hquotient : num / den < 2 ^ (s + 53) := Nat.div_lt_of_lt_mul h
  unfold shiftFor
  by_cases hzero : num / den = 0
  · rw [hzero, Nat.log2_zero]
    omega
  · have hlog : (num / den).log2 < s + 53 := (Nat.log2_lt hzero).2 hquotient
    omega

/-- A quotient above this bound has no smaller shift. -/
theorem le_shiftFor {num den s : Nat} (hden : 0 < den) (h : den * twoTo (s + 52) ≤ num) : s ≤ shiftFor num den := by
  have hquotient : 2 ^ (s + 52) ≤ num / den := by
    rw [Nat.le_div_iff_mul_le hden, Nat.mul_comm]
    exact h
  have hzero : num / den ≠ 0 := Nat.ne_of_gt (Nat.lt_of_lt_of_le (Nat.two_pow_pos _) hquotient)
  have hlog : s + 52 ≤ (num / den).log2 := (Nat.le_log2 hzero).2 hquotient
  unfold shiftFor
  omega

/-- **Rounded numbers.** What is not too great is rounded to a finite number with the nearest magnitude. -/
theorem ofUnits_finite {num den : Nat} (negative : Bool) (h : num < den * twoTo (2044 + 53)) :
    ∃ m p, ofUnits negative num den = .finite negative m p ∧ m * twoTo p = nearest num den := by
  have hshift : shiftFor num den ≤ 2044 := shiftFor_le h
  unfold ofUnits nearest
  unfold shiftFor at hshift ⊢
  dsimp only
  by_cases hcarry : roundHalfEven num (den * twoTo ((num / den).log2 - 52)) = twoTo 53
  · -- a significand that is carried over is halved, and its shift is one more
    rw [if_pos hcarry]
    refine ⟨twoTo 52, (num / den).log2 - 52 + 1, ?_, ?_⟩
    · dsimp only
      rw [if_neg (by omega)]
    · rw [hcarry, ← twoTo_add, ← twoTo_add]
      congr 1
      omega
  · rw [if_neg hcarry]
    refine ⟨_, _, ?_, rfl⟩
    dsimp only
    rw [if_neg (by omega)]

/-! ## How far rounding moves -/

/-- **Rounding moves a number by half of its grid at most.** -/
theorem nearest_bounds {num den s : Nat} (hden : 0 < den) (h : num < den * twoTo (s + 53)) :
    2 * num ≤ 2 * (nearest num den * den) + den * twoTo s ∧ 2 * (nearest num den * den) ≤ 2 * num + den * twoTo s := by
  have hgrid : den * twoTo (shiftFor num den) ≤ den * twoTo s :=
    Nat.mul_le_mul_left den (twoTo_mono (shiftFor_le h))
  have hswap : nearest num den * den
      = roundHalfEven num (den * twoTo (shiftFor num den)) * (den * twoTo (shiftFor num den)) := by
    unfold nearest
    rw [Nat.mul_assoc, Nat.mul_comm (twoTo _) den]
  obtain ⟨hlow, hhigh⟩ := roundHalfEven_bounds num (Nat.mul_pos hden (twoTo_pos (shiftFor num den)))
  rw [hswap]
  omega

/-- A number of the grid that is less than half of it away is the nearest. -/
theorem nearest_eq {num den s j : Nat} (hden : 0 < den) (hlow : den * twoTo (s + 52) ≤ num)
    (hhigh : num < den * twoTo (s + 53)) (hbelow : 2 * num < 2 * (j * (den * twoTo s)) + den * twoTo s)
    (habove : 2 * (j * (den * twoTo s)) < 2 * num + den * twoTo s) : nearest num den = j * twoTo s := by
  have hshift : shiftFor num den = s := Nat.le_antisymm (shiftFor_le hhigh) (le_shiftFor hden hlow)
  unfold nearest
  rw [hshift, roundHalfEven_eq (Nat.mul_pos hden (twoTo_pos s)) hbelow habove]

/-! ## What is not moved -/

/-- What lies on its grid is not moved. -/
theorem nearest_mul {den k : Nat} (hden : 0 < den) (h : twoTo (shiftFor (k * den) den) ∣ k) :
    nearest (k * den) den = k := by
  obtain ⟨j, hj⟩ := h
  have hgrid : 0 < den * twoTo (shiftFor (k * den) den) := Nat.mul_pos hden (twoTo_pos _)
  have hnum : k * den = j * (den * twoTo (shiftFor (k * den) den)) := by
    rw [← Nat.mul_assoc, Nat.mul_comm j den, Nat.mul_assoc, Nat.mul_comm j, ← hj, Nat.mul_comm]
  have hround : roundHalfEven (k * den) (den * twoTo (shiftFor (k * den) den)) = j :=
    roundHalfEven_eq hgrid (by omega) (by omega)
  unfold nearest
  rw [hround, Nat.mul_comm]
  exact hj.symm

/-- **A number of 53 bits is not moved.** -/
theorem nearest_exact {den j s : Nat} (hden : 0 < den) (hj : j ≤ twoTo 53) :
    nearest (j * twoTo s * den) den = j * twoTo s := by
  apply nearest_mul hden
  rcases Nat.lt_or_eq_of_le hj with hlt | rfl
  · have hbound : j * twoTo s * den < den * twoTo (s + 53) := by
      rw [Nat.mul_comm, twoTo_add, Nat.mul_comm (twoTo s)]
      exact Nat.mul_lt_mul_of_pos_left (Nat.mul_lt_mul_of_pos_right hlt (twoTo_pos s)) hden
    have hdvd : twoTo (shiftFor (j * twoTo s * den) den) ∣ twoTo s := Nat.pow_dvd_pow 2 (shiftFor_le hbound)
    exact Nat.dvd_trans hdvd (Nat.dvd_mul_left _ j)
  · -- the one number of 54 bits that is a power of two
    have hbound : twoTo 53 * twoTo s * den < den * twoTo (s + 1 + 53) := by
      rw [Nat.mul_comm, ← twoTo_add]
      exact Nat.mul_lt_mul_of_pos_left (twoTo_lt (by omega)) hden
    have hdvd : twoTo (shiftFor (twoTo 53 * twoTo s * den) den) ∣ twoTo (s + 1) :=
      Nat.pow_dvd_pow 2 (shiftFor_le hbound)
    refine Nat.dvd_trans hdvd ?_
    rw [← twoTo_add]
    exact Nat.pow_dvd_pow 2 (by omega)

/-- A natural number up to `2 ^ 53` is a double. -/
theorem nearest_nat {n : Nat} (hn : n ≤ twoTo 53) : nearest (n * unit) 1 = n * unit := by
  have hexact : nearest (n * twoTo 1074 * 1) 1 = n * twoTo 1074 := nearest_exact Nat.one_pos hn
  rwa [Nat.mul_one, ← unit_eq] at hexact

theorem nat_finite {n : Nat} (hn : n ≤ twoTo 53) : n * unit < 1 * twoTo (2044 + 53) := by
  rw [Nat.one_mul]
  calc n * unit ≤ twoTo 53 * unit := Nat.mul_le_mul_right unit hn
    _ = twoTo (53 + 1074) := by rw [unit_eq, ← twoTo_add]
    _ < twoTo (2044 + 53) := twoTo_lt (by decide)

/-- **Integers up to `2 ^ 53` are doubles.** -/
theorem ofInt_finite {n : Int} (hn : n.natAbs ≤ twoTo 53) :
    ∃ m p, ofInt n = .finite (n < 0) m p ∧ units (.finite (n < 0) m p) = n * unit := by
  obtain ⟨m, p, hfinite, hmagnitude⟩ := ofUnits_finite (decide (n < 0)) (nat_finite hn)
  refine ⟨m, p, hfinite, ?_⟩
  rw [nearest_nat hn] at hmagnitude
  have hunits : units (.finite (n < 0) m p) = if n < 0 then -((m * twoTo p : Nat) : Int) else (m * twoTo p : Nat) := by
    simp only [units, decide_eq_true_eq]
  rw [hunits, hmagnitude, Int.natCast_mul]
  split
  · rw [← Int.neg_mul]
    congr 1
    omega
  · congr 1
    omega

theorem ofInt_zero : ofInt 0 = zero false := by
  rw [ofInt, ofRatio, Int.natAbs_zero, Nat.zero_mul]
  rfl

/-- **Counts are added exactly.** -/
theorem add_ofInt {a b : Nat} (ha : a ≤ twoTo 53) (hb : b ≤ twoTo 53) :
    add (ofInt a) (ofInt b) = ofInt (a + b : Nat) := by
  obtain ⟨m, p, hfinite, hunits⟩ := ofInt_finite (n := a) ha
  obtain ⟨m', p', hfinite', hunits'⟩ := ofInt_finite (n := b) hb
  have hsum : (a : Int) * unit + (b : Int) * unit = ((a + b : Nat) : Int) * unit := by
    rw [← Int.add_mul, Int.natCast_add]
  rw [hfinite, hfinite', add, hunits, hunits', hsum, ofInt, ofRatio]
  have hnonneg : 0 ≤ ((a + b : Nat) : Int) * unit := Int.mul_nonneg (Int.natCast_nonneg _) (Int.natCast_nonneg _)
  by_cases hzero : a + b = 0
  · obtain ⟨rfl, rfl⟩ : a = 0 ∧ b = 0 := by omega
    simp only [Nat.add_zero, Int.natCast_zero, Int.zero_mul, Int.natAbs_zero, Nat.zero_mul, if_true]
    rfl
  · have hpos : ((a + b : Nat) : Int) * unit ≠ 0 := by
      have hunit := unit_pos
      exact Int.mul_ne_zero (by omega) (by omega)
    rw [if_neg hpos, Int.natAbs_mul, Int.natAbs_natCast unit, decide_eq_false (Int.not_lt.2 hnonneg),
      decide_eq_false (Int.not_lt.2 (Int.natCast_nonneg _))]

end Steward.Binary64
