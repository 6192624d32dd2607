import ThreatScan.Proofs.Value.NumberOrder
/-!
Rounding a fraction to a floating point number.

Rounding does not lead past a natural number that can be written exactly: if a fraction is at most such a number, so is the
floating point number nearest to it (`exists_size_ofRatio_le`). The bound is kept at the rounding of the quotient
(`roundedQuotient_le`); what follows it only moves a factor of two between mantissa and exponent.
-/
namespace ThreatScan.Binary64

theorem roundedQuotient_le {n d k : Nat} (h : n ≤ k * d) : roundedQuotient n d ≤ k := by
  have hq : n / d ≤ k := Nat.div_le_of_le_mul (by rw [Nat.mul_comm]; exact h)
  rcases Nat.lt_or_ge (n / d) k with hlt | hge
  · simp only [roundedQuotient]
    split_ifs <;> omega
  · -- a quotient that has reached the bound leaves no remainder to round up
    have hdiv : d * (n / d) + n % d = n := Nat.div_add_mod n d
    have heq : n / d = k := Nat.le_antisymm hq hge
    have hr : n % d = 0 := by
      rw [heq, Nat.mul_comm] at hdiv
      omega
    simp only [roundedQuotient, hr, heq]
    split_ifs with h₁ h₂ h₃
    · exact Nat.le_refl k
    · exact absurd h₂ (Nat.not_lt_zero d)
    · exact Nat.le_refl k
    · obtain rfl : d = 0 := by omega
      omega

/-- A fraction below `2 ^ 51` has binary digits after the point. -/
theorem exponentFor_neg {n d : Nat} (hn : n ≠ 0) (h : n < 2 ^ 51 * d) : exponentFor n d < 0 := by
  have hlog : Nat.log2 n < Nat.log2 d + 52 := by
    rw [Nat.log2_lt hn]
    calc n < 2 ^ 51 * d := h
      _ < 2 ^ 51 * 2 ^ (Nat.log2 d + 1) := Nat.mul_lt_mul_of_pos_left Nat.lt_log2_self (by positivity)
      _ = 2 ^ (Nat.log2 d + 52) := by ring
  have hguess : ((Nat.log2 n : Int) - (Nat.log2 d : Int) - 52) < 0 := by omega
  simp only [exponentFor]
  split_ifs <;> omega

theorem ratio_neg (m x : Nat) : ratio m (-(x : Int)) = (m, 2 ^ x) := by
  unfold ratio
  split
  · obtain rfl : x = 0 := by omega
    exact congrArg (·, 1) (Nat.mul_one m)
  · rw [Int.neg_neg, Int.toNat_natCast]
    rfl

/-- A fraction with digits after the point is scaled up and rounded; a mantissa that has grown too long is halved. -/
theorem ofRatio_of_exponentFor {n d x : Nat} (hn : n ≠ 0) (hd : d ≠ 0) (hx : exponentFor n d = -((x + 1 : Nat) : Int)) :
    let m := roundedQuotient (n * 2 ^ (x + 1)) d
    ofRatio false n d =
      if m = 2 ^ 53 then .finite false (2 ^ 52) (-(x : Int)) else .finite false m (-((x + 1 : Nat) : Int)) := by
  have hscaled : scaled n d (exponentFor n d) = (n * 2 ^ (x + 1), d) := by
    rw [hx, scaled, if_neg (by omega), Int.neg_neg, Int.toNat_natCast]
    rfl
  have hnext : exponentFor n d + 1 = -(x : Int) := by omega
  simp only [ofRatio, if_neg (not_or.mpr ⟨hn, hd⟩), hscaled, Nat.pow_eq]
  split
  · simp only [hnext]
    rw [if_neg (by omega)]
  · simp only [hx]
    rw [if_neg (by omega)]

/-- The floating point number nearest to a fraction is at most a natural number that the fraction is at most. -/
theorem exists_ofRatio_le {n d k : Nat} (h : n ≤ k * d) (hk : k < 2 ^ 51) :
    ∃ m e, ofRatio false n d = .finite false m e ∧ (ratio m e).1 ≤ k * (ratio m e).2 := by
  by_cases hzero : n = 0 ∨ d = 0
  · exact ⟨0, -1074, by simp [ofRatio, hzero], Nat.zero_le _⟩
  obtain ⟨hn, hd⟩ := not_or.mp hzero
  have he : exponentFor n d < 0 := exponentFor_neg hn <|
    Nat.lt_of_le_of_lt h (Nat.mul_lt_mul_of_pos_right hk (Nat.pos_of_ne_zero hd))
  obtain ⟨x, hx⟩ : ∃ x : Nat, exponentFor n d = -((x + 1 : Nat) : Int) := ⟨(-exponentFor n d - 1).toNat, by omega⟩
  have hm : roundedQuotient (n * 2 ^ (x + 1)) d ≤ k * 2 ^ (x + 1) := by
    apply roundedQuotient_le
    calc n * 2 ^ (x + 1) ≤ k * d * 2 ^ (x + 1) := Nat.mul_le_mul_right _ h
      _ = k * 2 ^ (x + 1) * d := by ring
  have hround := ofRatio_of_exponentFor hn hd hx
  dsimp only at hround
  split at hround
  · next hcarry =>
    refine ⟨2 ^ 52, -(x : Int), hround, ?_⟩
    rw [hcarry, @Nat.pow_succ 2 x, ← Nat.mul_assoc] at hm
    rw [ratio_neg]
    dsimp only
    omega
  · refine ⟨_, _, hround, ?_⟩
    rw [ratio_neg]
    exact hm

theorem exists_size_ofRatio_le {n d k : Nat} (h : n ≤ k * d) (hk : k < 2 ^ 51) :
    ∃ q : ℚ, (ofRatio false n d).size? = some (Size.ofRat q) ∧ q ≤ k := by
  obtain ⟨m, e, hround, hle⟩ := exists_ofRatio_le h hk
  refine ⟨_, congrArg size? hround, ?_⟩
  have hpos : (0 : ℚ) < (ratio m e).2 := by exact_mod_cast ratio_snd_pos m e
  have hnum : numerator false m e = (ratio m e).1 := rfl
  rw [hnum, div_le_iff₀ hpos]
  exact_mod_cast hle

end ThreatScan.Binary64
