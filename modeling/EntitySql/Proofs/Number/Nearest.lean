import EntitySql.Number.Binary

/-! # Integers as floats

An integer of at most 64 bits is rounded to a finite float (`ofInt_isFinite`). -/

namespace EntitySql

/-- The pattern stands for a number. -/
def BinaryFormat.IsFinite (f : BinaryFormat) (bits : Nat) : Prop :=
  ∃ negative significand exponent, f.decode bits = .finite negative significand exponent

theorem floorLog2_one {n : Nat} (hn : n ≠ 0) : floorLog2 n 1 = n.log2 := by
  have hself : ¬ n < 2 ^ n.log2 := Nat.not_lt.2 (Nat.log2_self_le hn)
  have hone : Nat.log2 1 = 0 := by decide
  simp [floorLog2, hone, hself]

theorem roundQuotient_le {num den bound : Nat} (h : num < den * bound) :
    roundQuotient num den ≤ bound := by
  have hquotient : num / den < bound := Nat.div_lt_of_lt_mul h
  unfold roundQuotient
  dsimp only
  split
  · omega
  split
  · omega
  split <;> omega

namespace BinaryFormat

/-- The rounded significand of a whole number takes 53 bits, or it is the next power of two. -/
theorem roundQuotient_log2_le (n : Nat) :
    (if 0 ≤ (n.log2 : Int) - 52 then roundQuotient n (1 * Nat.pow 2 ((n.log2 : Int) - 52).toNat)
      else roundQuotient (n * Nat.pow 2 (-((n.log2 : Int) - 52)).toNat) 1) ≤ 9007199254740992 := by
  have hupper : n < 2 ^ (n.log2 + 1) := Nat.lt_log2_self
  split
  · next h =>
    have hsplit : n.log2 + 1 = ((n.log2 : Int) - 52).toNat + 53 := by omega
    rw [hsplit, Nat.pow_add] at hupper
    rw [Nat.one_mul]
    exact roundQuotient_le hupper
  · next h =>
    refine roundQuotient_le ?_
    have hsum : n.log2 + 1 + (-((n.log2 : Int) - 52)).toNat = 53 := by omega
    calc n * Nat.pow 2 (-((n.log2 : Int) - 52)).toNat
        < 2 ^ (n.log2 + 1) * 2 ^ (-((n.log2 : Int) - 52)).toNat :=
          Nat.mul_lt_mul_of_pos_right hupper (Nat.pow_pos (by decide))
      _ = 1 * 9007199254740992 := by rw [← Nat.pow_add, hsum]

theorem nearest_one_lt {n : Nat} (h : n ≤ 18446744073709551616) :
    binary64.nearest n 1 < binary64.infinity := by
  have hinfinity : binary64.infinity = 2047 * 4503599627370496 := rfl
  rcases Nat.eq_zero_or_pos n with rfl | hpos
  · simp [nearest, hinfinity]
  · have hn : n ≠ 0 := Nat.ne_of_gt hpos
    have hlog : n.log2 < 65 := (Nat.log2_lt hn).2 (by omega)
    have hleast : binary64.leastExponent = -1074 := rfl
    have hfraction : binary64.fractionBits = 52 := rfl
    have he : max binary64.leastExponent (floorLog2 n 1 - binary64.fractionBits) =
        (n.log2 : Int) - 52 := by
      rw [floorLog2_one hn, hleast, hfraction]
      omega
    have hm := roundQuotient_log2_le n
    -- the exponent stays below the greatest also when rounding carries into the next power of two
    unfold nearest
    rw [if_neg hn]
    dsimp only
    rw [he, hleast, hfraction]
    generalize (if 0 ≤ (n.log2 : Int) - 52 then _ else _ : Nat) = m at hm ⊢
    refine Nat.lt_of_le_of_lt (Nat.min_le_right _ _) ?_
    rw [hinfinity, show Nat.pow 2 52 = 4503599627370496 from rfl]
    omega

theorem decode_withSign {magnitude : Nat} (negative : Bool) (h : magnitude < binary64.infinity) :
    binary64.IsFinite (binary64.withSign negative magnitude) := by
  have hinfinity : binary64.infinity = 2047 * 4503599627370496 := rfl
  have hsign : binary64.signBit = 9223372036854775808 := rfl
  have hmagnitude : binary64.withSign negative magnitude % binary64.signBit = magnitude := by
    unfold withSign
    rw [hsign]
    split <;> omega
  unfold IsFinite decode
  dsimp only
  rw [hmagnitude, if_neg (Nat.ne_of_lt h), if_neg (Nat.lt_asymm h)]
  split
  · exact ⟨_, _, _, rfl⟩
  · exact ⟨_, _, _, rfl⟩

/-- An integer of 64 bits, with a sign or without, is near a float. -/
theorem ofInt_isFinite {n : Int} (h : -9223372036854775808 ≤ n ∧ n < 18446744073709551616) :
    binary64.IsFinite (UInt64.ofNat (binary64.ofInt n)).toNat := by
  have hnearest := nearest_one_lt (n := n.natAbs) (by omega)
  have hinfinity : binary64.infinity = 2047 * 4503599627370496 := rfl
  have hsign : binary64.signBit = 9223372036854775808 := rfl
  have hbound : binary64.ofInt n < 18446744073709551616 := by
    unfold ofInt withSign
    split <;> omega
  rw [UInt64.toNat_ofNat_of_lt' hbound]
  exact decode_withSign _ hnearest

end BinaryFormat

end EntitySql
