import Mathlib

/-!
# One's complement sums

A sum in `w` bits whose carries go round: what falls out at the top is added in at the bottom. Every order of folding leaves the same
number, `wrap`, since a fold keeps a sum modulo `2 ^ w - 1` and keeps it from becoming zero. From that come the checksum (the
complement of a sum, which makes all of it ones) and what becomes of it when summands change.
-/

namespace OnesComplement

variable (w : Nat)

/-- The largest number of `w` bits, minus zero. -/
def ones : Nat := 2 ^ w - 1

/-- What a sum leaves in `w` bits. -/
def wrap (n : Nat) : Nat := if n = 0 then 0 else (n - 1) % ones w + 1

/-- One fold: what stands above the low `w` bits is added to them. -/
def fold (n : Nat) : Nat := n % 2 ^ w + n / 2 ^ w

variable {w} {a b n : Nat}

/-- All ones are one short of the next power of two. -/
theorem two_pow_eq : 2 ^ w = ones w + 1 := (Nat.sub_add_cancel Nat.one_le_two_pow).symm

/-- There is a one among them. -/
theorem ones_pos (hw : 0 < w) : 0 < ones w := by
  have h : 1 < 2 ^ w := Nat.one_lt_two_pow (by omega)
  unfold ones
  omega

@[simp] theorem wrap_zero : wrap w 0 = 0 := rfl

/-- What a positive sum leaves, counted from one. -/
theorem wrap_of_pos (h : 0 < n) : wrap w n = (n - 1) % ones w + 1 := if_neg (by omega)

/-- What a sum leaves fits. -/
theorem wrap_le (hw : 0 < w) : wrap w n ≤ ones w := by
  unfold wrap
  split
  · exact Nat.zero_le _
  · exact Nat.mod_lt _ (ones_pos hw)

/-- A number of `w` bits is what it leaves. -/
theorem wrap_of_le (h : n ≤ ones w) : wrap w n = n := by
  unfold wrap
  split
  · next hz => exact hz.symm
  · rw [Nat.mod_eq_of_lt (by omega)]
    omega

/-- What a sum leaves is the sum, modulo all ones. -/
theorem wrap_modEq : wrap w n ≡ n [MOD ones w] := by
  unfold wrap
  split
  · next hz => rw [hz]
  · next hz =>
    have hstep : (n - 1) % ones w + 1 ≡ n - 1 + 1 [MOD ones w] := (Nat.mod_modEq (n - 1) (ones w)).add_right 1
    rwa [Nat.sub_add_cancel (Nat.pos_of_ne_zero hz)] at hstep

/-- Two sums leave the same if they are the same modulo all ones, and neither or both are zero. -/
theorem wrap_congr (hmod : a ≡ b [MOD ones w]) (hzero : a = 0 ↔ b = 0) : wrap w a = wrap w b := by
  by_cases ha : a = 0
  · rw [ha, hzero.mp ha]
  · have hb : b ≠ 0 := fun h => ha (hzero.mpr h)
    have hpred : a - 1 ≡ b - 1 [MOD ones w] := by
      refine Nat.ModEq.add_right_cancel' 1 ?_
      rwa [Nat.sub_add_cancel (Nat.pos_of_ne_zero ha), Nat.sub_add_cancel (Nat.pos_of_ne_zero hb)]
    rw [wrap_of_pos (Nat.pos_of_ne_zero ha), wrap_of_pos (Nat.pos_of_ne_zero hb), hpred]

/-! ## Folding -/

/-- A folded carry changes nothing modulo all ones. -/
theorem fold_modEq : fold w n ≡ n [MOD ones w] := by
  have hround : 2 ^ w * (n / 2 ^ w) ≡ n / 2 ^ w [MOD ones w] := by
    have hone : 2 ^ w ≡ 1 [MOD ones w] := by
      rw [two_pow_eq]
      exact Nat.modEq_iff_dvd' (by omega) |>.mpr (by rw [Nat.add_sub_cancel]) |>.symm
    simpa using hone.mul_right (n / 2 ^ w)
  have hsum : n % 2 ^ w + 2 ^ w * (n / 2 ^ w) = n := Nat.mod_add_div n (2 ^ w)
  calc fold w n ≡ n % 2 ^ w + 2 ^ w * (n / 2 ^ w) [MOD ones w] := (hround.symm).add_left _
    _ = n := hsum

/-- Only zero is folded to zero. -/
theorem fold_eq_zero_iff : fold w n = 0 ↔ n = 0 := by
  have hsum : n % 2 ^ w + 2 ^ w * (n / 2 ^ w) = n := Nat.mod_add_div n (2 ^ w)
  unfold fold
  constructor
  · intro h
    obtain ⟨hr, hq⟩ := Nat.add_eq_zero_iff.mp h
    rw [← hsum, hr, hq, Nat.mul_zero]
  · rintro rfl
    simp

/-- A fold leaves the same number. -/
theorem wrap_fold : wrap w (fold w n) = wrap w n := wrap_congr fold_modEq fold_eq_zero_iff

/-! ## The check -/

/-- A sum is all ones exactly if it is a multiple of all ones, but not zero. -/
theorem wrap_eq_ones_iff (hw : 0 < w) : wrap w n = ones w ↔ n ≠ 0 ∧ n ≡ 0 [MOD ones w] := by
  have hpos := ones_pos hw
  constructor
  · intro h
    refine ⟨?_, ?_⟩
    · rintro rfl
      rw [wrap_zero] at h
      omega
    · have hmod : wrap w n ≡ n [MOD ones w] := wrap_modEq
      rw [h] at hmod
      exact hmod.symm.trans (by simp [Nat.ModEq])
  · rintro ⟨hne, hmod⟩
    have hones : wrap w n = wrap w (ones w) := wrap_congr (hmod.trans (by simp [Nat.ModEq])) (by omega)
    rw [hones, wrap_of_le le_rfl]

/-- The complement of a sum makes it all ones. -/
theorem wrap_add_complement (hw : 0 < w) (n : Nat) : wrap w (n + (ones w - wrap w n)) = ones w := by
  have hpos := ones_pos hw
  have hle : wrap w n ≤ ones w := wrap_le hw
  rw [wrap_eq_ones_iff hw]
  constructor
  · by_cases hn : n = 0
    · rw [hn, wrap_zero]
      omega
    · omega
  · have hmod : n ≡ wrap w n [MOD ones w] := wrap_modEq.symm
    calc n + (ones w - wrap w n) ≡ wrap w n + (ones w - wrap w n) [MOD ones w] := hmod.add_right _
      _ = ones w := by omega
      _ ≡ 0 [MOD ones w] := by simp [Nat.ModEq]

end OnesComplement
