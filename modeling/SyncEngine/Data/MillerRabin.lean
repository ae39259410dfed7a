import Mathlib.NumberTheory.LSeries.PrimesInAP
import Mathlib.NumberTheory.LegendreSymbol.QuadraticReciprocity

namespace StellarConduit.Data.MillerRabin

/-! Repeated squaring towards one. Where `1` has no square roots but `1` and
`-1`, it comes through `-1` unless it starts at `1`. -/

section Ring

variable {R : Type} [Ring R] {x : R}

theorem pow_two_pow_add (x : R) (i j : Nat) :
    x ^ 2 ^ (i + j) = (x ^ 2 ^ i) ^ 2 ^ j := by
  rw [pow_add, pow_mul]

theorem pow_two_pow_of_neg_one {i j : Nat} (reached : x ^ 2 ^ i = -1)
    (later : i < j) : x ^ 2 ^ j = 1 := by
  obtain ⟨steps, rfl⟩ := Nat.exists_eq_add_of_lt later
  have squared : (-1 : R) ^ 2 = 1 := neg_one_sq
  rw [add_assoc, pow_two_pow_add, reached, pow_succ', pow_mul, squared,
    one_pow]

theorem eq_one_or_reaches [NoZeroDivisors R] {r : Nat}
    (one : x ^ 2 ^ r = 1) : x = 1 ∨ ∃ i < r, x ^ 2 ^ i = -1 := by
  induction r with
  | zero =>
      left
      rwa [pow_zero, pow_one] at one
  | succ r induction =>
      have squared : x ^ 2 ^ r * x ^ 2 ^ r = 1 := by
        rw [← pow_two, ← pow_mul, ← pow_succ]
        exact one
      rcases mul_self_eq_one_iff.mp squared with before | minus
      · rcases induction before with start | ⟨i, early, reached⟩
        · exact Or.inl start
        · exact Or.inr ⟨i, Nat.lt_succ_of_lt early, reached⟩
      · exact Or.inr ⟨r, Nat.lt_succ_self r, minus⟩

end Ring

/-! The remainders of a prime. -/

variable {n d r a : Nat}

theorem pow_mod_eq_one_iff (large : 1 < n) (k : Nat) :
    a ^ k % n = 1 ↔ (a : ZMod n) ^ k = 1 := by
  have cast := ZMod.natCast_eq_natCast_iff' (a ^ k) 1 n
  rw [Nat.mod_eq_of_lt large, Nat.cast_pow, Nat.cast_one] at cast
  exact cast.symm

theorem pow_mod_eq_pred_iff (large : 1 < n) (k : Nat) :
    a ^ k % n = n - 1 ↔ (a : ZMod n) ^ k = -1 := by
  have cast := ZMod.natCast_eq_natCast_iff' (a ^ k) (n - 1) n
  have pred : ((n - 1 : Nat) : ZMod n) = -1 := by
    rw [Nat.cast_sub large.le, ZMod.natCast_self, Nat.cast_one, zero_sub]
  rw [Nat.mod_eq_of_lt (Nat.sub_lt (Nat.zero_lt_of_lt large) Nat.one_pos),
    Nat.cast_pow, pred] at cast
  exact cast.symm

/-- The power `a ^ d` is one, or it is `n - 1` after less than `r` squarings.
It is looked at once even if `r` is zero. -/
def Passes (n d r a : Nat) : Prop :=
  a ^ d % n = 1 ∨ ∃ i ≤ r - 1, (a ^ d) ^ 2 ^ i % n = n - 1

instance (n d r a : Nat) : Decidable (Passes n d r a) :=
  inferInstanceAs (Decidable (_ ∨ ∃ i ≤ r - 1, _))

theorem passes_iff (large : 1 < n) :
    Passes n d r a ↔ (a : ZMod n) ^ d = 1 ∨
      ∃ i ≤ r - 1, ((a : ZMod n) ^ d) ^ 2 ^ i = -1 := by
  rw [Passes, pow_mod_eq_one_iff large]
  refine or_congr_right (exists_congr fun i => and_congr_right fun _ => ?_)
  rw [← pow_mul, ← pow_mul]
  exact pow_mod_eq_pred_iff large _

theorem passes_of_prime (prime : n.Prime) (split : n - 1 = 2 ^ r * d)
    (nonzero : ¬ n ∣ a) : Passes n d r a := by
  have : Fact n.Prime := ⟨prime⟩
  rw [passes_iff prime.one_lt]
  have unit : (a : ZMod n) ≠ 0 := by
    rwa [Ne, ZMod.natCast_eq_zero_iff]
  have fermat : ((a : ZMod n) ^ d) ^ 2 ^ r = 1 := by
    rw [← pow_mul, mul_comm, ← split]
    exact ZMod.pow_card_sub_one_eq_one unit
  rcases eq_one_or_reaches fermat with one | ⟨i, early, reached⟩
  · exact Or.inl one
  · exact Or.inr ⟨i, by omega, reached⟩

/-- A number that is no square keeps off `1` and `-1` until the last of the
squarings. -/
theorem not_passes_of_few (odd : 2 < n) (split : n - 1 = 2 ^ (r + 1) * d)
    (nonresidue : (a : ZMod n) ^ (n / 2) = -1) {few : Nat}
    (early : few - 1 < r) : ¬ Passes n d few a := by
  have half : n / 2 = d * 2 ^ r := by
    have doubled : 2 ^ (r + 1) * d = 2 * (d * 2 ^ r) := by
      rw [pow_succ]
      ring
    omega
  have : Fact (2 < n) := ⟨odd⟩
  have apart : (-1 : ZMod n) ≠ 1 := ZMod.neg_one_ne_one
  rw [half, pow_mul] at nonresidue
  rw [passes_iff (by omega)]
  rintro (one | ⟨i, within, reached⟩)
  · rw [one, one_pow] at nonresidue
    exact apart nonresidue.symm
  · rw [pow_two_pow_of_neg_one reached (by omega)] at nonresidue
    exact apart nonresidue.symm

/-- There are primes with `3` as a nonresidue and as many factors two before
them as asked for. -/
theorem exists_prime_nonresidue {twos : Nat} (positive : 0 < twos)
    (bound : Nat) :
    ∃ n > bound, n.Prime ∧ 4 ^ twos ∣ n - 1 ∧
      (3 : ZMod n) ^ (n / 2) = -1 := by
  have coprime : (4 ^ twos + 1).Coprime (3 * 4 ^ twos) := by
    apply Nat.Coprime.mul_right
    · have remainder : (4 ^ twos + 1) % 3 = 2 := by
        rw [Nat.add_mod, Nat.pow_mod]
        norm_num
      rw [Nat.coprime_comm, Nat.Prime.coprime_iff_not_dvd Nat.prime_three]
      omega
    · exact (Nat.coprime_self_add_left ..).mpr (Nat.coprime_one_left _)
  obtain ⟨n, large, prime, residue⟩ :=
    Nat.forall_exists_prime_gt_and_modEq (max bound 3)
      (by positivity) coprime
  have : Fact n.Prime := ⟨prime⟩
  have three : n % 3 = 2 := by
    have reduced : n % 3 = (4 ^ twos + 1) % 3 :=
      residue.of_mul_right (4 ^ twos)
    rw [reduced, Nat.add_mod, Nat.pow_mod]
    norm_num
  have power : 4 ^ twos ∣ n - 1 := by
    have reduced : n ≡ 1 [MOD 4 ^ twos] :=
      (residue.of_mul_left 3).trans (by simp [Nat.ModEq])
    exact (Nat.modEq_iff_dvd' prime.one_le).mp reduced.symm
  have four : n % 4 = 1 := by
    have divides : 4 ∣ n - 1 := (dvd_pow_self 4 positive.ne').trans power
    omega
  refine ⟨n, by omega, prime, power, ?_⟩
  have symbol : legendreSym n 3 = -1 := by
    have swapped : legendreSym 3 n = legendreSym n 3 :=
      legendreSym.quadratic_reciprocity_one_mod_four four (by decide)
    have reduced : ((n : ℤ) % (3 : ℕ)) = 2 := by omega
    rw [← swapped, legendreSym.mod, reduced]
    decide
  have euler := legendreSym.eq_pow n 3
  rw [symbol] at euler
  push_cast at euler
  exact euler.symm

theorem exists_prime_many_twos {twos : Nat} (positive : 0 < twos)
    (bound : Nat) :
    ∃ n r d, bound < n ∧ n.Prime ∧ n - 1 = 2 ^ r * d ∧ d % 2 = 1 ∧
      2 * twos ≤ r ∧ (3 : ZMod n) ^ (n / 2) = -1 := by
  obtain ⟨n, large, prime, power, nonresidue⟩ :=
    exists_prime_nonresidue positive bound
  have before : n - 1 ≠ 0 := by
    have two := prime.two_le
    omega
  obtain ⟨r, d, odd, factors⟩ := Nat.exists_eq_two_pow_mul_odd before
  refine ⟨n, r, d, large, prime, factors, Nat.odd_iff.mp odd, ?_,
    nonresidue⟩
  have square : 4 ^ twos = 2 ^ (2 * twos) :=
    (pow_mul 2 2 twos).symm
  rw [square, factors] at power
  have coprime : (2 ^ (2 * twos)).Coprime d :=
    Nat.Coprime.pow_left _ (Nat.coprime_two_left.mpr odd)
  exact (Nat.pow_dvd_pow_iff_le_right (by decide)).mp
    (coprime.dvd_of_dvd_mul_right power)

theorem not_pow_dvd_pred {bits cap : Nat} (two : 2 ≤ n)
    (short : n < 2 ^ bits) (within : bits ≤ cap) : ¬ 2 ^ cap ∣ n - 1 := by
  intro divides
  have large := Nat.le_of_dvd (by omega) divides
  have wide : 2 ^ bits ≤ 2 ^ cap := Nat.pow_le_pow_right (by decide) within
  omega

end StellarConduit.Data.MillerRabin
