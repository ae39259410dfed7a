import SyncEngine.Data.MillerRabin
import SyncEngine.Queue.VdfOrdering

namespace StellarConduit.Vdf

open BigUint
open Data.MillerRabin

/-! The primality test of the crate. There is no verdict where a step panics
or a loop does not end. -/

def millerRabinRounds : Nat := 40

def smallPrimeSieve : List Nat :=
  [2, 3, 5, 7, 11, 13, 17, 19, 23, 29, 31, 37, 41, 43, 47, 53, 59, 61, 67, 71,
    73, 79, 83, 89, 97]

/-- The verdict of the sieve, if it comes to one. -/
def sieve (n : Nat) : List Nat → Option Bool
  | [] => none
  | p :: rest =>
      if n = p then some true
      else if n % p = 0 then some false
      else sieve n rest

/-- Divides by two while it can. The count wraps around, as in a release
build. -/
def splitTwos (d : Nat) (r : UInt32) : Option (Nat × UInt32) :=
  if d = 0 then none
  else if d % 2 = 0 then splitTwos (d / 2) (r + 1)
  else some (d, r)
termination_by d

/-- The loop of squarings of a round. -/
def squareUntil (n : Nat) : Nat → Nat → Option Bool
  | 0, _ => some false
  | steps + 1, x => do
      let x ← modpow x 2 n
      if x = n - 1 then return true
      else squareUntil n steps x

section Witness

variable (sha256 : Bytes → Bytes32)

def witnessBytes (n : Nat) (round : UInt64) : Bytes :=
  "stellarconduit-vdf-miller-rabin-witness-v1".toUTF8.toList ++
    toBytesBe n ++ toBeBytes 8 round.toNat

/-- The difference of unsigned integers panics below zero. -/
def deterministicWitness (n : Nat) (round : UInt64) : Option Nat :=
  let raw := fromBytesBe (sha256 (witnessBytes n round)).toVec
  if n < 3 then none
  else do
    let reduced ← rem raw (n - 3)
    return reduced + 2

def millerRabinRound (n d : Nat) (r : UInt32) (round : UInt64) :
    Option Bool := do
  let a ← deterministicWitness sha256 n round
  let x ← modpow a d n
  if x = 1 ∨ x = n - 1 then return true
  else squareUntil n (r.toNat - 1) x

def allRounds (n d : Nat) (r : UInt32) : List UInt64 → Option Bool
  | [] => some true
  | round :: rest => do
      if ← millerRabinRound sha256 n d r round then allRounds n d r rest
      else return false

def isProbablyPrimeDeterministic (n : Nat) : Option Bool :=
  if n < 2 then some false
  else
    match sieve n smallPrimeSieve with
    | some verdict => some verdict
    | none => do
        let (d, r) ← splitTwos (n - 1) 0
        allRounds sha256 n d r
          ((List.range millerRabinRounds).map UInt64.ofNat)

end Witness

/-! The sieve. -/

theorem mod_ne_zero_of_prime {n p : Nat} (prime : n.Prime) (large : 1 < p)
    (other : n ≠ p) : ¬ n % p = 0 := by
  intro divides
  rcases (Nat.dvd_prime prime).mp (Nat.dvd_of_mod_eq_zero divides)
    with one | same
  · exact absurd one large.ne'
  · exact other same.symm

theorem sieve_prime {n : Nat} (prime : n.Prime) {primes : List Nat}
    (large : ∀ p ∈ primes, 1 < p) : sieve n primes ≠ some false := by
  induction primes with
  | nil => simp [sieve]
  | cons p rest induction =>
      have induction := induction fun q member =>
        large q (List.mem_cons_of_mem p member)
      rw [sieve]
      split
      · simp
      · rename_i other
        rw [if_neg (mod_ne_zero_of_prime prime (large p List.mem_cons_self)
          other)]
        exact induction

theorem sieve_divisor {n p : Nat} {primes : List Nat}
    (allPrime : ∀ q ∈ primes, q.Prime) (member : p ∈ primes)
    (divides : p ∣ n) (proper : p ≠ n) : sieve n primes = some false := by
  have prime := allPrime p member
  induction primes with
  | nil => cases member
  | cons q rest induction =>
      rw [sieve, if_neg, ite_eq_left_iff]
      · intro indivisible
        apply induction fun other inside =>
          allPrime other (List.mem_cons_of_mem q inside)
        rcases List.mem_cons.mp member with rfl | later
        · exact absurd (Nat.mod_eq_zero_of_dvd divides) indivisible
        · exact later
      · rintro rfl
        have whole := allPrime n List.mem_cons_self
        exact proper ((Nat.prime_dvd_prime_iff_eq prime whole).mp divides)

theorem smallPrimeSieve_prime : ∀ p ∈ smallPrimeSieve, p.Prime := by
  decide +kernel

/-! The factors two. -/

theorem splitTwos_pow_mul {d : Nat} (odd : ¬ d % 2 = 0) (twos : Nat)
    (r : UInt32) :
    splitTwos (2 ^ twos * d) r = some (d, r + UInt32.ofNat twos) := by
  have positive : d ≠ 0 := by
    rintro rfl
    exact odd rfl
  induction twos generalizing r with
  | zero =>
      rw [pow_zero, one_mul, splitTwos, if_neg positive, if_neg odd]
      simp
  | succ twos induction =>
      have halves : 2 ^ (twos + 1) * d = 2 * (2 ^ twos * d) := by
        rw [pow_succ']
        ring
      have left : 2 * (2 ^ twos * d) ≠ 0 := by positivity
      rw [halves, splitTwos, if_neg left, if_pos (Nat.mul_mod_right _ _),
        Nat.mul_div_cancel_left _ (by decide), induction, UInt32.ofNat_add,
        UInt32.add_assoc, UInt32.add_comm 1]
      rfl

/-! One round. -/

theorem squareUntil_eq {n : Nat} (positive : n ≠ 0) (steps x : Nat) :
    squareUntil n steps x =
      some (decide (∃ i < steps, x ^ 2 ^ (i + 1) % n = n - 1)) := by
  induction steps generalizing x with
  | zero => simp [squareUntil]
  | succ steps induction =>
      have shifted (i : Nat) :
          (x ^ 2 % n) ^ 2 ^ (i + 1) % n = x ^ 2 ^ (i + 1 + 1) % n := by
        rw [← Nat.pow_mod, ← pow_mul, ← pow_succ']
      simp only [squareUntil, modpow, if_neg positive, Option.bind_eq_bind,
        Option.bind_some, induction, shifted, Nat.exists_lt_succ_left]
      split
      · rename_i reached
        simp [reached]
      · rename_i continues
        simp [continues]

theorem passes_squareUntil (n d r a : Nat) :
    Passes n d r a ↔ (a ^ d % n = 1 ∨ a ^ d % n = n - 1) ∨
      ∃ i < r - 1, (a ^ d % n) ^ 2 ^ (i + 1) % n = n - 1 := by
  simp only [← Nat.lt_succ_iff, Passes, Nat.exists_lt_succ_left, pow_zero,
    pow_one, ← Nat.pow_mod, or_assoc]

section Round

variable (sha256 : Bytes → Bytes32) {n d a : Nat} {r : UInt32}
  {round : UInt64}

theorem millerRabinRound_eq (positive : n ≠ 0)
    (witness : deterministicWitness sha256 n round = some a) :
    millerRabinRound sha256 n d r round =
      some (decide (Passes n d r.toNat a)) := by
  simp only [millerRabinRound, witness, modpow, if_neg positive,
    Option.bind_eq_bind, Option.bind_some, squareUntil_eq positive,
    passes_squareUntil]
  split
  · rename_i early
    rw [decide_eq_true (Or.inl early)]
    rfl
  · rename_i early
    simp only [early, false_or]

theorem deterministicWitness_eq (large : 3 < n) (round : UInt64) :
    deterministicWitness sha256 n round =
      some (fromBytesBe (sha256 (witnessBytes n round)).toVec % (n - 3) +
        2) := by
  have span : n - 3 ≠ 0 := by omega
  rw [deterministicWitness, if_neg (by omega), rem, if_neg span]
  rfl

/-- The witnesses lie between two and `n - 2`. -/
theorem exists_deterministicWitness (large : 3 < n) (round : UInt64) :
    ∃ a, deterministicWitness sha256 n round = some a ∧ 2 ≤ a ∧
      a ≤ n - 2 := by
  refine ⟨_, deterministicWitness_eq sha256 large round,
    Nat.le_add_left 2 _, ?_⟩
  have span : 0 < n - 3 := by omega
  have below := Nat.mod_lt
    (fromBytesBe (sha256 (witnessBytes n round)).toVec) span
  omega

end Round

/-! The rounds one after the other. -/

section Rounds

variable {sha256 : Bytes → Bytes32} {n d : Nat} {r : UInt32}

theorem allRounds_true {rounds : List UInt64}
    (passed : ∀ round, millerRabinRound sha256 n d r round = some true) :
    allRounds sha256 n d r rounds = some true := by
  induction rounds with
  | nil => rfl
  | cons round rest induction =>
      rw [allRounds, passed]
      exact induction

theorem exists_allRounds (large : 3 < n) (rounds : List UInt64) :
    ∃ verdict, allRounds sha256 n d r rounds = some verdict := by
  induction rounds with
  | nil => exact ⟨true, rfl⟩
  | cons round rest induction =>
      obtain ⟨a, witness, -⟩ :=
        exists_deterministicWitness sha256 large round
      rw [allRounds, millerRabinRound_eq sha256 (by omega) witness]
      cases decide (Passes n d r.toNat a) with
      | true => exact induction
      | false => exact ⟨false, rfl⟩

end Rounds

/-! The test. -/

theorem not_dvd_of_sieve {n : Nat} {primes : List Nat}
    (passed : sieve n primes = none) : ∀ p ∈ primes, ¬ n % p = 0 := by
  induction primes with
  | nil => simp
  | cons q rest induction =>
      rw [sieve] at passed
      split at passed
      · cases passed
      · split at passed
        · cases passed
        · rename_i indivisible
          intro p member
          rcases List.mem_cons.mp member with rfl | later
          · exact indivisible
          · exact induction passed p later

theorem large_of_sieve {n : Nat} (two : 2 ≤ n)
    (passed : sieve n smallPrimeSieve = none) : 3 < n ∧ n % 2 = 1 := by
  have odd := not_dvd_of_sieve passed 2 (by decide)
  have three := not_dvd_of_sieve passed 3 (by decide)
  omega

theorem exists_splitTwos {m : Nat} (positive : m ≠ 0) :
    ∃ twos d, m = 2 ^ twos * d ∧ d % 2 = 1 ∧
      splitTwos m 0 = some (d, UInt32.ofNat twos) := by
  obtain ⟨twos, d, odd, rfl⟩ := Nat.exists_eq_two_pow_mul_odd positive
  have remainder := Nat.odd_iff.mp odd
  refine ⟨twos, d, rfl, remainder, ?_⟩
  rw [splitTwos_pow_mul (by omega), UInt32.zero_add]

variable (sha256 : Bytes → Bytes32)

/-- No step panics and every loop ends. -/
theorem exists_isProbablyPrimeDeterministic (n : Nat) :
    ∃ verdict, isProbablyPrimeDeterministic sha256 n = some verdict := by
  rw [isProbablyPrimeDeterministic]
  split
  · exact ⟨false, rfl⟩
  · rename_i two
    split
    · exact ⟨_, rfl⟩
    · rename_i passed
      obtain ⟨large, -⟩ := large_of_sieve (by omega) passed
      have positive : n - 1 ≠ 0 := by omega
      obtain ⟨twos, d, -, -, split⟩ := exists_splitTwos positive
      rw [split]
      exact exists_allRounds large _

theorem isProbablyPrimeDeterministic_small {n : Nat} (small : n < 2) :
    isProbablyPrimeDeterministic sha256 n = some false :=
  if_pos small

theorem isProbablyPrimeDeterministic_divisor {n p : Nat}
    (member : p ∈ smallPrimeSieve) (divides : p ∣ n) (proper : p ≠ n) :
    isProbablyPrimeDeterministic sha256 n = some false := by
  rw [isProbablyPrimeDeterministic]
  split
  · rfl
  · rw [sieve_divisor smallPrimeSieve_prime member divides proper]

/-- What the test makes of a prime. -/
structure AcceptsPrime (n : Nat) : Prop where
  accepted : isProbablyPrimeDeterministic sha256 n = some true
  sieved : sieve n smallPrimeSieve ≠ some false
  split : sieve n smallPrimeSieve = none →
    ∃ d r, splitTwos (n - 1) 0 = some (d, r) ∧
      n - 1 = 2 ^ r.toNat * d ∧ d % 2 = 1 ∧ 1 ≤ r.toNat ∧
      ∀ round, 3 < n ∧
        ∃ a, deterministicWitness sha256 n round = some a ∧ 2 ≤ a ∧
          a ≤ n - 2 ∧ Passes n d r.toNat a ∧
          millerRabinRound sha256 n d r round = some true

/-- A prime whose predecessor has no more factors two than are counted. -/
theorem acceptsPrime {n : Nat} (prime : n.Prime)
    (counted : ¬ 2 ^ UInt32.size ∣ n - 1) : AcceptsPrime sha256 n := by
  have two := prime.two_le
  have unrejected : sieve n smallPrimeSieve ≠ some false :=
    sieve_prime prime fun p member =>
      (smallPrimeSieve_prime p member).one_lt
  have rounds (passed : sieve n smallPrimeSieve = none) :
      ∃ d r, splitTwos (n - 1) 0 = some (d, r) ∧
        n - 1 = 2 ^ r.toNat * d ∧ d % 2 = 1 ∧ 1 ≤ r.toNat ∧
        ∀ round, 3 < n ∧
          ∃ a, deterministicWitness sha256 n round = some a ∧ 2 ≤ a ∧
            a ≤ n - 2 ∧ Passes n d r.toNat a ∧
            millerRabinRound sha256 n d r round = some true := by
    obtain ⟨large, odd⟩ := large_of_sieve two passed
    have positive : n - 1 ≠ 0 := by omega
    obtain ⟨twos, d, factors, oddPart, split⟩ := exists_splitTwos positive
    have few : twos < UInt32.size := by
      by_contra many
      apply counted
      rw [factors]
      exact (pow_dvd_pow 2 (Nat.le_of_not_lt many)).mul_right d
    have count : (UInt32.ofNat twos).toNat = twos :=
      UInt32.toNat_ofNat_of_lt' few
    have even : 1 ≤ twos := by
      rw [Nat.one_le_iff_ne_zero]
      rintro rfl
      rw [pow_zero, one_mul] at factors
      omega
    refine ⟨d, UInt32.ofNat twos, split, ?_⟩
    rw [count]
    refine ⟨factors, oddPart, even, ?_⟩
    intro round
    obtain ⟨a, witness, low, high⟩ :=
      exists_deterministicWitness sha256 large round
    have passes : Passes n d twos a := by
      apply passes_of_prime prime factors
      intro divides
      have bound := Nat.le_of_dvd (by omega) divides
      omega
    refine ⟨large, a, witness, low, high, passes, ?_⟩
    rw [millerRabinRound_eq sha256 (by omega) witness, count,
      decide_eq_true passes]
  refine ⟨?_, unrejected, rounds⟩
  rw [isProbablyPrimeDeterministic, if_neg (by omega)]
  split
  · rename_i verdict decided
    cases verdict with
    | true => rfl
    | false => exact absurd decided unrejected
  · rename_i passed
    obtain ⟨d, r, split, -, -, -, each⟩ := rounds passed
    rw [split]
    apply allRounds_true
    intro round
    obtain ⟨-, a, -, -, -, -, passes⟩ := each round
    exact passes

/-! The challenge is looked for with this test. -/

theorem fromBytesBe_lt (bytes : Bytes) :
    fromBytesBe bytes < 256 ^ bytes.length := by
  induction bytes using List.reverseRecOn with
  | nil => decide
  | append_singleton bytes byte induction =>
      have digit := byte.toNat_lt
      have shifted : fromBytesBe (bytes ++ [byte]) =
          fromBytesBe bytes * 256 + byte.toNat := by
        rw [fromBytesBe, List.foldl_append]
        rfl
      rw [shifted, List.length_append, List.length_singleton, pow_succ]
      omega

theorem hashToPrimeCandidate_lt (parts : List Bytes) (counter : UInt64) :
    hashToPrimeCandidate sha256 parts counter < 2 ^ 128 := by
  have digest : fromBytesBe ((sha256 (hashToPrimeBytes parts
      counter)).toVec.take 16) < 2 ^ 128 := by
    apply (fromBytesBe_lt _).trans_le
    have short := List.length_take_le 16
      (sha256 (hashToPrimeBytes parts counter)).toVec
    exact Nat.pow_le_pow_right (by decide) short
  exact Nat.or_lt_two_pow (Nat.or_lt_two_pow digest (by decide)) (by decide)

/-- The candidates up to the first one that passes the test. -/
theorem hashToPrimeFrom_eq (isProbablyPrime : Nat → Bool)
    (parts : List Bytes) (fuel : Nat) (counter : UInt64) :
    ∃ skipped ≤ fuel,
      (∀ i < skipped, isProbablyPrime (hashToPrimeCandidate sha256 parts
        (counter + UInt64.ofNat i)) = false) ∧
      hashToPrimeFrom sha256 isProbablyPrime parts fuel counter =
        if skipped < fuel then some (hashToPrimeCandidate sha256 parts
          (counter + UInt64.ofNat skipped)) else none := by
  induction fuel generalizing counter with
  | zero => exact ⟨0, le_rfl, by simp, rfl⟩
  | succ fuel induction =>
      rw [hashToPrimeFrom]
      split
      · refine ⟨0, Nat.zero_le _, by simp, ?_⟩
        rw [if_pos (Nat.succ_pos fuel)]
        simp
      · rename_i fails
        obtain ⟨skipped, within, failed, found⟩ := induction (counter + 1)
        have later (i : Nat) : counter + 1 + UInt64.ofNat i =
            counter + UInt64.ofNat (i + 1) := by
          rw [UInt64.ofNat_add, UInt64.add_assoc, UInt64.add_comm 1]
          rfl
        refine ⟨skipped + 1, by omega, ?_, ?_⟩
        · intro i early
          cases i with
          | zero => simpa using fails
          | succ i =>
              rw [← later]
              exact failed i (by omega)
        · rw [found, later]
          simp only [Nat.add_lt_add_iff_right]

/-- The primality test is right about primes, about what is below two and
about multiples of small primes. -/
structure PrimalityTest : Prop where
  total : ∀ n, ∃ verdict,
    isProbablyPrimeDeterministic sha256 n = some verdict
  primes : ∀ n, n.Prime → ¬ 2 ^ UInt32.size ∣ n - 1 →
    AcceptsPrime sha256 n
  small : ∀ n < 2, isProbablyPrimeDeterministic sha256 n = some false
  sieved : ∀ n, ∀ p ∈ smallPrimeSieve, p ∣ n → p ≠ n →
    isProbablyPrimeDeterministic sha256 n = some false
  challenge : ∀ parts fuel, ∃ skipped ≤ fuel,
    (∀ i < skipped, ¬ (hashToPrimeCandidate sha256 parts
      (UInt64.ofNat i)).Prime) ∧
    hashToPrime sha256 (fun n =>
        isProbablyPrimeDeterministic sha256 n == some true) fuel parts =
      if skipped < fuel then some (hashToPrimeCandidate sha256 parts
        (UInt64.ofNat skipped)) else none

/-- No prime is rejected, whatever the witnesses are. -/
theorem isProbablyPrimeDeterministic_spec (sha256 : Bytes → Bytes32) :
    PrimalityTest sha256 where
  total := exists_isProbablyPrimeDeterministic sha256
  primes n := acceptsPrime sha256
  small n := isProbablyPrimeDeterministic_small sha256
  sieved n p := isProbablyPrimeDeterministic_divisor sha256
  challenge := by
    intro parts fuel
    obtain ⟨skipped, within, failed, found⟩ := hashToPrimeFrom_eq sha256
      (fun n => isProbablyPrimeDeterministic sha256 n == some true) parts
      fuel 0
    simp only [UInt64.zero_add] at failed found
    refine ⟨skipped, within, ?_, found⟩
    intro i early prime
    have accepted := (acceptsPrime sha256 prime
      (not_pow_dvd_pred prime.two_le
        (hashToPrimeCandidate_lt sha256 parts _) (by decide))).accepted
    have rejected := failed i early
    rw [accepted] at rejected
    cases rejected

theorem sieve_large {n : Nat} (prime : n.Prime) {primes : List Nat}
    (below : ∀ p ∈ primes, 1 < p ∧ p < n) : sieve n primes = none := by
  induction primes with
  | nil => rfl
  | cons p rest induction =>
      obtain ⟨positive, small⟩ := below p List.mem_cons_self
      have other : n ≠ p := by omega
      rw [sieve, if_neg other,
        if_neg (mod_ne_zero_of_prime prime positive other)]
      exact induction fun q member =>
        below q (List.mem_cons_of_mem p member)

def unitDigest (_ : Bytes) : Bytes32 :=
  Vector.ofFn fun position => if position.val = 31 then 1 else 0

theorem fromBytesBe_unitDigest (bytes : Bytes) :
    fromBytesBe (unitDigest bytes).toVec = 1 := by
  rw [unitDigest]
  decide

/-- A prime whose predecessor has more factors two than a `u32` counts, and
the witness `3`. -/
theorem prime_rejected : ∃ n sha256, n.Prime ∧
    isProbablyPrimeDeterministic sha256 n = some false := by
  have positive : 0 < 2 ^ 31 := by decide
  obtain ⟨n, twos, d, large, prime, factors, odd, many, nonresidue⟩ :=
    exists_prime_many_twos positive 100
  obtain ⟨r, rfl⟩ : ∃ r, twos = r + 1 := ⟨twos - 1, by omega⟩
  have split : splitTwos (n - 1) 0 = some (d, UInt32.ofNat (r + 1)) := by
    rw [factors, splitTwos_pow_mul (by omega), UInt32.zero_add]
  have wrapped := (UInt32.ofNat (r + 1)).toNat_lt
  have fails : ¬ Passes n d (UInt32.ofNat (r + 1)).toNat 3 := by
    apply not_passes_of_few (by omega) factors
    · exact_mod_cast nonresidue
    · omega
  have witness : deterministicWitness unitDigest n 0 = some 3 := by
    rw [deterministicWitness_eq unitDigest (by omega),
      fromBytesBe_unitDigest, Nat.mod_eq_of_lt (by omega)]
  have unresolved : sieve n smallPrimeSieve = none := by
    have bounds : ∀ p ∈ smallPrimeSieve, 1 < p ∧ p < 100 := by decide
    apply sieve_large prime
    intro p member
    obtain ⟨positive, small⟩ := bounds p member
    exact ⟨positive, by omega⟩
  refine ⟨n, unitDigest, prime, ?_⟩
  have rounds : (List.range millerRabinRounds).map UInt64.ofNat =
      0 :: ((List.range 39).map Nat.succ).map UInt64.ofNat := by
    rw [millerRabinRounds, List.range_succ_eq_map]
    rfl
  rw [isProbablyPrimeDeterministic, if_neg (by omega), unresolved]
  simp only [split, rounds, Option.bind_eq_bind, Option.bind_some]
  rw [allRounds, millerRabinRound_eq unitDigest (by omega) witness,
    decide_eq_false fails]
  rfl

end StellarConduit.Vdf
