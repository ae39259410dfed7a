import Mathlib.Algebra.Order.Ring.Nat
import Mathlib.Data.Nat.Digits.Defs
import Mathlib.Data.Nat.Size
import SyncEngine.Errors

namespace StellarConduit

/-! Numbers of any size and their bytes, most significant first. An operation
that panics on a zero modulus or divisor has no result. -/

/-- `to_be_bytes` of an integer of so many bytes. -/
def toBeBytes (width value : Nat) : Bytes :=
  (List.range width).reverse.map fun position =>
    (value >>> (8 * position)).toUInt8

namespace BigUint

def toBytesBe (value : Nat) : Bytes :=
  if value = 0 then [0]
  else (Nat.digits 256 value).reverse.map Nat.toUInt8

def fromBytesBe (bytes : Bytes) : Nat :=
  bytes.foldl (fun value byte => value * 256 + byte.toNat) 0

def bits (value : Nat) : Nat := value.size

def rem (value modulus : Nat) : Option Nat :=
  if modulus = 0 then none else some (value % modulus)

def div (value divisor : Nat) : Option Nat :=
  if divisor = 0 then none else some (value / divisor)

def modpow (base exponent modulus : Nat) : Option Nat :=
  if modulus = 0 then none else some (base ^ exponent % modulus)

end BigUint

structure VdfParams where
  modulus : Nat
  delay : UInt64

structure VdfProof where
  output : Nat
  pi : Nat
  deriving DecidableEq

namespace Vdf

open BigUint

section Input

variable (sha256 : Bytes → Bytes32)

def inputBytes (epochSeed envelopeId : Bytes) (counter : UInt32) : Bytes :=
  "stellarconduit-vdf-input-v1".toUTF8.toList ++ epochSeed ++ envelopeId ++
    toBeBytes 4 counter.toNat

/-- The counter wraps around, as in a release build. -/
def extendInput (epochSeed envelopeId : Bytes) (bytesNeeded : Nat)
    (buf : Bytes) (counter : UInt32) : Bytes :=
  if buf.length < bytesNeeded then
    extendInput epochSeed envelopeId bytesNeeded
      (buf ++ (sha256 (inputBytes epochSeed envelopeId counter)).toVec)
      (counter + 1)
  else
    buf
termination_by bytesNeeded - buf.length
decreasing_by
  rw [List.length_append, Bytes32.toVec, Vector.length_toList]
  omega

def deriveInput (modulus : Nat) (epochSeed envelopeId : Bytes) : Option Nat :=
  let bytesNeeded := (bits modulus + 7) / 8 + 16
  rem (fromBytesBe (extendInput sha256 epochSeed envelopeId bytesNeeded [] 0))
    modulus

end Input

section Proof

variable (sha256 : Bytes → Bytes32) (challenge : List Bytes → Option Nat)

/-- The loop of squarings. -/
def squareRepeatedly (modulus : Nat) : Nat → Nat → Option Nat
  | 0, y => some y
  | rounds + 1, y => do
      let y ← rem (y * y) modulus
      squareRepeatedly modulus rounds y

/-- There is no result if a step panics or the search for the `challenge` does
not end. -/
def evaluate (params : VdfParams) (epochSeed envelopeId : Bytes) :
    Option VdfProof := do
  let x ← deriveInput sha256 params.modulus epochSeed envelopeId
  let y ← squareRepeatedly params.modulus params.delay.toNat x
  let ell ← challenge [toBytesBe x, toBytesBe y,
    toBeBytes 8 params.delay.toNat]
  let twoPowT := 1 <<< params.delay.toNat
  let q ← div twoPowT ell
  let pi ← modpow x q params.modulus
  return { output := y, pi }

def verify (params : VdfParams) (epochSeed envelopeId : Bytes)
    (proof : VdfProof) : Option Bool := do
  let x ← deriveInput sha256 params.modulus epochSeed envelopeId
  let ell ← challenge [toBytesBe x, toBytesBe proof.output,
    toBeBytes 8 params.delay.toNat]
  let r ← modpow 2 params.delay.toNat ell
  let powPi ← modpow proof.pi ell params.modulus
  let powX ← modpow x r params.modulus
  let lhs ← rem (powPi * powX) params.modulus
  return lhs == proof.output

end Proof

/-! The challenge of the crate: count up until a candidate passes the test. -/

section Challenge

variable (sha256 : Bytes → Bytes32)

def challengePrimeBits : Nat := 128

def hashToPrimeBytes (parts : List Bytes) (counter : UInt64) : Bytes :=
  "stellarconduit-vdf-hash-to-prime-v1".toUTF8.toList ++ parts.flatten ++
    toBeBytes 8 counter.toNat

/-- The top bit and the lowest one are forced. -/
def hashToPrimeCandidate (parts : List Bytes) (counter : UInt64) : Nat :=
  let digest := (sha256 (hashToPrimeBytes parts counter)).toVec
  let bytesNeeded := (challengePrimeBits + 7) / 8
  fromBytesBe (digest.take bytesNeeded) ||| 1 <<< (challengePrimeBits - 1)
    ||| 1

/-- The search ends with no result when it is out of `fuel`. -/
def hashToPrimeFrom (isProbablyPrime : Nat → Bool) (parts : List Bytes) :
    Nat → UInt64 → Option Nat
  | 0, _ => none
  | fuel + 1, counter =>
      let candidate := hashToPrimeCandidate sha256 parts counter
      if isProbablyPrime candidate then some candidate
      else hashToPrimeFrom isProbablyPrime parts fuel (counter + 1)

def hashToPrime (isProbablyPrime : Nat → Bool) (fuel : Nat)
    (parts : List Bytes) : Option Nat :=
  hashToPrimeFrom sha256 isProbablyPrime parts fuel 0

theorem one_lt_hashToPrime {isProbablyPrime : Nat → Bool} {fuel : Nat}
    {parts : List Bytes} {ell : Nat}
    (found : hashToPrime sha256 isProbablyPrime fuel parts = some ell) :
    1 < ell := by
  have candidate (counter : UInt64) :
      1 < hashToPrimeCandidate sha256 parts counter := by
    have top : 1 <<< (challengePrimeBits - 1) ≤
        hashToPrimeCandidate sha256 parts counter :=
      Nat.le_trans Nat.right_le_or Nat.left_le_or
    exact Nat.lt_of_lt_of_le (by decide) top
  unfold hashToPrime at found
  generalize (0 : UInt64) = counter at found
  induction fuel generalizing counter with
  | zero => cases found
  | succ fuel induction =>
      simp only [hashToPrimeFrom] at found
      split at found
      · obtain rfl := Option.some.inj found
        exact candidate counter
      · exact induction _ found

end Challenge

/-! Honest proofs. -/

section Honest

variable {modulus : Nat}

theorem squareRepeatedly_eq (rounds : Nat) {x : Nat} (reduced : x < modulus) :
    squareRepeatedly modulus rounds x = some (x ^ 2 ^ rounds % modulus) := by
  induction rounds generalizing x with
  | zero =>
      rw [squareRepeatedly, pow_zero, pow_one, Nat.mod_eq_of_lt reduced]
  | succ rounds induction =>
      have positive : 0 < modulus := Nat.zero_lt_of_lt reduced
      have squared : rem (x * x) modulus = some (x * x % modulus) :=
        if_neg (Nat.ne_of_gt positive)
      have doubled : (x * x) ^ 2 ^ rounds = x ^ 2 ^ (rounds + 1) := by
        rw [← pow_two, ← pow_mul, ← pow_succ']
      rw [squareRepeatedly, squared]
      calc squareRepeatedly modulus rounds (x * x % modulus)
          = some ((x * x % modulus) ^ 2 ^ rounds % modulus) :=
            induction (Nat.mod_lt _ positive)
        _ = some ((x * x) ^ 2 ^ rounds % modulus) := by rw [← Nat.pow_mod]
        _ = some (x ^ 2 ^ (rounds + 1) % modulus) := by rw [doubled]

/-- What is left of an exponent after a division makes up for it. -/
theorem pow_div_mul_pow_mod (modulus x exponent ell : Nat) :
    ((x ^ (exponent / ell) % modulus) ^ ell % modulus *
        (x ^ (exponent % ell) % modulus)) % modulus =
      x ^ exponent % modulus := by
  calc ((x ^ (exponent / ell) % modulus) ^ ell % modulus *
          (x ^ (exponent % ell) % modulus)) % modulus
      = ((x ^ (exponent / ell)) ^ ell % modulus *
          (x ^ (exponent % ell) % modulus)) % modulus := by
        rw [← Nat.pow_mod]
    _ = ((x ^ (exponent / ell)) ^ ell * x ^ (exponent % ell)) % modulus := by
        rw [← Nat.mul_mod]
    _ = x ^ (exponent / ell * ell + exponent % ell) % modulus := by
        rw [← pow_mul, ← pow_add]
    _ = x ^ exponent % modulus := by rw [Nat.div_add_mod']

variable {sha256 : Bytes → Bytes32} {challenge : List Bytes → Option Nat}
  {params : VdfParams} {epochSeed envelopeId : Bytes} {x : Nat}

theorem exists_deriveInput (sha256 : Bytes → Bytes32)
    (positive : 0 < modulus) (epochSeed envelopeId : Bytes) :
    ∃ x, deriveInput sha256 modulus epochSeed envelopeId = some x ∧
      x < modulus :=
  ⟨_, if_neg (Nat.ne_of_gt positive), Nat.mod_lt _ positive⟩

theorem evaluate_eq (reduced : x < params.modulus)
    (derived : deriveInput sha256 params.modulus epochSeed envelopeId =
      some x) :
    evaluate sha256 challenge params epochSeed envelopeId = do
      let ell ← challenge [toBytesBe x,
        toBytesBe (x ^ 2 ^ params.delay.toNat % params.modulus),
        toBeBytes 8 params.delay.toNat]
      let q ← div (2 ^ params.delay.toNat) ell
      return {
        output := x ^ 2 ^ params.delay.toNat % params.modulus
        pi := x ^ q % params.modulus } := by
  have positive : params.modulus ≠ 0 :=
    Nat.ne_of_gt (Nat.zero_lt_of_lt reduced)
  simp [evaluate, derived, squareRepeatedly_eq _ reduced, modpow, positive,
    Nat.one_shiftLeft]

theorem verify_eq {proof : VdfProof} {ell : Nat}
    (positive : params.modulus ≠ 0) (divisible : ell ≠ 0)
    (derived : deriveInput sha256 params.modulus epochSeed envelopeId = some x)
    (challenged : challenge [toBytesBe x, toBytesBe proof.output,
      toBeBytes 8 params.delay.toNat] = some ell) :
    verify sha256 challenge params epochSeed envelopeId proof =
      some ((proof.pi ^ ell % params.modulus *
        (x ^ (2 ^ params.delay.toNat % ell) % params.modulus)) %
          params.modulus == proof.output) := by
  simp [verify, derived, challenged, modpow, rem, positive, divisible]

/-- An honest evaluation ends with a proof, and the proof verifies. -/
theorem honest_proof_verifies (sha256 : Bytes → Bytes32)
    {challenge : List Bytes → Option Nat}
    (challenges : ∀ parts, ∃ ell, challenge parts = some ell ∧ 1 < ell)
    (params : VdfParams) (positive : 1 ≤ params.modulus)
    (epochSeed envelopeId : Bytes) :
    ∃ x ell proof,
      deriveInput sha256 params.modulus epochSeed envelopeId = some x ∧
      challenge [toBytesBe x, toBytesBe proof.output,
        toBeBytes 8 params.delay.toNat] = some ell ∧
      evaluate sha256 challenge params epochSeed envelopeId = some proof ∧
      proof.output = x ^ 2 ^ params.delay.toNat % params.modulus ∧
      proof.pi ^ ell * x ^ (2 ^ params.delay.toNat % ell) % params.modulus =
        proof.output ∧
      verify sha256 challenge params epochSeed envelopeId proof =
        some true := by
  obtain ⟨x, derived, reduced⟩ :=
    exists_deriveInput sha256 positive epochSeed envelopeId
  obtain ⟨ell, challenged, large⟩ := challenges [toBytesBe x,
    toBytesBe (x ^ 2 ^ params.delay.toNat % params.modulus),
    toBeBytes 8 params.delay.toNat]
  have divisible : ell ≠ 0 := by omega
  have agrees := pow_div_mul_pow_mod params.modulus x
    (2 ^ params.delay.toNat) ell
  refine ⟨x, ell, ⟨x ^ 2 ^ params.delay.toNat % params.modulus,
    x ^ (2 ^ params.delay.toNat / ell) % params.modulus⟩, derived, challenged,
    ?_, rfl, ?_, ?_⟩
  · rw [evaluate_eq reduced derived, challenged]
    simp [div, divisible]
  · rw [Nat.mul_mod]
    exact agrees
  · rw [verify_eq (Nat.ne_of_gt positive) divisible derived challenged]
    exact congrArg some (beq_iff_eq.mpr agrees)

/-- A digest that starts with the greatest prime below `2 ^ 128`. -/
def sampleDigest (_ : Bytes) : Bytes32 :=
  (Vector.replicate 32 (0xff : UInt8)).set 15 0x61

theorem honest_proof_verifies_at_35 :
    let challenge := hashToPrime sampleDigest
      (fun candidate => candidate == 2 ^ 128 - 159) 1
    let params : VdfParams := ⟨35, 300⟩
    let epochSeed := "epoch-seed-round-1".toUTF8.toList
    let envelopeId := "envelope-abc".toUTF8.toList
    ∃ proof,
      evaluate sampleDigest challenge params epochSeed envelopeId =
        some proof ∧
      verify sampleDigest challenge params epochSeed envelopeId proof =
        some true := by
  intro challenge params epochSeed envelopeId
  have challenges (parts : List Bytes) :
      ∃ ell, challenge parts = some ell ∧ 1 < ell := by
    have candidate : hashToPrimeCandidate sampleDigest parts 0 =
        2 ^ 128 - 159 := by
      have digest : sampleDigest (hashToPrimeBytes parts 0) =
          (Vector.replicate 32 (0xff : UInt8)).set 15 0x61 := rfl
      rw [hashToPrimeCandidate, digest]
      decide
    have passes : challenge parts = some (2 ^ 128 - 159) := by
      simp [challenge, hashToPrime, hashToPrimeFrom, candidate]
    exact ⟨_, passes, one_lt_hashToPrime sampleDigest passes⟩
  obtain ⟨x, ell, proof, -, -, evaluated, -, -, verified⟩ :=
    honest_proof_verifies sampleDigest challenges params (by decide)
      epochSeed envelopeId
  exact ⟨proof, evaluated, verified⟩

end Honest

end Vdf

end StellarConduit
