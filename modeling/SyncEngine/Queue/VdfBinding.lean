import SyncEngine.Queue.VdfOrdering

namespace StellarConduit.Vdf

open BigUint

/-! Bytes move between the end of a seed and the start of an envelope id, and
what is hashed stays the same. -/

/-- The first seed and id with some bytes of the seed moved to the id. -/
def Resplit (epochSeed envelopeId otherSeed otherId : Bytes) : Prop :=
  ∃ moved, moved ≠ [] ∧ epochSeed = otherSeed ++ moved ∧
    otherId = moved ++ envelopeId

theorem Resplit.joined {epochSeed envelopeId otherSeed otherId : Bytes}
    (resplit : Resplit epochSeed envelopeId otherSeed otherId) :
    epochSeed ++ envelopeId = otherSeed ++ otherId := by
  obtain ⟨moved, -, rfl, rfl⟩ := resplit
  exact List.append_assoc _ _ _

theorem resplit_of_moved
    {epochSeed envelopeId otherSeed otherId moved : Bytes}
    (different : (epochSeed, envelopeId) ≠ (otherSeed, otherId))
    (seeds : epochSeed = otherSeed ++ moved)
    (ids : otherId = moved ++ envelopeId) :
    Resplit epochSeed envelopeId otherSeed otherId := by
  refine ⟨moved, ?_, seeds, ids⟩
  rintro rfl
  rw [List.append_nil] at seeds
  exact different (by rw [seeds, ids, List.nil_append])

theorem resplit_of_joined {epochSeed envelopeId otherSeed otherId : Bytes}
    (different : (epochSeed, envelopeId) ≠ (otherSeed, otherId))
    (joined : epochSeed ++ envelopeId = otherSeed ++ otherId) :
    Resplit epochSeed envelopeId otherSeed otherId ∨
      Resplit otherSeed otherId epochSeed envelopeId := by
  rcases List.append_eq_append_iff.mp joined with
    ⟨moved, seeds, ids⟩ | ⟨moved, seeds, ids⟩
  · exact Or.inr (resplit_of_moved different.symm seeds ids)
  · exact Or.inl (resplit_of_moved different seeds ids)

theorem resplit_iff_joined {epochSeed envelopeId otherSeed otherId : Bytes}
    (different : (epochSeed, envelopeId) ≠ (otherSeed, otherId)) :
    epochSeed ++ envelopeId = otherSeed ++ otherId ↔
      Resplit epochSeed envelopeId otherSeed otherId ∨
        Resplit otherSeed otherId epochSeed envelopeId := by
  constructor
  · exact resplit_of_joined different
  · intro resplit
    rcases resplit with forward | backward
    · exact forward.joined
    · exact backward.joined.symm

theorem inputBytes_inj {epochSeed envelopeId otherSeed otherId : Bytes}
    {counter : UInt32} :
    inputBytes epochSeed envelopeId counter =
        inputBytes otherSeed otherId counter ↔
      epochSeed ++ envelopeId = otherSeed ++ otherId := by
  rw [inputBytes, inputBytes, List.append_left_inj, List.append_assoc,
    List.append_assoc, List.append_right_inj]

section Material

variable (sha256 : Bytes → Bytes32)

/-- What is reduced to the input. -/
def material (modulus : Nat) (epochSeed envelopeId : Bytes) : Bytes :=
  extendInput sha256 epochSeed envelopeId ((bits modulus + 7) / 8 + 16) [] 0

theorem deriveInput_eq (modulus : Nat) (epochSeed envelopeId : Bytes) :
    deriveInput sha256 modulus epochSeed envelopeId =
      rem (fromBytesBe (material sha256 modulus epochSeed envelopeId))
        modulus := rfl

theorem extendInput_prefix (epochSeed envelopeId : Bytes)
    (bytesNeeded : Nat) (buf : Bytes) (counter : UInt32) :
    buf <+: extendInput sha256 epochSeed envelopeId bytesNeeded buf
      counter := by
  fun_induction extendInput sha256 epochSeed envelopeId bytesNeeded buf
    counter with
  | case1 buf counter short induction =>
      exact (List.prefix_append _ _).trans induction
  | case2 buf counter enough =>
      exact List.prefix_rfl

theorem block_prefix_material (modulus : Nat)
    (epochSeed envelopeId : Bytes) :
    (sha256 (inputBytes epochSeed envelopeId 0)).toVec <+:
      material sha256 modulus epochSeed envelopeId := by
  have short : ([] : Bytes).length < (bits modulus + 7) / 8 + 16 :=
    Nat.succ_pos _
  rw [material, extendInput, if_pos short]
  exact extendInput_prefix sha256 epochSeed envelopeId _ _ _

theorem extendInput_congr {epochSeed envelopeId otherSeed otherId : Bytes}
    (joined : epochSeed ++ envelopeId = otherSeed ++ otherId)
    (bytesNeeded : Nat) (buf : Bytes) (counter : UInt32) :
    extendInput sha256 epochSeed envelopeId bytesNeeded buf counter =
      extendInput sha256 otherSeed otherId bytesNeeded buf counter := by
  fun_induction extendInput sha256 epochSeed envelopeId bytesNeeded buf
    counter with
  | case1 buf counter short induction =>
      rw [extendInput.eq_def sha256 otherSeed, if_pos short, induction,
        inputBytes_inj.mpr joined]
  | case2 buf counter enough =>
      rw [extendInput, if_neg enough]

theorem deriveInput_congr {epochSeed envelopeId otherSeed otherId : Bytes}
    (joined : epochSeed ++ envelopeId = otherSeed ++ otherId)
    (modulus : Nat) :
    deriveInput sha256 modulus epochSeed envelopeId =
      deriveInput sha256 modulus otherSeed otherId := by
  rw [deriveInput_eq, deriveInput_eq, material, material,
    extendInput_congr sha256 joined]

theorem evaluate_congr {epochSeed envelopeId otherSeed otherId : Bytes}
    (joined : epochSeed ++ envelopeId = otherSeed ++ otherId)
    (challenge : List Bytes → Option Nat) (params : VdfParams) :
    evaluate sha256 challenge params epochSeed envelopeId =
      evaluate sha256 challenge params otherSeed otherId := by
  rw [evaluate, evaluate, deriveInput_congr sha256 joined]

/-- A proof for a seed and an id is one for every other split of them. -/
theorem verify_congr {epochSeed envelopeId otherSeed otherId : Bytes}
    (joined : epochSeed ++ envelopeId = otherSeed ++ otherId)
    (challenge : List Bytes → Option Nat) (params : VdfParams)
    (proof : VdfProof) :
    verify sha256 challenge params epochSeed envelopeId proof =
      verify sha256 challenge params otherSeed otherId proof := by
  rw [verify, verify, deriveInput_congr sha256 joined]

theorem material_ne {epochSeed envelopeId otherSeed otherId : Bytes}
    (resists : sha256 (inputBytes epochSeed envelopeId 0) ≠
      sha256 (inputBytes otherSeed otherId 0)) (modulus : Nat) :
    material sha256 modulus epochSeed envelopeId ≠
      material sha256 modulus otherSeed otherId := by
  intro same
  have first := block_prefix_material sha256 modulus epochSeed envelopeId
  have second := block_prefix_material sha256 modulus otherSeed otherId
  rw [same] at first
  have blocks := (List.prefix_of_prefix_length_le first second
    (by rw [Bytes32.toVec, Bytes32.toVec, Vector.length_toList,
      Vector.length_toList])).eq_of_length
    (by rw [Bytes32.toVec, Bytes32.toVec, Vector.length_toList,
      Vector.length_toList])
  exact resists (Vector.toList_inj.mp blocks)

end Material

/-! A hash that tells two messages apart, and a proof that only one of them
accepts. -/

def parityDigest (odd : Bytes) (bytes : Bytes) : Bytes32 :=
  (Vector.replicate 32 (0 : UInt8)).set 31 (if bytes = odd then 1 else 0)

theorem deriveInput_parityDigest (odd epochSeed envelopeId : Bytes) :
    deriveInput (parityDigest odd) 2 epochSeed envelopeId =
      some (if inputBytes epochSeed envelopeId 0 = odd then 1 else 0) := by
  have blocks : extendInput (parityDigest odd) epochSeed envelopeId 17 [] 0 =
      (parityDigest odd (inputBytes epochSeed envelopeId 0)).toVec := by
    rw [extendInput, if_pos (by decide), List.nil_append, extendInput,
      if_neg (by rw [Bytes32.toVec, Vector.length_toList]; decide)]
  have needed : (bits 2 + 7) / 8 + 16 = 17 := by decide
  rw [deriveInput, needed, blocks, parityDigest]
  split
  · decide
  · decide

theorem verify_parityDigest (odd epochSeed envelopeId : Bytes) :
    verify (parityDigest odd) (fun _ => some 2) ⟨2, 0⟩ epochSeed envelopeId
        ⟨1, 1⟩ =
      some (decide (inputBytes epochSeed envelopeId 0 = odd)) := by
  rw [verify, deriveInput_parityDigest]
  split
  · rename_i same
    rw [decide_eq_true same]
    rfl
  · rename_i different
    rw [decide_eq_false different]
    rfl

/-- A seed and an id are told from another seed and id by what is hashed. -/
structure BoundSeparately (epochSeed envelopeId otherSeed otherId : Bytes) :
    Prop where
  hashed : ∀ counter, inputBytes epochSeed envelopeId counter ≠
    inputBytes otherSeed otherId counter
  material : ∀ sha256 : Bytes → Bytes32,
    (∀ counter,
      sha256 (inputBytes epochSeed envelopeId counter) =
          sha256 (inputBytes otherSeed otherId counter) →
        inputBytes epochSeed envelopeId counter =
          inputBytes otherSeed otherId counter) →
    ∀ modulus, material sha256 modulus epochSeed envelopeId ≠
      material sha256 modulus otherSeed otherId
  proofs : ∃ sha256 challenge params proof,
    verify sha256 challenge params epochSeed envelopeId proof = some true ∧
      verify sha256 challenge params otherSeed otherId proof = some false

theorem boundSeparately {epochSeed envelopeId otherSeed otherId : Bytes}
    (apart : epochSeed ++ envelopeId ≠ otherSeed ++ otherId) :
    BoundSeparately epochSeed envelopeId otherSeed otherId := by
  have hashed (counter : UInt32) :
      inputBytes epochSeed envelopeId counter ≠
        inputBytes otherSeed otherId counter :=
    inputBytes_inj.not.mpr apart
  refine ⟨hashed, ?_, ?_⟩
  · intro sha256 injective modulus
    apply material_ne
    intro collision
    exact hashed 0 (injective 0 collision)
  · refine ⟨parityDigest (inputBytes epochSeed envelopeId 0),
      fun _ => some 2, ⟨2, 0⟩, ⟨1, 1⟩, ?_, ?_⟩
    · rw [verify_parityDigest, decide_eq_true rfl]
    · rw [verify_parityDigest, decide_eq_false (hashed 0).symm]

/-- Different seeds and ids are bound separately exactly if no bytes moved
between a seed and an id turn the one pair into the other. -/
theorem boundSeparately_iff {epochSeed envelopeId otherSeed otherId : Bytes}
    (different : (epochSeed, envelopeId) ≠ (otherSeed, otherId)) :
    BoundSeparately epochSeed envelopeId otherSeed otherId ↔
      ¬ (Resplit epochSeed envelopeId otherSeed otherId ∨
        Resplit otherSeed otherId epochSeed envelopeId) := by
  rw [← resplit_iff_joined different]
  constructor
  · intro bound joined
    exact bound.hashed 0 (inputBytes_inj.mpr joined)
  · exact boundSeparately

theorem boundSeparately_rounds :
    let round1 : Bytes := [0x73, 0x31]
    let round2 : Bytes := [0x73, 0x32]
    let envelopeId : Bytes := [0x61, 0x62, 0x63]
    BoundSeparately round1 envelopeId round2 envelopeId := by
  intro round1 round2 envelopeId
  have different : (round1, envelopeId) ≠ (round2, envelopeId) := by decide
  have apart : round1 ++ envelopeId ≠ round2 ++ envelopeId := by decide
  apply (boundSeparately_iff different).mpr
  rw [← resplit_iff_joined different]
  exact apart

/-- A byte moved from the seed to the id. -/
theorem resplit_shares_proofs :
    let epochSeed : Bytes := [0x61, 0x62]
    let envelopeId : Bytes := [0x63]
    let otherSeed : Bytes := [0x61]
    let otherId : Bytes := [0x62, 0x63]
    (epochSeed, envelopeId) ≠ (otherSeed, otherId) ∧
      (∀ counter, inputBytes epochSeed envelopeId counter =
        inputBytes otherSeed otherId counter) ∧
      ∀ sha256 challenge params,
        evaluate sha256 challenge params epochSeed envelopeId =
            evaluate sha256 challenge params otherSeed otherId ∧
          ∀ proof,
            verify sha256 challenge params epochSeed envelopeId proof =
              verify sha256 challenge params otherSeed otherId proof := by
  intro epochSeed envelopeId otherSeed otherId
  have joined : epochSeed ++ envelopeId = otherSeed ++ otherId := by decide
  refine ⟨by decide, fun counter => inputBytes_inj.mpr joined, ?_⟩
  intro sha256 challenge params
  exact ⟨evaluate_congr sha256 joined challenge params,
    verify_congr sha256 joined challenge params⟩

end StellarConduit.Vdf
