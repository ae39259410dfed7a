import SyncEngine.Conflict.Evidence
import SyncEngine.Sim.World

namespace StellarConduit

open Data

/-! The adversarial agents of the simulation, one turn each. -/

/-- What the agents use of the rand crate. -/
structure RandCrate (StdRng : Type) where
  seedFromU64 : UInt64 → StdRng
  fillBytes : StdRng → Bytes32 × StdRng
  shuffle : List QueuedSlot → StdRng → List QueuedSlot × StdRng

/-- What the agents use of `RelayChainProof` in the core crate and of
`SigningKey` in ed25519_dalek. -/
structure SigningCrates (RelayChainProof VerifyingKey SigningKey : Type)
    extends RelayCrates RelayChainProof VerifyingKey where
  signingKey : Bytes32 → SigningKey
  verifyingKey : SigningKey → Bytes32
  sign : SigningKey → Bytes32 → Bytes32 → UInt64 → RelayChainProof
  signature : RelayChainProof → Vector UInt8 64
  withSignature : RelayChainProof → Vector UInt8 64 → RelayChainProof
  chainHash : RelayChainProof → Bytes32
  withChainHash : RelayChainProof → Bytes32 → RelayChainProof

/-- A proof signed for one transaction verifies for no other. -/
def SigningCrates.Binds {RelayChainProof VerifyingKey SigningKey : Type}
    (crates : SigningCrates RelayChainProof VerifyingKey SigningKey) : Prop :=
  ∀ key txId chainHash sequence verifyingKey otherTxId,
    crates.fromBytes (crates.verifyingKey key) = some verifyingKey →
    crates.verify (crates.sign key txId chainHash sequence) verifyingKey
      otherTxId = true →
    otherTxId = txId

/-- `n.saturating_add(1)` -/
def saturatingSucc (n : UInt64) : UInt64 := if n + 1 = 0 then n else n + 1

def hexEncodeSignature (signature : Vector UInt8 64) : String :=
  String.ofList (signature.toList.flatMap fun byte =>
    [(byte.toNat / 16).digitChar, (byte.toNat % 16).digitChar])

/-- What an agent's turn works on. `maps` counts the hash maps that the
detectors have built so far. -/
structure AgentCtx (StdRng RelayChainProof : Type) where
  rng : StdRng
  clock : UInt64
  maps : Nat
  world : SimWorld RelayChainProof
  trace : Trace

inductive AgentOutcome
  | defended (summary : String)
  | invariantViolation (summary : String)
  deriving DecidableEq

/-- `none` is a turn that panics, or that runs out of fuel. -/
structure AdversarialAgent (StdRng RelayChainProof : Type) where
  name : String
  act : AgentCtx StdRng RelayChainProof →
    Option (AgentOutcome × AgentCtx StdRng RelayChainProof)

namespace AgentCtx

variable {StdRng RelayChainProof : Type}

def record (ctx : AgentCtx StdRng RelayChainProof) (atSecs : UInt64)
    (source kind detail : String) : AgentCtx StdRng RelayChainProof :=
  { ctx with trace := ctx.trace.record atSecs source kind detail }

def fail (ctx : AgentCtx StdRng RelayChainProof) (message : String) :
    AgentCtx StdRng RelayChainProof :=
  { ctx with trace := ctx.trace.fail message }

/-- The clock wraps around, as in a release build. -/
def advance (ctx : AgentCtx StdRng RelayChainProof) (secs : UInt64) :
    AgentCtx StdRng RelayChainProof :=
  { ctx with clock := ctx.clock + secs }

/-- `ctx.trace.fail(&msg)` and the violation that reports it. -/
def violation (ctx : AgentCtx StdRng RelayChainProof) (message : String) :
    AgentOutcome × AgentCtx StdRng RelayChainProof :=
  (.invariantViolation message, ctx.fail message)

end AgentCtx

section

variable {StdRng RelayChainProof VerifyingKey SigningKey : Type}
  (rand : RandCrate StdRng)
  (crates : SigningCrates RelayChainProof VerifyingKey SigningKey)

/-- `key_from_rng`, the same function in two agents. -/
def keyFromRng (rng : StdRng) : SigningKey × StdRng :=
  let (bytes, rng) := rand.fillBytes rng
  (crates.signingKey bytes, rng)

namespace ForgedProofAgent

def messageId (tag : UInt8) (rng : StdRng) : Bytes32 × StdRng :=
  let (mix, rng) := rand.fillBytes rng
  (mix.map fun byte => tag ^^^ byte, rng)

def name : String := "forged_proof"

variable (display : SyncEngineError → String)

/-- `display` is the text of an error that the resolver does not return. -/
def act (ctx : AgentCtx StdRng RelayChainProof) :
    Option (AgentOutcome × AgentCtx StdRng RelayChainProof) := do
  let sequence := ctx.world.sequence
  let account := ctx.world.account
  let now := ctx.clock
  let (honestA, rng) := messageId rand 0xA1 ctx.rng
  let (honestB, rng) := messageId rand 0xB2 rng
  let conflict ← conflictsBetween ⟨account, sequence, honestA⟩
    ⟨account, sequence, honestB⟩
  let (relay1, rng) := keyFromRng rand crates rng
  let (relay2, rng) := keyFromRng rand crates rng
  let (chain, rng) := rand.fillBytes rng
  let honest1 : RelayObservation RelayChainProof :=
    ⟨crates.verifyingKey relay1,
      crates.sign relay1 honestA chain sequence.toUInt64⟩
  let honest2 : RelayObservation RelayChainProof :=
    ⟨crates.verifyingKey relay2,
      crates.sign relay2 honestA chain sequence.toUInt64⟩
  let signature := crates.signature honest1.proof
  let flipped := signature.set 0 (signature[0] ^^^ 0xff)
  let flipped := flipped.set 31 (flipped[31] ^^^ 0xaa)
  let tampered : RelayObservation RelayChainProof :=
    { honest1 with proof := crates.withSignature honest1.proof flipped }
  let hash := crates.chainHash honest2.proof
  let mutatedHash : RelayObservation RelayChainProof :=
    { honest2 with
      proof := crates.withChainHash honest2.proof
        (hash.set 0 (hash[0] ^^^ 0x5a)) }
  let crossWired := honest1
  let (sybil, rng) := keyFromRng rand crates rng
  let sybilObs : RelayObservation RelayChainProof :=
    ⟨crates.verifyingKey sybil,
      crates.sign sybil honestB chain sequence.toUInt64⟩
  let evidence : ConflictEvidence RelayChainProof := {
    envelopeATimestamp := now
    envelopeBTimestamp := saturatingSucc now
    envelopeAObservations := [honest1, honest2, tampered, mutatedHash]
    envelopeBObservations := [crossWired, sybilObs] }
  let ctx := { ctx with rng := rng }.record now name "injected_forgeries"
    ("tampered_sig=" ++
      hexEncodeSignature (crates.signature tampered.proof) ++
      " mutated_hash=" ++ hexEncode (crates.chainHash mutatedHash.proof) ++
      " cross_wired=" ++ hexEncode crossWired.relayPubkey ++
      " sybil=" ++ hexEncode sybilObs.relayPubkey)
  match resolveConflict crates.toRelayCrates conflict evidence with
  | .ok winner =>
      if winner = honestA then
        some (.defended
          "forged/tampered proofs did not overturn honest quorum",
          ctx.record now name "forged_proof_rejected"
            ("winner=" ++ hexEncode winner))
      else
        some (ctx.violation
          ("forged proofs caused unexpected winner " ++ hexEncode winner))
  | .error (.unresolvedConflict _) =>
      some (.defended
        "resolver left conflict unresolved rather than trusting forgeries",
        ctx.record now name "forged_proof_unresolved"
          "resolver refused to decide under forged evidence")
  | .error other =>
      some (ctx.violation
        ("unexpected error under forged evidence: " ++ display other))

end ForgedProofAgent

namespace ReplayAgent

def name : String := "replay"

/-- `matches!(resolve_conflict(..), Err(UnresolvedConflict(_)))` -/
def refuses (conflict : Conflict)
    (evidence : ConflictEvidence RelayChainProof) : Bool :=
  match resolveConflict crates.toRelayCrates conflict evidence with
  | .error (.unresolvedConflict _) => true
  | _ => false

/-- The sequence after the last wraps around, as in a release build. -/
def act (ctx : AgentCtx StdRng RelayChainProof) :
    Option (AgentOutcome × AgentCtx StdRng RelayChainProof) := do
  let account := ctx.world.account
  let sequence := ctx.world.sequence
  let now := ctx.clock
  let (idA, rng) := rand.fillBytes ctx.rng
  let (idB, rng) := rand.fillBytes rng
  let idB := if idA = idB then idB.set 0 (idB[0] ^^^ 0xff) else idB
  let conflict ← conflictsBetween ⟨account, sequence, idA⟩
    ⟨account, sequence, idB⟩
  let (relay, rng) := keyFromRng rand crates rng
  let chain : Bytes32 := Vector.replicate 32 9
  let fresh : RelayObservation RelayChainProof :=
    ⟨crates.verifyingKey relay,
      crates.sign relay idA chain sequence.toUInt64⟩
  let mid := hexEncode idA
  let world := { ctx.world with
    observationAcceptedAt := ctx.world.observationAcceptedAt.insert mid now }
  let world := world.ensureDevice "replay-victim" fun device =>
    { device with observations := device.observations.insert mid [fresh] }
  let ttl := world.observationTtlSecs
  let ctx := { ctx with rng := rng, world := world }.advance
    (saturatingSucc ttl)
  let later := ctx.clock
  let wrongSeqConflict ← conflictsBetween ⟨account, sequence + 1, idA⟩
    ⟨account, sequence + 1, idB⟩
  let replayed : ConflictEvidence RelayChainProof := {
    envelopeATimestamp := now
    envelopeBTimestamp := now
    envelopeAObservations := [fresh]
    envelopeBObservations := [] }
  let wrongSeqOk := refuses crates wrongSeqConflict replayed
  let staleOk := refuses crates conflict replayed
  let ctx := ctx.record later name "replay_attempts"
    ("wrong_seq_defended=" ++ toString wrongSeqOk ++
      " stale_lone_proof_unresolved=" ++ toString staleOk ++
      " ttl=" ++ toString ttl.toNat)
  if wrongSeqOk ∧ staleOk then
    some (.defended
      "stale/out-of-sequence replays did not resolve a conflict", ctx)
  else
    some (ctx.violation ("replay slipped through: wrong_seq_ok=" ++
      toString wrongSeqOk ++ " stale_ok=" ++ toString staleOk))

end ReplayAgent

namespace RaceAgent

def name : String := "race"

/-- Fills an id until it is none of `ids`. -/
def freshId (ids : List Bytes32) : Nat → StdRng → Option (Bytes32 × StdRng)
  | 0, _ => none
  | fuel + 1, rng =>
      let (id, rng) := rand.fillBytes rng
      if ids.contains id then freshId ids fuel rng else some (id, rng)

def drawIds (fuel : Nat) : Nat → List Bytes32 → StdRng →
    Option (List Bytes32 × StdRng)
  | 0, ids, rng => some (ids, rng)
  | count + 1, ids, rng => do
      let (id, rng) ← freshId rand ids fuel rng
      drawIds fuel count (ids ++ [id]) rng

variable (iteration :
    Nat → HashMap.Iteration (String × Int64) (List Bytes32)) (fuel : Nat)

def slot (account : String) (sequence : Int64) (messageId : Bytes32) :
    QueuedSlot :=
  ⟨account, sequence, messageId⟩

/-- The turn from the split of the slots on. `iteration` is the order that each
hash map is visited in. -/
def detect (ctx : AgentCtx StdRng RelayChainProof)
    (slotsCanon order : List QueuedSlot) :
    Option (AgentOutcome × AgentCtx StdRng RelayChainProof) :=
  let permLabel := String.intercalate "," (order.map fun slot =>
    hexEncode slot.messageId)
  match order with
  | [] => none
  | first :: rest =>
      let world := ctx.world.ensureDevice "race-0" fun device =>
        { device with slots := [first] }
      let world := world.ensureDevice "race-1" fun device =>
        { device with slots := rest }
      let merged := world.mergedSlots
      let conflicts := detectConflicts (iteration ctx.maps) merged
      let nway := detectNwayConflicts (iteration (ctx.maps + 1)) merged
      let opposite := slotsCanon.reverse
      let conflictsRev := detectConflicts (iteration (ctx.maps + 2)) opposite
      let nwayRev := detectNwayConflicts (iteration (ctx.maps + 3)) opposite
      let expectedPairs := 3
      let pairsOk := decide (conflicts.length = expectedPairs ∧
        conflictsRev.length = expectedPairs)
      let nwayOk := decide
        (nway.map (fun conflict => conflict.messageIds.length) = [3] ∧
          nwayRev.map (fun conflict => conflict.messageIds.length) = [3])
      let orderStable := decide (conflicts = conflictsRev ∧ nway = nwayRev)
      let ctx := { ctx with
        world := world, maps := ctx.maps + 4 }.record ctx.clock name
          "race_conflicts_detected"
          ("perm=" ++ permLabel ++ " pairs=" ++ toString conflicts.length ++
            " nway=" ++ toString nway.length ++ " order_stable=" ++
            toString orderStable)
      if ¬(pairsOk ∧ nwayOk) then
        some (ctx.violation ("race missed conflicts: pairs=" ++
          toString conflicts.length ++ " (want " ++ toString expectedPairs ++
          ") nway_ok=" ++ toString nwayOk))
      else if ¬orderStable then
        some (ctx.violation ("detect_conflicts/detect_nway_conflicts " ++
          "output depends on slot insertion order (HashMap iteration) — " ++
          "breaks seeded reproducibility"))
      else
        some (.defended ("race detected " ++ toString expectedPairs ++
          " pairs + 1 n-way conflict; output order-stable"), ctx)

def act (ctx : AgentCtx StdRng RelayChainProof) :
    Option (AgentOutcome × AgentCtx StdRng RelayChainProof) := do
  let (ids, rng) ← drawIds rand fuel 3 [] ctx.rng
  let slotsCanon := (sortBy Bytes32.rank ids).map
    (slot ctx.world.account ctx.world.sequence)
  let (order, rng) := rand.shuffle slotsCanon rng
  detect iteration { ctx with rng := rng } slotsCanon order

end RaceAgent

end

/-! What every turn leaves behind. -/

/-- The agent reports its attack as defended, the trace has no new failure, and
slots stay with the devices of the race. -/
structure Defends {StdRng RelayChainProof : Type}
    (ctx after : AgentCtx StdRng RelayChainProof) (outcome : AgentOutcome) :
    Prop where
  defended : ∃ summary, outcome = .defended summary
  failure : after.trace.failure = ctx.trace.failure
  raceOnly : after.world.RaceOnly

section

variable {StdRng RelayChainProof VerifyingKey SigningKey : Type}
  {rand : RandCrate StdRng}
  {crates : SigningCrates RelayChainProof VerifyingKey SigningKey}

/-- Short of the quorum the second envelope does not win. -/
theorem resolveConflict_first {conflict : Conflict}
    {evidence : ConflictEvidence RelayChainProof} {winner : Bytes32}
    (resolved : resolveConflict crates.toRelayCrates conflict evidence =
      .ok winner)
    (few : (countDistinctValidRelays crates.toRelayCrates
      evidence.envelopeBObservations conflict.sequence
        conflict.envelopeB).card < minQuorum) :
    winner = conflict.envelopeA := by
  have reports := resolveConflict_reports crates.toRelayCrates conflict evidence
  have won := (reports.eq_ok winner).mp resolved
  unfold pairWinner at won
  split at won
  · exact (Option.some_inj.mp won).symm
  · rw [if_neg fun wins => absurd wins.1 (by omega)] at won
    cases won

theorem resolveConflict_error {conflict : Conflict}
    {evidence : ConflictEvidence RelayChainProof} {error : SyncEngineError}
    (resolved : resolveConflict crates.toRelayCrates conflict evidence =
      .error error) :
    ∃ reason, error = .unresolvedConflict reason := by
  have reports := resolveConflict_reports crates.toRelayCrates conflict evidence
  rw [resolved] at reports
  generalize pairWinner _ _ _ _ = winner at reports
  cases winner with
  | some winner => cases reports
  | none =>
      obtain ⟨reason, same⟩ := reports
      exact ⟨reason, Except.error.inj same⟩

/-- Short of the quorum on both sides nobody wins. -/
theorem ReplayAgent.refuses_of_few {conflict : Conflict}
    {evidence : ConflictEvidence RelayChainProof}
    (fewA : (countDistinctValidRelays crates.toRelayCrates
      evidence.envelopeAObservations conflict.sequence
        conflict.envelopeA).card < minQuorum)
    (fewB : (countDistinctValidRelays crates.toRelayCrates
      evidence.envelopeBObservations conflict.sequence
        conflict.envelopeB).card < minQuorum) :
    refuses crates conflict evidence = true := by
  have reports := resolveConflict_reports crates.toRelayCrates conflict evidence
  rw [pairWinner, if_neg fun wins => absurd wins.1 (by omega),
    if_neg fun wins => absurd wins.1 (by omega)] at reports
  obtain ⟨reason, unresolved⟩ := reports
  rw [refuses, unresolved]

/-- A relay counts at most once, whatever it sends. -/
theorem card_lt_minQuorum {observations : List
      (RelayObservation RelayChainProof)} {conflictSequence : Int64}
    {txId relay : Bytes32}
    (alone : ∀ other ∈ validRelays crates.toRelayCrates conflictSequence
      observations txId, other = relay) :
    (countDistinctValidRelays crates.toRelayCrates observations
      conflictSequence txId).card < minQuorum := by
  rw [card_countDistinctValidRelays]
  have within : validRelays crates.toRelayCrates conflictSequence observations
      txId ⊆ {relay} := alone
  have bounded := Set.ncard_le_ncard within (Set.finite_singleton relay)
  rw [Set.ncard_singleton] at bounded
  exact Nat.lt_succ_of_le bounded

theorem ForgedProofAgent.act_defends (binds : crates.Binds)
    {display : SyncEngineError → String}
    {ctx after : AgentCtx StdRng RelayChainProof} {outcome : AgentOutcome}
    (raceOnly : ctx.world.RaceOnly)
    (acted : act rand crates display ctx = some (outcome, after)) :
    Defends ctx after outcome := by
  unfold act at acted
  obtain ⟨⟨honestA, afterA⟩, drawnA⟩ :
    ∃ drawn, messageId rand 0xA1 ctx.rng = drawn := ⟨_, rfl⟩
  obtain ⟨⟨honestB, afterB⟩, drawnB⟩ :
    ∃ drawn, messageId rand 0xB2 afterA = drawn := ⟨_, rfl⟩
  obtain ⟨⟨relay1, after1⟩, drawn1⟩ :
    ∃ drawn, keyFromRng rand crates afterB = drawn := ⟨_, rfl⟩
  obtain ⟨⟨relay2, after2⟩, drawn2⟩ :
    ∃ drawn, keyFromRng rand crates after1 = drawn := ⟨_, rfl⟩
  obtain ⟨⟨chain, afterChain⟩, drawnChain⟩ :
    ∃ drawn, rand.fillBytes after2 = drawn := ⟨_, rfl⟩
  obtain ⟨⟨sybil, rng⟩, drawnSybil⟩ :
    ∃ drawn, keyFromRng rand crates afterChain = drawn := ⟨_, rfl⟩
  simp only [drawnA, drawnB] at acted
  obtain ⟨conflict, conflicting, acted⟩ := Option.bind_eq_some_iff.mp acted
  simp only [drawn1, drawn2, drawnChain, drawnSybil] at acted
  obtain ⟨account, sequence, a, b⟩ := conflict
  obtain ⟨sameA, sameB, differ⟩ := conflictsBetween_eq_some.mp conflicting
  cases sameA
  cases sameB
  have alone : ∀ other ∈ validRelays crates.toRelayCrates ctx.world.sequence
      [⟨crates.verifyingKey relay1,
          crates.sign relay1 a chain ctx.world.sequence.toUInt64⟩,
        ⟨crates.verifyingKey sybil,
          crates.sign sybil b chain ctx.world.sequence.toUInt64⟩]
      b, other = crates.verifyingKey sybil := by
    rintro other ⟨obs, listed, rfl, _, key, decoded, verified⟩
    rcases List.mem_cons.mp listed with rfl | last
    · -- the proof for the first envelope says nothing about the second
      exact absurd (binds _ _ _ _ _ _ decoded verified).symm differ
    · rw [List.mem_singleton.mp last]
  split at acted
  · rename_i winner resolved
    have first := resolveConflict_first resolved (card_lt_minQuorum alone)
    rw [if_pos first] at acted
    cases acted
    exact ⟨⟨_, rfl⟩, rfl, raceOnly⟩
  · cases acted
    exact ⟨⟨_, rfl⟩, rfl, raceOnly⟩
  · rename_i error notUnresolved resolved
    obtain ⟨reason, same⟩ := resolveConflict_error resolved
    exact absurd same (notUnresolved reason)

theorem ReplayAgent.act_defends
    {ctx after : AgentCtx StdRng RelayChainProof} {outcome : AgentOutcome}
    (raceOnly : ctx.world.RaceOnly)
    (acted : act rand crates ctx = some (outcome, after)) :
    Defends ctx after outcome := by
  unfold act at acted
  obtain ⟨⟨idA, afterA⟩, drawnA⟩ :
    ∃ drawn, rand.fillBytes ctx.rng = drawn := ⟨_, rfl⟩
  obtain ⟨⟨idB, afterB⟩, drawnB⟩ :
    ∃ drawn, rand.fillBytes afterA = drawn := ⟨_, rfl⟩
  obtain ⟨⟨relay, rng⟩, drawnRelay⟩ :
    ∃ drawn, keyFromRng rand crates afterB = drawn := ⟨_, rfl⟩
  simp only [drawnA, drawnB] at acted
  obtain ⟨conflict, _, acted⟩ := Option.bind_eq_some_iff.mp acted
  simp only [drawnRelay] at acted
  obtain ⟨wrongSeqConflict, _, acted⟩ := Option.bind_eq_some_iff.mp acted
  have lone (proof : RelayChainProof) (sequence : Int64) (txId : Bytes32) :
      (countDistinctValidRelays crates.toRelayCrates
        [⟨crates.verifyingKey relay, proof⟩] sequence txId).card <
          minQuorum := by
    have alone : ∀ other ∈ validRelays crates.toRelayCrates sequence
        [⟨crates.verifyingKey relay, proof⟩] txId,
        other = crates.verifyingKey relay := by
      rintro other ⟨obs, listed, rfl, _⟩
      rw [List.mem_singleton.mp listed]
    exact card_lt_minQuorum alone
  have none (sequence : Int64) (txId : Bytes32) :
      (countDistinctValidRelays crates.toRelayCrates [] sequence txId).card <
        minQuorum := Nat.zero_lt_two
  have refused (disputed : Conflict) (proof : RelayChainProof) :
      refuses crates disputed ⟨ctx.clock, ctx.clock,
        [⟨crates.verifyingKey relay, proof⟩], []⟩ = true :=
    refuses_of_few (lone _ _ _) (none _ _)
  simp only [refused, and_self, if_true] at acted
  cases acted
  refine ⟨⟨_, rfl⟩, rfl, ?_⟩
  have accepted : SimWorld.RaceOnly { ctx.world with
      observationAcceptedAt := ctx.world.observationAcceptedAt.insert
        (hexEncode idA) ctx.clock } := raceOnly
  exact accepted.ensureDevice fun _ _ => by rfl

namespace RaceAgent

theorem freshId_some {ids : List Bytes32} {fuel : Nat} {rng after : StdRng}
    {id : Bytes32} (drawn : freshId rand ids fuel rng = some (id, after)) :
    id ∉ ids := by
  induction fuel generalizing rng with
  | zero => cases drawn
  | succ fuel induction =>
      obtain ⟨⟨filled, next⟩, fills⟩ :
        ∃ pair, rand.fillBytes rng = pair := ⟨_, rfl⟩
      simp only [freshId, fills] at drawn
      split at drawn
      · exact induction drawn
      · rename_i unlisted
        obtain ⟨rfl, _⟩ := Prod.mk.inj (Option.some_inj.mp drawn)
        exact fun listed => unlisted (List.contains_iff_mem.mpr listed)

theorem drawIds_some {fuel count : Nat} {ids drawn : List Bytes32}
    {rng after : StdRng}
    (drew : drawIds rand fuel count ids rng = some (drawn, after))
    (nodup : ids.Nodup) :
    drawn.Nodup ∧ drawn.length = ids.length + count := by
  induction count generalizing ids rng with
  | zero =>
      obtain ⟨rfl, _⟩ := Prod.mk.inj (Option.some_inj.mp drew)
      exact ⟨nodup, rfl⟩
  | succ count induction =>
      obtain ⟨⟨id, middle⟩, fresh, rest⟩ := Option.bind_eq_some_iff.mp drew
      have unlisted := freshId_some fresh
      have longer : (ids ++ [id]).Nodup := by
        rw [List.nodup_append]
        refine ⟨nodup, List.nodup_singleton id, ?_⟩
        rintro other member _ single rfl
        exact unlisted (List.mem_singleton.mp single ▸ member)
      obtain ⟨distinct, length⟩ := induction rest longer
      refine ⟨distinct, ?_⟩
      rw [length, List.length_append, List.length_singleton]
      omega

variable {iteration :
  Nat → HashMap.Iteration (String × Int64) (List Bytes32)}

theorem detect_defends {ctx after : AgentCtx StdRng RelayChainProof}
    {outcome : AgentOutcome} {ids : List Bytes32} {order : List QueuedSlot}
    (detected : detect iteration ctx
      (ids.map (slot ctx.world.account ctx.world.sequence)) order =
        some (outcome, after))
    (increasing : Increasing Bytes32.rank ids) (count : ids.length = 3)
    (shuffled : order.Perm
      (ids.map (slot ctx.world.account ctx.world.sequence)))
    (raceOnly : ctx.world.RaceOnly) :
    Defends ctx after outcome := by
  have contested (other : QueuedSlot) :
      other ∈ ids.map (slot ctx.world.account ctx.world.sequence) ↔
        ∃ id ∈ ids,
          other = ⟨ctx.world.account, ctx.world.sequence, id⟩ := by
    rw [List.mem_map]
    exact exists_congr fun id => and_congr_right fun _ => eq_comm
  have opposite (other : QueuedSlot) : other ∈ (ids.map
      (slot ctx.world.account ctx.world.sequence)).reverse ↔ _ :=
    List.mem_reverse.trans (contested other)
  cases order with
  | nil => cases detected
  | cons first rest =>
      have split (other : QueuedSlot) :=
        (raceOnly.mem_split first other rest).trans
          (shuffled.mem_iff.trans (contested other))
      have merged (other : QueuedSlot) := (SimWorld.mem_mergedSlots
        (fun one inOne two inTwo same => by
          obtain ⟨id, _, rfl⟩ := (split one).mp inOne
          obtain ⟨otherId, _, rfl⟩ := (split two).mp inTwo
          exact congrArg (slot ctx.world.account ctx.world.sequence) same)
        other).trans (split other)
      have several : 2 ≤ ids.length := by omega
      unfold detect at detected
      dsimp only at detected
      simp only [detectConflicts_of_contested increasing merged,
        detectConflicts_of_contested increasing opposite,
        detectNwayConflicts_of_contested increasing merged several,
        detectNwayConflicts_of_contested increasing opposite several]
        at detected
      have pairs : (pairConflicts ctx.world.account ctx.world.sequence
          ids).length = 3 := by
        obtain ⟨a, b, c, rfl⟩ := List.length_eq_three.mp count
        rfl
      simp only [pairs, count, List.map_cons, List.map_nil, and_self,
        decide_true, not_true_eq_false, if_false] at detected
      cases detected
      refine ⟨⟨_, rfl⟩, rfl, ?_⟩
      have first : "race-0" ∈ SimWorld.raceDevices := by decide
      have second : "race-1" ∈ SimWorld.raceDevices := by decide
      exact (raceOnly.ensureDevice fun outside => absurd first outside)
        |>.ensureDevice fun outside => absurd second outside

theorem act_defends
    (permutes : ∀ slots rng, (rand.shuffle slots rng).1.Perm slots)
    {fuel : Nat} {ctx after : AgentCtx StdRng RelayChainProof}
    {outcome : AgentOutcome} (raceOnly : ctx.world.RaceOnly)
    (acted : act rand iteration fuel ctx = some (outcome, after)) :
    Defends ctx after outcome := by
  unfold act at acted
  obtain ⟨⟨ids, afterIds⟩, drew, acted⟩ := Option.bind_eq_some_iff.mp acted
  obtain ⟨distinct, length⟩ := drawIds_some drew List.nodup_nil
  have increasing := increasing_sortBy Bytes32.rank_injective distinct
  have count : (sortBy Bytes32.rank ids).length = 3 := by
    rw [(sortBy_perm Bytes32.rank ids).length_eq, length]
    rfl
  let slotsCanon := (sortBy Bytes32.rank ids).map
    (slot ctx.world.account ctx.world.sequence)
  have detected : detect iteration
      { ctx with rng := (rand.shuffle slotsCanon afterIds).2 } slotsCanon
      (rand.shuffle slotsCanon afterIds).1 = some (outcome, after) := acted
  obtain ⟨defended, failure, kept⟩ := detect_defends detected increasing
    count (permutes _ afterIds) raceOnly
  exact ⟨defended, failure, kept⟩

end RaceAgent

/-! Turns that neither panic nor run out of fuel. -/

theorem conflictsBetween_isSome {account : String} {sequence : Int64}
    {first second : Bytes32} (differ : first ≠ second) :
    conflictsBetween ⟨account, sequence, first⟩ ⟨account, sequence, second⟩ =
      some ⟨account, sequence, first, second⟩ :=
  conflictsBetween_eq_some.mpr ⟨rfl, rfl, differ⟩

theorem ForgedProofAgent.act_some {display : SyncEngineError → String}
    (masked : ∀ rng, (messageId rand 0xA1 rng).1 ≠
      (messageId rand 0xB2 (messageId rand 0xA1 rng).2).1)
    (ctx : AgentCtx StdRng RelayChainProof) :
    ∃ turn, act rand crates display ctx = some turn := by
  unfold act
  dsimp only
  rw [conflictsBetween_isSome (masked ctx.rng)]
  simp only [Option.bind_eq_bind, Option.bind_some]
  split
  · split
    · exact ⟨_, rfl⟩
    · exact ⟨_, rfl⟩
  · exact ⟨_, rfl⟩
  · exact ⟨_, rfl⟩

/-- An id that would repeat the first is changed in its first byte. -/
theorem ReplayAgent.ids_differ (idA idB : Bytes32) :
    idA ≠ if idA = idB then idB.set 0 (idB[0] ^^^ 0xff) else idB := by
  split
  · rename_i same
    subst same
    intro unchanged
    have first := congrArg (fun id : Bytes32 => idA[0] ^^^ id[0]) unchanged
    simp only [Vector.getElem_set_self, UInt8.xor_self] at first
    rw [← UInt8.xor_assoc, UInt8.xor_self, UInt8.zero_xor] at first
    cases first
  · assumption

theorem ReplayAgent.act_some (ctx : AgentCtx StdRng RelayChainProof) :
    ∃ turn, act rand crates ctx = some turn := by
  unfold act
  dsimp only
  rw [conflictsBetween_isSome (ids_differ _ _)]
  simp only [Option.bind_eq_bind, Option.bind_some]
  rw [conflictsBetween_isSome (ids_differ _ _)]
  simp only [Option.bind_some]
  rw [← apply_ite some]
  exact ⟨_, rfl⟩

namespace RaceAgent

variable {iteration :
    Nat → HashMap.Iteration (String × Int64) (List Bytes32)} {fuel : Nat}

theorem drawIds_isSome
    (fresh : ∀ ids : List Bytes32, ids.length < 3 → ∀ rng,
      ∃ drawn, freshId rand ids fuel rng = some drawn)
    {count : Nat} {ids : List Bytes32} (few : ids.length + count ≤ 3)
    (rng : StdRng) : ∃ drawn, drawIds rand fuel count ids rng = some drawn := by
  induction count generalizing ids rng with
  | zero => exact ⟨_, rfl⟩
  | succ count induction =>
      obtain ⟨⟨id, middle⟩, drawn⟩ := fresh ids (by omega) rng
      have fewer : (ids ++ [id]).length + count ≤ 3 := by
        rw [List.length_append, List.length_singleton]
        omega
      obtain ⟨last, rest⟩ := induction fewer middle
      exact ⟨last, Option.bind_eq_some_iff.mpr ⟨_, drawn, rest⟩⟩

theorem detect_some
    (iteration : Nat → HashMap.Iteration (String × Int64) (List Bytes32))
    (ctx : AgentCtx StdRng RelayChainProof) (slotsCanon : List QueuedSlot)
    {order : List QueuedSlot} (nonempty : order ≠ []) :
    ∃ turn, detect iteration ctx slotsCanon order = some turn := by
  cases order with
  | nil => exact absurd rfl nonempty
  | cons first rest =>
      unfold detect
      dsimp only
      split
      · exact ⟨_, rfl⟩
      · split
        · exact ⟨_, rfl⟩
        · exact ⟨_, rfl⟩

theorem act_some
    (permutes : ∀ slots rng, (rand.shuffle slots rng).1.Perm slots)
    (fresh : ∀ ids : List Bytes32, ids.length < 3 → ∀ rng,
      ∃ drawn, freshId rand ids fuel rng = some drawn)
    (ctx : AgentCtx StdRng RelayChainProof) :
    ∃ turn, act rand iteration fuel ctx = some turn := by
  obtain ⟨⟨ids, rng⟩, drew⟩ :=
    drawIds_isSome fresh (le_refl (([] : List Bytes32).length + 3)) ctx.rng
  obtain ⟨_, length⟩ := drawIds_some drew List.nodup_nil
  let slotsCanon := (sortBy Bytes32.rank ids).map
    (slot ctx.world.account ctx.world.sequence)
  have nonempty : (rand.shuffle slotsCanon rng).1 ≠ [] := by
    apply List.ne_nil_of_length_pos
    rw [(permutes slotsCanon rng).length_eq, List.length_map,
      (sortBy_perm Bytes32.rank ids).length_eq, length]
    exact Nat.zero_lt_succ _
  obtain ⟨turn, detected⟩ := detect_some iteration
    { ctx with rng := (rand.shuffle slotsCanon rng).2 } slotsCanon nonempty
  exact ⟨turn, Option.bind_eq_some_iff.mpr ⟨_, drew, detected⟩⟩

end RaceAgent

end

end StellarConduit
