import SyncEngine.Sim.Agents

namespace StellarConduit

open Data

/-! The simulation harness: agents take their turns until one finds a
violation. -/

structure SimConfig where
  seed : UInt64
  startSecs : UInt64
  account : String
  sequence : Int64
  deriving DecidableEq

namespace SimConfig

/-- `SimConfig::default()` -/
def default : SimConfig :=
  ⟨1, 1700000000, "GSIMACCOUNT0000000000000000000000000000", 42⟩

def withSeed (self : SimConfig) (seed : UInt64) : SimConfig :=
  { self with seed := seed }

end SimConfig

structure SimReport where
  seed : UInt64
  trace : Trace
  agentSummaries : List (String × String)
  deriving DecidableEq

def SimReport.ok (report : SimReport) : Bool := report.trace.ok

structure SimHarness (StdRng RelayChainProof : Type) where
  config : SimConfig
  ctx : AgentCtx StdRng RelayChainProof

namespace SimHarness

variable {StdRng RelayChainProof : Type}

/-- `maps` counts the hash maps built before. -/
def new (rand : RandCrate StdRng) (config : SimConfig) (maps : Nat) :
    SimHarness StdRng RelayChainProof where
  config := config
  ctx := {
    rng := rand.seedFromU64 config.seed
    clock := config.startSecs
    maps := maps
    world := .new config.account config.sequence
    trace := .empty }

/-- The loop of `run`, which a violation ends. -/
def turns : List (AdversarialAgent StdRng RelayChainProof) →
    List (String × String) → AgentCtx StdRng RelayChainProof →
    Option (List (String × String) × AgentCtx StdRng RelayChainProof)
  | [], summaries, ctx => some (summaries, ctx)
  | agent :: agents, summaries, ctx => do
      let (outcome, ctx) ← agent.act ctx
      match outcome with
      | .defended summary =>
          turns agents (summaries ++ [(agent.name, summary)]) (ctx.advance 1)
      | .invariantViolation summary =>
          some (summaries ++ [(agent.name, summary)],
            if ctx.trace.ok then ctx.fail summary else ctx)

def run (self : SimHarness StdRng RelayChainProof)
    (agents : List (AdversarialAgent StdRng RelayChainProof)) :
    Option (SimReport × SimHarness StdRng RelayChainProof) := do
  let ctx := self.ctx.record self.ctx.clock "harness" "run_start"
    ("seed=" ++ toString self.config.seed.toNat ++ " agents=" ++
      toString agents.length)
  let (summaries, ctx) ← turns agents [] ctx
  let ctx := ctx.record ctx.clock "harness" "run_end"
    ("ok=" ++ toString ctx.trace.ok)
  some (⟨self.config.seed, ctx.trace, summaries⟩, { self with ctx := ctx })

end SimHarness

structure SweepConfig where
  startSeed : UInt64
  maxSeeds : UInt64
  timeBudget : Nat

structure SweepReport where
  seedsRun : Nat
  failures : List (UInt64 × String)
  elapsed : Nat
  hitBudget : Bool
  deriving DecidableEq

def SweepReport.ok (report : SweepReport) : Bool := report.failures.isEmpty

section

variable {StdRng RelayChainProof VerifyingKey SigningKey : Type}
  (rand : RandCrate StdRng)
  (crates : SigningCrates RelayChainProof VerifyingKey SigningKey)
  (display : SyncEngineError → String)
  (iteration : Nat → HashMap.Iteration (String × Int64) (List Bytes32))
  (fuel : Nat)

/-- The agents of a sweep. -/
def adversaries : List (AdversarialAgent StdRng RelayChainProof) :=
  [⟨ForgedProofAgent.name, ForgedProofAgent.act rand crates display⟩,
    ⟨ReplayAgent.name, ReplayAgent.act rand crates⟩,
    ⟨RaceAgent.name, RaceAgent.act rand iteration fuel⟩]

/-- The loop of `run_adversarial_sweep` over the offsets that remain.
`elapsed` are the readings of the time since the start. -/
def sweepFrom (config : SweepConfig) (elapsed : Nat → Nat) :
    Nat → Nat → Nat → List (UInt64 × String) → Option SweepReport
  | 0, offset, _, failures =>
      some ⟨offset, failures, elapsed offset, false⟩
  | remaining + 1, offset, maps, failures =>
      if config.timeBudget ≤ elapsed offset then
        some ⟨offset, failures, elapsed (offset + 1), true⟩
      else do
        let seed := config.startSeed + UInt64.ofNat offset
        let harness := SimHarness.new rand (SimConfig.default.withSeed seed)
          maps
        let (report, harness) ← harness.run
          (adversaries rand crates display iteration fuel)
        let failures :=
          if report.ok then failures
          else failures ++
            [(seed, report.trace.failure.getD "unknown failure")]
        sweepFrom config elapsed remaining (offset + 1) harness.ctx.maps
          failures

def runAdversarialSweep (config : SweepConfig) (elapsed : Nat → Nat)
    (maps : Nat) : Option SweepReport :=
  sweepFrom rand crates display iteration fuel config elapsed
    config.maxSeeds.toNat 0 maps []

end

/-- Enough fuel to draw three ids, and never the same two envelopes to forge
a conflict of. -/
structure RandCrate.Diverse {StdRng : Type} (rand : RandCrate StdRng)
    (fuel : Nat) : Prop where
  masked : ∀ rng, (ForgedProofAgent.messageId rand 0xA1 rng).1 ≠
    (ForgedProofAgent.messageId rand 0xB2
      (ForgedProofAgent.messageId rand 0xA1 rng).2).1
  fresh : ∀ ids : List Bytes32, ids.length < 3 → ∀ rng,
    ∃ drawn, RaceAgent.freshId rand ids fuel rng = some drawn

/-! What holds of every run. -/

section

variable {StdRng RelayChainProof VerifyingKey SigningKey : Type}
  {rand : RandCrate StdRng}
  {crates : SigningCrates RelayChainProof VerifyingKey SigningKey}
  {display : SyncEngineError → String}
  {iteration : Nat → HashMap.Iteration (String × Int64) (List Bytes32)}
  {fuel : Nat}
  (binds : crates.Binds)
  (permutes : ∀ slots rng, (rand.shuffle slots rng).1.Perm slots)

include binds permutes

theorem adversary_defends {agent : AdversarialAgent StdRng RelayChainProof}
    (listed : agent ∈ adversaries rand crates display iteration fuel)
    {ctx after : AgentCtx StdRng RelayChainProof} {outcome : AgentOutcome}
    (raceOnly : ctx.world.RaceOnly)
    (acted : agent.act ctx = some (outcome, after)) :
    Defends ctx after outcome := by
  simp only [adversaries, List.mem_cons, List.not_mem_nil, or_false] at listed
  rcases listed with rfl | rfl | rfl
  · exact ForgedProofAgent.act_defends binds raceOnly acted
  · exact ReplayAgent.act_defends raceOnly acted
  · exact RaceAgent.act_defends permutes raceOnly acted

omit binds in
theorem adversary_acts (diverse : rand.Diverse fuel)
    {agent : AdversarialAgent StdRng RelayChainProof}
    (listed : agent ∈ adversaries rand crates display iteration fuel)
    (ctx : AgentCtx StdRng RelayChainProof) :
    ∃ turn, agent.act ctx = some turn := by
  simp only [adversaries, List.mem_cons, List.not_mem_nil, or_false] at listed
  rcases listed with rfl | rfl | rfl
  · exact ForgedProofAgent.act_some diverse.masked ctx
  · exact ReplayAgent.act_some ctx
  · exact RaceAgent.act_some permutes diverse.fresh ctx

/-- Turns that come to an end leave no failure, and a summary of each agent. -/
theorem turns_defended
    {agents : List (AdversarialAgent StdRng RelayChainProof)}
    (listed : ∀ agent ∈ agents,
      agent ∈ adversaries rand crates display iteration fuel)
    {ctx after : AgentCtx StdRng RelayChainProof}
    {summaries reported : List (String × String)}
    (raceOnly : ctx.world.RaceOnly)
    (ran : SimHarness.turns agents summaries ctx = some (reported, after)) :
    after.trace.failure = ctx.trace.failure ∧
      reported.map Prod.fst =
        summaries.map Prod.fst ++ agents.map AdversarialAgent.name := by
  induction agents generalizing ctx summaries with
  | nil =>
      cases ran
      exact ⟨rfl, by simp⟩
  | cons agent agents induction =>
      obtain ⟨⟨outcome, next⟩, acted, rest⟩ := Option.bind_eq_some_iff.mp ran
      obtain ⟨⟨summary, rfl⟩, untroubled, kept⟩ := adversary_defends binds
        permutes (listed agent List.mem_cons_self) raceOnly acted
      have advanced : (next.advance 1).world.RaceOnly := kept
      obtain ⟨failure, names⟩ := induction
        (fun other member => listed other (List.mem_cons_of_mem _ member))
        advanced rest
      refine ⟨failure.trans untroubled, ?_⟩
      rw [names]
      simp

theorem run_defended {config : SimConfig} {maps : Nat}
    {agents : List (AdversarialAgent StdRng RelayChainProof)}
    (listed : ∀ agent ∈ agents,
      agent ∈ adversaries rand crates display iteration fuel)
    {report : SimReport} {after : SimHarness StdRng RelayChainProof}
    (ran : (SimHarness.new rand config maps).run agents =
      some (report, after)) :
    report.ok = true ∧
      report.agentSummaries.map Prod.fst =
        agents.map AdversarialAgent.name := by
  obtain ⟨⟨summaries, last⟩, turned, finished⟩ :=
    Option.bind_eq_some_iff.mp ran
  obtain ⟨failure, names⟩ := turns_defended binds permutes listed
    (SimWorld.raceOnly_new _ _) turned
  cases finished
  refine ⟨?_, names⟩
  rw [SimReport.ok, Trace.ok, AgentCtx.record, Trace.failure_record, failure]
  rfl

theorem turns_end (diverse : rand.Diverse fuel)
    {agents : List (AdversarialAgent StdRng RelayChainProof)}
    (listed : ∀ agent ∈ agents,
      agent ∈ adversaries rand crates display iteration fuel)
    {ctx : AgentCtx StdRng RelayChainProof} (raceOnly : ctx.world.RaceOnly)
    {summaries : List (String × String)} :
    ∃ ended, SimHarness.turns agents summaries ctx = some ended := by
  induction agents generalizing ctx summaries with
  | nil => exact ⟨_, rfl⟩
  | cons agent agents induction =>
      obtain ⟨⟨outcome, next⟩, acted⟩ := adversary_acts permutes diverse
        (listed agent List.mem_cons_self) ctx
      obtain ⟨⟨summary, rfl⟩, _, kept⟩ := adversary_defends binds permutes
        (listed agent List.mem_cons_self) raceOnly acted
      have advanced : (next.advance 1).world.RaceOnly := kept
      obtain ⟨ended, rest⟩ := induction
        (fun other member => listed other (List.mem_cons_of_mem _ member))
        advanced
      exact ⟨ended, Option.bind_eq_some_iff.mpr ⟨_, acted, rest⟩⟩

theorem run_ends (diverse : rand.Diverse fuel) {config : SimConfig}
    {maps : Nat} {agents : List (AdversarialAgent StdRng RelayChainProof)}
    (listed : ∀ agent ∈ agents,
      agent ∈ adversaries rand crates display iteration fuel) :
    ∃ ended, (SimHarness.new rand config maps).run agents = some ended := by
  let harness : SimHarness StdRng RelayChainProof := .new rand config maps
  have started : (harness.ctx.record harness.ctx.clock "harness" "run_start"
      ("seed=" ++ toString harness.config.seed.toNat ++ " agents=" ++
        toString agents.length)).world.RaceOnly :=
    SimWorld.raceOnly_new _ _
  obtain ⟨ended, turned⟩ := turns_end binds permutes diverse listed started
  exact ⟨_, Option.bind_eq_some_iff.mpr ⟨ended, turned, rfl⟩⟩

theorem sweepFrom_clean (diverse : rand.Diverse fuel) {config : SweepConfig}
    {elapsed : Nat → Nat} (remaining offset maps : Nat) :
    ∃ report, sweepFrom rand crates display iteration fuel config elapsed
        remaining offset maps [] = some report ∧
      report.ok = true ∧
      offset ≤ report.seedsRun ∧ report.seedsRun ≤ offset + remaining ∧
      (∀ reading, offset ≤ reading → reading < report.seedsRun →
        elapsed reading < config.timeBudget) ∧
      (report.hitBudget = true →
        config.timeBudget ≤ elapsed report.seedsRun) ∧
      (report.hitBudget = false → report.seedsRun = offset + remaining) := by
  induction remaining generalizing offset maps with
  | zero =>
      refine ⟨_, rfl, rfl, le_rfl, le_rfl, ?_, ?_, fun _ => rfl⟩
      · intro reading after before
        exact absurd before (Nat.not_lt.mpr after)
      · intro hit
        cases hit
  | succ remaining induction =>
      by_cases spent : config.timeBudget ≤ elapsed offset
      · refine ⟨⟨offset, [], elapsed (offset + 1), true⟩, if_pos spent, rfl,
          le_rfl, Nat.le_add_right _ _, ?_, fun _ => spent, ?_⟩
        · intro reading after before
          exact absurd before (Nat.not_lt.mpr after)
        · intro unspent
          cases unspent
      · have within : elapsed offset < config.timeBudget :=
          Nat.lt_of_not_le spent
        let harness : SimHarness StdRng RelayChainProof := .new rand
          (SimConfig.default.withSeed
            (config.startSeed + UInt64.ofNat offset)) maps
        obtain ⟨⟨report, after⟩, ran⟩ :
            ∃ ended, harness.run
              (adversaries rand crates display iteration fuel) = some ended :=
          run_ends binds permutes diverse fun _ listed => listed
        obtain ⟨clean, _⟩ :=
          run_defended binds permutes (fun _ listed => listed) ran
        obtain ⟨sweep, swept, ok, lower, upper, before, hit, whole⟩ :=
          induction (offset + 1) after.ctx.maps
        refine ⟨sweep, ?_, ok, by omega, by omega, ?_, hit, ?_⟩
        · rw [sweepFrom, if_neg spent]
          refine Option.bind_eq_some_iff.mpr ⟨_, ran, ?_⟩
          dsimp only
          rwa [if_pos clean]
        · intro reading first last
          rcases Nat.eq_or_lt_of_le first with rfl | later
          · exact within
          · exact before reading later last
        · intro unspent
          rw [whole unspent]
          omega

variable (display iteration) in
/-- The engine's defences hold against the adversarial agents for every seed,
in every order of the agents and of the hash maps, and a sweep reports no
failure: it runs every seed unless the time budget stops it. -/
theorem sweep_defended :
    (∀ config maps agents report,
      ∀ after : SimHarness StdRng RelayChainProof,
      (∀ agent ∈ agents,
        agent ∈ adversaries rand crates display iteration fuel) →
      (SimHarness.new rand config maps).run agents = some (report, after) →
      report.ok = true ∧
        report.agentSummaries.map Prod.fst =
          agents.map AdversarialAgent.name) ∧
    (rand.Diverse fuel → ∀ config elapsed maps,
      ∃ report, runAdversarialSweep rand crates display iteration fuel config
          elapsed maps = some report ∧
        report.ok = true ∧
        report.seedsRun ≤ config.maxSeeds.toNat ∧
        (∀ reading < report.seedsRun,
          elapsed reading < config.timeBudget) ∧
        (if report.hitBudget then
          config.timeBudget ≤ elapsed report.seedsRun
        else
          report.seedsRun = config.maxSeeds.toNat)) := by
  refine ⟨fun config maps agents report after listed ran =>
    run_defended binds permutes listed ran, ?_⟩
  intro diverse config elapsed maps
  obtain ⟨report, swept, ok, _, upper, within, hit, whole⟩ :=
    sweepFrom_clean binds permutes diverse config.maxSeeds.toNat 0 maps
  rw [Nat.zero_add] at upper whole
  refine ⟨report, swept, ok, upper,
    fun reading => within reading (Nat.zero_le _), ?_⟩
  split
  · rename_i spent
    exact hit spent
  · rename_i unspent
    exact whole (eq_false_of_ne_true unspent)

end

/-! A generator that counts, and proofs that name what was signed. -/

def countedId (n : Nat) : Bytes32 :=
  Vector.ofFn fun i => if i.val = 31 then UInt8.ofNat n else 0

def countingRand : RandCrate Nat where
  seedFromU64 seed := seed.toNat
  fillBytes n := (countedId n, n + 1)
  shuffle slots n := (slots.reverse, n + 1)

/-- `signed` is the transaction, the hash and the sequence that were signed. -/
structure SimProof where
  signer : Bytes32
  signed : Bytes32 × Bytes32 × UInt64
  sequence : UInt64
  chainHash : Bytes32
  signature : Vector UInt8 64

def sampleSigningCrates : SigningCrates SimProof Bytes32 Bytes32 where
  sequence := SimProof.sequence
  fromBytes := some
  verify proof key txId := decide (proof.signer = key) &&
    decide (proof.signed = (txId, proof.chainHash, proof.sequence)) &&
    decide (proof.signature = Vector.replicate 64 1)
  signingKey := id
  verifyingKey := id
  sign key txId chainHash sequence :=
    ⟨key, (txId, chainHash, sequence), sequence, chainHash,
      Vector.replicate 64 1⟩
  signature := SimProof.signature
  withSignature proof signature := { proof with signature := signature }
  chainHash := SimProof.chainHash
  withChainHash proof chainHash := { proof with chainHash := chainHash }

theorem sampleSigningCrates_binds : sampleSigningCrates.Binds := by
  intro key txId chainHash sequence verifyingKey otherTxId _ verified
  have both := (Bool.and_eq_true _ _).mp verified
  have signed := of_decide_eq_true ((Bool.and_eq_true _ _).mp both.1).2
  exact (Prod.mk.inj signed).1.symm

theorem countedId_ne {m n : Nat} (differ : m % 256 ≠ n % 256) :
    countedId m ≠ countedId n := by
  intro same
  have last := congrArg (fun id : Bytes32 => id[31].toNat) same
  simp [countedId] at last
  exact differ last

theorem countingRand_diverse : countingRand.Diverse 3 where
  masked := by
    intro rng same
    have first := congrArg (fun id : Bytes32 => id[0]) same
    simp [ForgedProofAgent.messageId, countingRand, countedId] at first
  fresh := by
    intro ids few rng
    -- three fills differ, and fewer ids are taken
    have unlisted : countedId rng ∉ ids ∨ countedId (rng + 1) ∉ ids ∨
        countedId (rng + 2) ∉ ids := by
      by_contra! taken
      have distinct :
          [countedId rng, countedId (rng + 1), countedId (rng + 2)].Nodup := by
        have first := @countedId_ne rng (rng + 1) (by omega)
        have second := @countedId_ne rng (rng + 2) (by omega)
        have third := @countedId_ne (rng + 1) (rng + 2) (by omega)
        simp [first, second, third]
      have within := (List.subperm_of_subset distinct
        (by simp [taken] : _ ⊆ ids)).length_le
      simp only [List.length_cons, List.length_nil] at within
      omega
    have first : countingRand.fillBytes rng = (countedId rng, rng + 1) := rfl
    have second : countingRand.fillBytes (rng + 1) =
        (countedId (rng + 1), rng + 2) := rfl
    have third : countingRand.fillBytes (rng + 2) =
        (countedId (rng + 2), rng + 3) := rfl
    simp only [RaceAgent.freshId, first, second, third, List.contains_iff_mem]
    rcases unlisted with free | free | free
    · exact ⟨_, if_neg free⟩
    · rw [if_neg free, ← apply_ite some]
      exact ⟨_, rfl⟩
    · rw [if_neg free, ← apply_ite some, ← apply_ite some]
      exact ⟨_, rfl⟩

theorem sweep_defended_two :
    ∃ iteration report, runAdversarialSweep countingRand sampleSigningCrates
        (fun _ => "") iteration 3 ⟨5, 2, 30⟩ (fun _ => 0) 0 = some report ∧
      report.ok = true ∧ report.seedsRun = 2 := by
  obtain ⟨iteration⟩ : Nonempty
    (Nat → HashMap.Iteration (String × Int64) (List Bytes32)) := inferInstance
  obtain ⟨report, swept, ok, _, _, ended⟩ :=
    (sweep_defended (fun _ => "") iteration sampleSigningCrates_binds
      (fun slots _ => List.reverse_perm slots)).2
      countingRand_diverse ⟨5, 2, 30⟩ (fun _ => 0) 0
  refine ⟨iteration, report, swept, ok, ?_⟩
  split at ended
  · exact absurd ended (by decide)
  · exact ended

end StellarConduit
