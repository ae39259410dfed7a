import SyncEngine.Conflict.Detector
import SyncEngine.Conflict.Resolver
import SyncEngine.Data.BTreeMap

namespace StellarConduit

open Data

/-! The trace of a simulated run and the devices that its agents act on. -/

structure TraceEvent where
  atSecs : UInt64
  source : String
  kind : String
  detail : String
  deriving DecidableEq

structure Trace where
  events : List TraceEvent
  failure : Option String
  deriving DecidableEq

namespace Trace

def empty : Trace := ⟨[], none⟩

def record (trace : Trace) (atSecs : UInt64) (source kind detail : String) :
    Trace :=
  { trace with events := trace.events ++ [⟨atSecs, source, kind, detail⟩] }

def fail (trace : Trace) (message : String) : Trace :=
  { trace with failure := some message }

def ok (trace : Trace) : Bool := trace.failure.isNone

@[simp] theorem failure_record (trace : Trace) (atSecs : UInt64)
    (source kind detail : String) :
    (trace.record atSecs source kind detail).failure = trace.failure := rfl

end Trace

abbrev StringMap (ν : Type) := BTreeMap (fun key : String => key) ν

structure SimDevice (RelayChainProof : Type) where
  id : String
  slots : List QueuedSlot
  observations : StringMap (List (RelayObservation RelayChainProof))

structure SimWorld (RelayChainProof : Type) where
  devices : StringMap (SimDevice RelayChainProof)
  account : String
  sequence : Int64
  observationTtlSecs : UInt64
  observationAcceptedAt : StringMap UInt64

namespace SimWorld

variable {RelayChainProof : Type} (world : SimWorld RelayChainProof)

def new (account : String) (sequence : Int64) : SimWorld RelayChainProof :=
  ⟨∅, account, sequence, 60, ∅⟩

/-- What is done to the device that `ensure_device` hands out. -/
def ensureDevice (id : String)
    (update : SimDevice RelayChainProof → SimDevice RelayChainProof) :
    SimWorld RelayChainProof :=
  let device := (world.devices.lookup id).getD ⟨id, [], ∅⟩
  { world with devices := world.devices.insert id (update device) }

def mergedSlots : List QueuedSlot :=
  ((world.devices.values.flatMap SimDevice.slots).foldl
    (fun byId slot => byId.orInsert slot.messageId slot)
    (∅ : BTreeMap Bytes32.rank QueuedSlot)).values

variable {world}

/-- No slot is lost where every slot has an id of its own. -/
theorem mem_mergedSlots
    (determined : ∀ first ∈ world.devices.values.flatMap SimDevice.slots,
      ∀ second ∈ world.devices.values.flatMap SimDevice.slots,
        first.messageId = second.messageId → first = second)
    (slot : QueuedSlot) :
    slot ∈ world.mergedSlots ↔
      slot ∈ world.devices.values.flatMap SimDevice.slots :=
  BTreeMap.mem_values_foldl_orInsert Bytes32.rank_injective determined

theorem mem_ensureDevice {id : String}
    {update : SimDevice RelayChainProof → SimDevice RelayChainProof}
    {entry : String × SimDevice RelayChainProof} :
    entry ∈ (world.ensureDevice id update).devices.entries ↔
      entry = (id, update ((world.devices.lookup id).getD ⟨id, [], ∅⟩)) ∨
        entry ∈ world.devices.entries ∧ entry.1 ≠ id :=
  BTreeMap.mem_insert Function.injective_id

/-- The devices that the race agent splits the slots over. -/
def raceDevices : List String := ["race-0", "race-1"]

/-- No device outside the race holds a slot. -/
def RaceOnly (world : SimWorld RelayChainProof) : Prop :=
  ∀ entry ∈ world.devices.entries,
    entry.1 ∉ raceDevices → entry.2.slots = []

theorem raceOnly_new (account : String) (sequence : Int64) :
    RaceOnly (new account sequence : SimWorld RelayChainProof) := by
  intro entry member
  simp [new] at member

theorem RaceOnly.ensureDevice (raceOnly : world.RaceOnly) {id : String}
    {update : SimDevice RelayChainProof → SimDevice RelayChainProof}
    (kept : id ∉ raceDevices →
      ∀ device, (update device).slots = device.slots) :
    (world.ensureDevice id update).RaceOnly := by
  intro entry member outside
  rcases mem_ensureDevice.mp member with rfl | ⟨held, _⟩
  · rw [kept outside]
    cases found : world.devices.lookup id with
    | none => rfl
    | some device =>
        exact raceOnly (id, device) (BTreeMap.lookup_eq_some.mp found) outside
  · exact raceOnly entry held outside

/-- With the slots split over the devices of the race there are no others. -/
theorem RaceOnly.mem_split (raceOnly : world.RaceOnly)
    (first slot : QueuedSlot) (rest : List QueuedSlot) :
    slot ∈ ((world.ensureDevice "race-0" fun device =>
        { device with slots := [first] }).ensureDevice "race-1" fun device =>
          { device with slots := rest }).devices.values.flatMap
            SimDevice.slots ↔
      slot ∈ first :: rest := by
  rw [List.mem_flatMap, List.mem_cons]
  constructor
  · rintro ⟨device, listed, held⟩
    obtain ⟨entry, member, rfl⟩ := List.mem_map.mp listed
    rcases mem_ensureDevice.mp member with rfl | ⟨earlier, notSecond⟩
    · exact Or.inr held
    · rcases mem_ensureDevice.mp earlier with rfl | ⟨other, notFirst⟩
      · exact Or.inl (List.mem_singleton.mp held)
      · have outside : entry.1 ∉ raceDevices := by
          simp [raceDevices, notFirst, notSecond]
        rw [raceOnly entry other outside] at held
        cases held
  · have apart : "race-0" ≠ "race-1" := by decide
    rintro (rfl | inRest)
    · exact ⟨_, List.mem_map_of_mem (mem_ensureDevice.mpr
        (Or.inr ⟨mem_ensureDevice.mpr (Or.inl rfl), apart⟩)),
        List.mem_singleton_self slot⟩
    · exact ⟨_, List.mem_map_of_mem (mem_ensureDevice.mpr (Or.inl rfl)),
        inRest⟩

end SimWorld

end StellarConduit
