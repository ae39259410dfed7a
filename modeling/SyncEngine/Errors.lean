import Mathlib.Data.Vector.Basic

namespace StellarConduit

abbrev Bytes := List UInt8

abbrev Bytes32 := Vector UInt8 32

/-- `bytes.to_vec()` -/
def Bytes32.toVec (bytes : Bytes32) : Bytes := bytes.toList

theorem Bytes32.toVec_injective {first second : Bytes32}
    (same : first.toVec = second.toVec) : first = second :=
  Vector.toList_inj.mp same

@[simp] theorem Bytes32.toVec_inj {first second : Bytes32} :
    first.toVec = second.toVec ↔ first = second :=
  ⟨toVec_injective, congrArg toVec⟩

theorem Bytes32.toVec_ne {first second : Bytes32} (differ : first ≠ second) :
    first.toVec ≠ second.toVec :=
  fun same => differ (toVec_injective same)

def hexEncode (bytes : Bytes32) : String :=
  String.ofList (bytes.toList.flatMap fun byte =>
    [(byte.toNat / 16).digitChar, (byte.toNat % 16).digitChar])

/-- The errors of the crate. The foreign errors that some variants wrap are
never inspected, so they carry no payload here. -/
inductive SyncEngineError
  | noSequenceReserved (account : String)
  | sequenceOutOfOrder (account : String) (requested lastReserved : Int64)
  | invalidEnvelope (reason : String)
  | xdrParse (reason : String)
  | sourceAccountMismatch (claimed actual : String)
  | sequenceMismatch (account : String) (reserved actual : Int64)
  | envelopeNotFound (messageId : String)
  | invalidStateTransition (source target : String)
  | backpressureWindowFull (maxInFlight : Nat)
  | duplicateInFlight
  | invalidDispatchWindow (reason : String)
  | unresolvedConflict (reason : String)
  | emergencyQueueLimitExceeded (current max : Nat) (windowSecs : UInt64)
  | unknownMultisigSigner (account : String)
  | multisigThresholdNotMet (account : String)
      (accumulatedWeight requiredThreshold : UInt32)
  | connectionError
  | sqliteError
  | serializationError
  | deserializationError
  | pqVerificationFailed
  | encryptionError (reason : String)
  | encryptionKeyMismatch
  | decryptionFailed
  | importTargetNotEmpty
  | incompatibleSnapshotSchemaVersion (found expected : UInt32)
  deriving DecidableEq, Repr

/-- What a caller should do about an error: give up, try again, or ask for
help. -/
inductive ErrorClass
  | permanent
  | transient
  | requiresEscalation
  deriving DecidableEq, Repr

def SyncEngineError.classify : SyncEngineError → ErrorClass
  | .noSequenceReserved _ => .permanent
  | .sequenceOutOfOrder _ _ _ => .permanent
  | .invalidEnvelope _ => .permanent
  | .xdrParse _ => .permanent
  | .sourceAccountMismatch _ _ => .permanent
  | .sequenceMismatch _ _ _ => .permanent
  | .envelopeNotFound _ => .permanent
  | .invalidStateTransition _ _ => .permanent
  | .backpressureWindowFull _ => .transient
  | .duplicateInFlight => .permanent
  | .invalidDispatchWindow _ => .permanent
  | .unknownMultisigSigner _ => .permanent
  | .multisigThresholdNotMet _ _ _ => .permanent
  | .serializationError => .permanent
  | .deserializationError => .permanent
  | .pqVerificationFailed => .permanent
  | .encryptionError _ => .permanent
  | .encryptionKeyMismatch => .permanent
  | .decryptionFailed => .permanent
  | .importTargetNotEmpty => .permanent
  | .incompatibleSnapshotSchemaVersion _ _ => .permanent
  | .unresolvedConflict _ => .requiresEscalation
  | .emergencyQueueLimitExceeded _ _ _ => .requiresEscalation
  | .connectionError => .transient
  | .sqliteError => .transient

end StellarConduit
