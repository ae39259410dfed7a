import SyncEngine.Errors

namespace StellarConduit

/-! Types of the third-party crates the engine is built on, and the functions
of theirs that it calls. The functions are a parameter of everything above. -/

/-- The mesh envelope of `stellarconduit_core`. -/
structure TransactionEnvelope where
  messageId : Bytes32
  originPubkey : Bytes32
  txXdr : String
  ttlHops : UInt8
  timestamp : UInt64
  signature : Vector UInt8 64
  deriving DecidableEq

/-- What `EnvelopeBuilder::build` adds of its own: the identifier it computes,
the time it reads and the signature it makes. -/
structure EnvelopeStamp where
  messageId : Bytes32
  timestamp : UInt64
  signature : Vector UInt8 64
  deriving DecidableEq

/-- `EnvelopeBuilder::new(origin_pubkey, tx_xdr).ttl(ttl_hops).build(key)` -/
def EnvelopeBuilder.build (originPubkey : Bytes32) (txXdr : String)
    (ttlHops : UInt8) (stamp : EnvelopeStamp) : TransactionEnvelope where
  messageId := stamp.messageId
  originPubkey := originPubkey
  txXdr := txXdr
  ttlHops := ttlHops
  timestamp := stamp.timestamp
  signature := stamp.signature

structure SigningKey where
  secret : Bytes32
  deriving DecidableEq

inductive SigningPolicy
  | classicalOnly
  | hybrid (publicKey secretKey : Bytes)

structure HybridSignedEnvelope where
  classicalEnvelope : TransactionEnvelope
  pqSignature : Option Bytes
  pqPublicKey : Option Bytes

def HybridSignedEnvelope.canonicalPayload (envelope : HybridSignedEnvelope) :
    Bytes :=
  envelope.classicalEnvelope.originPubkey.toVec ++
    envelope.classicalEnvelope.txXdr.toUTF8.toList

/-! The transaction types of `stellar_xdr`. The fields that the crate neither
reads nor writes stay in their XDR encoding. -/

namespace Xdr

inductive MuxedAccount
  | ed25519 (key : Bytes32)
  | muxedEd25519 (id : UInt64) (key : Bytes32)
  deriving DecidableEq

structure Transaction where
  sourceAccount : MuxedAccount
  seqNum : Int64
  otherFields : Bytes
  deriving DecidableEq

structure TransactionV0 where
  sourceAccountEd25519 : Bytes32
  seqNum : Int64
  otherFields : Bytes
  deriving DecidableEq

structure TransactionV1Envelope where
  tx : Transaction
  signatures : Bytes
  deriving DecidableEq

structure TransactionV0Envelope where
  tx : TransactionV0
  signatures : Bytes
  deriving DecidableEq

/-- A fee bump wraps a V1 envelope, the only inner variant there is. -/
structure FeeBumpTransactionEnvelope where
  feeSource : MuxedAccount
  innerTx : TransactionV1Envelope
  otherFields : Bytes
  signatures : Bytes
  deriving DecidableEq

inductive TransactionEnvelope
  | txV0 (envelope : TransactionV0Envelope)
  | tx (envelope : TransactionV1Envelope)
  | txFeeBump (envelope : FeeBumpTransactionEnvelope)
  deriving DecidableEq

end Xdr

/-- `rmp_serde` at one type. It decodes what it encoded. -/
structure RmpSerde (α : Type) where
  toVec : α → Except SyncEngineError Bytes
  fromSlice : Bytes → Except SyncEngineError α
  fromSlice_toVec : ∀ value bytes,
    toVec value = .ok bytes → fromSlice bytes = .ok value

structure Crates where
  /-- `stellar_xdr`: `TransactionEnvelope::from_xdr_base64`, with the text of
  its error. -/
  fromXdrBase64 : String → Except String Xdr.TransactionEnvelope
  /-- `stellar_xdr`: `PublicKey::to_string`, the `G...` form of a key. -/
  strkey : Bytes32 → String
  /-- `ed25519_dalek`: `signing_key.verifying_key().to_bytes()`. -/
  verifyingKey : SigningKey → Bytes32
  /-- `pqcrypto_dilithium`: `detached_sign(payload, secret_key)`. -/
  detachedSign : Bytes → Bytes → Bytes
  rmpSerde : RmpSerde TransactionEnvelope

end StellarConduit
