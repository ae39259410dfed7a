import Mathlib.Tactic.Ring
import SyncEngine.Envelope.Builder

namespace StellarConduit

namespace Xdr

/-- A transaction whose sequence number is written. -/
def TransactionEnvelope.withSeqNum (newSequence : Int64) :
    TransactionEnvelope → TransactionEnvelope
  | .tx env => .tx { env with tx := { env.tx with seqNum := newSequence } }
  | .txFeeBump env =>
      .txFeeBump { env with innerTx := { env.innerTx with
        tx := { env.innerTx.tx with seqNum := newSequence } } }
  | .txV0 env =>
      .txV0 { env with tx := { env.tx with seqNum := newSequence } }

/-- Two transactions of one shape that agree in every field but the sequence
number, the one of the inner transaction in a fee bump. -/
inductive SameButSeqNum : TransactionEnvelope → TransactionEnvelope → Prop
  | tx {before after : TransactionV1Envelope}
      (sourceAccount : after.tx.sourceAccount = before.tx.sourceAccount)
      (otherFields : after.tx.otherFields = before.tx.otherFields)
      (signatures : after.signatures = before.signatures) :
      SameButSeqNum (.tx before) (.tx after)
  | txFeeBump {before after : FeeBumpTransactionEnvelope}
      (feeSource : after.feeSource = before.feeSource)
      (sourceAccount : after.innerTx.tx.sourceAccount =
        before.innerTx.tx.sourceAccount)
      (innerOtherFields : after.innerTx.tx.otherFields =
        before.innerTx.tx.otherFields)
      (innerSignatures : after.innerTx.signatures =
        before.innerTx.signatures)
      (otherFields : after.otherFields = before.otherFields)
      (signatures : after.signatures = before.signatures) :
      SameButSeqNum (.txFeeBump before) (.txFeeBump after)
  | txV0 {before after : TransactionV0Envelope}
      (sourceAccount : after.tx.sourceAccountEd25519 =
        before.tx.sourceAccountEd25519)
      (otherFields : after.tx.otherFields = before.tx.otherFields)
      (signatures : after.signatures = before.signatures) :
      SameButSeqNum (.txV0 before) (.txV0 after)

end Xdr

namespace Crates

section Reader

variable (crates : Crates)

/-- What is read of a decoded transaction. -/
def sourceAccountAndSequence : Xdr.TransactionEnvelope → String × Int64
  | .tx env => (crates.muxedSourceStrkey env.tx.sourceAccount, env.tx.seqNum)
  | .txFeeBump env =>
      (crates.muxedSourceStrkey env.innerTx.tx.sourceAccount,
        env.innerTx.tx.seqNum)
  | .txV0 env =>
      (crates.ed25519ToStrkey env.tx.sourceAccountEd25519, env.tx.seqNum)

theorem extractSourceAccountAndSequence_eq (txXdr : String) :
    crates.extractSourceAccountAndSequence txXdr =
      match crates.fromXdrBase64 txXdr with
      | .error reason => .error (.xdrParse reason)
      | .ok envelope => .ok (crates.sourceAccountAndSequence envelope) := by
  rw [extractSourceAccountAndSequence]
  cases crates.fromXdrBase64 txXdr with
  | error reason => rfl
  | ok envelope =>
      cases envelope with
      | txV0 env => rfl
      | tx env => rfl
      | txFeeBump env => rfl

/-! The writer selects the field that the reader reads. -/

@[simp] theorem sourceAccountAndSequence_withSeqNum (newSequence : Int64)
    (envelope : Xdr.TransactionEnvelope) :
    crates.sourceAccountAndSequence (envelope.withSeqNum newSequence) =
      ((crates.sourceAccountAndSequence envelope).1, newSequence) := by
  cases envelope with
  | txV0 env => rfl
  | tx env => rfl
  | txFeeBump env => rfl

theorem withSeqNum_read (envelope : Xdr.TransactionEnvelope) :
    envelope.withSeqNum (crates.sourceAccountAndSequence envelope).2 =
      envelope := by
  cases envelope with
  | txV0 env => rfl
  | tx env => rfl
  | txFeeBump env => rfl

end Reader

@[simp] theorem withSeqNum_withSeqNum (first second : Int64)
    (envelope : Xdr.TransactionEnvelope) :
    (envelope.withSeqNum first).withSeqNum second =
      envelope.withSeqNum second := by
  cases envelope with
  | txV0 env => rfl
  | tx env => rfl
  | txFeeBump env => rfl

theorem sameButSeqNum_withSeqNum (newSequence : Int64)
    (envelope : Xdr.TransactionEnvelope) :
    Xdr.SameButSeqNum envelope (envelope.withSeqNum newSequence) := by
  cases envelope with
  | txV0 env => exact .txV0 rfl rfl rfl
  | tx env => exact .tx rfl rfl rfl
  | txFeeBump env => exact .txFeeBump rfl rfl rfl rfl rfl rfl

variable (crates : Crates)
  (toXdrBase64 : Xdr.TransactionEnvelope → Except String String)

def withUpdatedSequence (txXdr : String) (newSequence : Int64) :
    Except SyncEngineError String :=
  match crates.fromXdrBase64 txXdr with
  | .error reason => .error (.xdrParse reason)
  | .ok envelope =>
      match toXdrBase64 (envelope.withSeqNum newSequence) with
      | .error reason => .error (.xdrParse reason)
      | .ok updated => .ok updated

/-- The decoder inverts the encoder, and the encoder takes what the decoder
made, whatever its sequence number is. -/
structure XdrRoundTrip : Prop where
  decodes : ∀ envelope text, toXdrBase64 envelope = .ok text →
    crates.fromXdrBase64 text = .ok envelope
  encodes : ∀ text envelope, crates.fromXdrBase64 text = .ok envelope →
    ∀ sequence, ∃ updated,
      toXdrBase64 (envelope.withSeqNum sequence) = .ok updated

/-- A transaction is updated as one field of a record is. -/
structure LawfulUpdate (txXdr : String) : Prop where
  succeeds : ∀ newSequence,
    (∃ updated, crates.withUpdatedSequence toXdrBase64 txXdr newSequence =
        .ok updated) ↔
      ∃ read, crates.extractSourceAccountAndSequence txXdr = .ok read
  readsBack : ∀ newSequence updated account sequence,
    crates.withUpdatedSequence toXdrBase64 txXdr newSequence = .ok updated →
    crates.extractSourceAccountAndSequence txXdr = .ok (account, sequence) →
      crates.extractSourceAccountAndSequence updated =
        .ok (account, newSequence)
  overwrites : ∀ first second,
    (crates.withUpdatedSequence toXdrBase64 txXdr first).bind
        (crates.withUpdatedSequence toXdrBase64 · second) =
      crates.withUpdatedSequence toXdrBase64 txXdr second
  keeps : ∀ account sequence updated,
    crates.extractSourceAccountAndSequence txXdr = .ok (account, sequence) →
    crates.withUpdatedSequence toXdrBase64 txXdr sequence = .ok updated →
      crates.fromXdrBase64 updated = crates.fromXdrBase64 txXdr
  frame : ∀ newSequence updated,
    crates.withUpdatedSequence toXdrBase64 txXdr newSequence = .ok updated →
      ∃ before after, crates.fromXdrBase64 txXdr = .ok before ∧
        crates.fromXdrBase64 updated = .ok after ∧
        Xdr.SameButSeqNum before after

variable {crates} {toXdrBase64} {txXdr : String} {newSequence : Int64}

theorem extractSourceAccountAndSequence_ok
    {envelope : Xdr.TransactionEnvelope}
    (decoded : crates.fromXdrBase64 txXdr = .ok envelope) :
    crates.extractSourceAccountAndSequence txXdr =
      .ok (crates.sourceAccountAndSequence envelope) := by
  rw [extractSourceAccountAndSequence_eq, decoded]

theorem decoded_of_extract {read : String × Int64}
    (extracted : crates.extractSourceAccountAndSequence txXdr = .ok read) :
    ∃ envelope, crates.fromXdrBase64 txXdr = .ok envelope ∧
      read = crates.sourceAccountAndSequence envelope := by
  rw [extractSourceAccountAndSequence_eq] at extracted
  cases decoded : crates.fromXdrBase64 txXdr with
  | error reason =>
      rw [decoded] at extracted
      cases extracted
  | ok envelope =>
      rw [decoded] at extracted
      exact ⟨envelope, rfl, (Except.ok.inj extracted).symm⟩

namespace XdrRoundTrip

variable (roundTrip : crates.XdrRoundTrip toXdrBase64)
include roundTrip

theorem withUpdatedSequence_ok {envelope : Xdr.TransactionEnvelope}
    (decoded : crates.fromXdrBase64 txXdr = .ok envelope)
    (newSequence : Int64) :
    ∃ updated,
      crates.withUpdatedSequence toXdrBase64 txXdr newSequence =
          .ok updated ∧
        toXdrBase64 (envelope.withSeqNum newSequence) = .ok updated ∧
        crates.fromXdrBase64 updated =
          .ok (envelope.withSeqNum newSequence) := by
  obtain ⟨updated, encoded⟩ := roundTrip.encodes txXdr envelope decoded
    newSequence
  refine ⟨updated, ?_, encoded, roundTrip.decodes _ _ encoded⟩
  rw [withUpdatedSequence, decoded]
  simp only [encoded]

/-- What an update that succeeds has written. -/
theorem decoded_of_updated {updated : String}
    (written : crates.withUpdatedSequence toXdrBase64 txXdr newSequence =
      .ok updated) :
    ∃ envelope, crates.fromXdrBase64 txXdr = .ok envelope ∧
      crates.fromXdrBase64 updated =
        .ok (envelope.withSeqNum newSequence) := by
  cases decoded : crates.fromXdrBase64 txXdr with
  | error reason =>
      rw [withUpdatedSequence, decoded] at written
      cases written
  | ok envelope =>
      obtain ⟨text, writes, -, reads⟩ :=
        roundTrip.withUpdatedSequence_ok decoded newSequence
      rw [writes] at written
      obtain rfl := Except.ok.inj written
      exact ⟨envelope, rfl, reads⟩

theorem withUpdatedSequence_twice (first second : Int64) :
    (crates.withUpdatedSequence toXdrBase64 txXdr first).bind
        (crates.withUpdatedSequence toXdrBase64 · second) =
      crates.withUpdatedSequence toXdrBase64 txXdr second := by
  cases decoded : crates.fromXdrBase64 txXdr with
  | error reason =>
      rw [withUpdatedSequence, withUpdatedSequence, decoded]
      rfl
  | ok envelope =>
      obtain ⟨once, writesOnce, -, readsOnce⟩ :=
        roundTrip.withUpdatedSequence_ok decoded first
      obtain ⟨twice, writesTwice, encodesTwice, -⟩ :=
        roundTrip.withUpdatedSequence_ok readsOnce second
      obtain ⟨direct, writesDirect, encodesDirect, -⟩ :=
        roundTrip.withUpdatedSequence_ok decoded second
      rw [withSeqNum_withSeqNum, encodesDirect] at encodesTwice
      obtain rfl := Except.ok.inj encodesTwice
      rw [writesOnce, writesDirect]
      exact writesTwice

end XdrRoundTrip

/-- Resequencing writes the sequence number and nothing else. -/
theorem withUpdatedSequence_lawful
    (roundTrip : crates.XdrRoundTrip toXdrBase64) (txXdr : String) :
    crates.LawfulUpdate toXdrBase64 txXdr where
  succeeds := by
    intro newSequence
    constructor
    · rintro ⟨updated, written⟩
      obtain ⟨envelope, decoded, -⟩ := roundTrip.decoded_of_updated written
      exact ⟨_, extractSourceAccountAndSequence_ok decoded⟩
    · rintro ⟨read, extracted⟩
      obtain ⟨envelope, decoded, -⟩ := decoded_of_extract extracted
      obtain ⟨updated, written, -⟩ :=
        roundTrip.withUpdatedSequence_ok decoded newSequence
      exact ⟨updated, written⟩
  readsBack := by
    intro newSequence updated account sequence written extracted
    obtain ⟨envelope, decoded, rewritten⟩ :=
      roundTrip.decoded_of_updated written
    rw [extractSourceAccountAndSequence_ok decoded] at extracted
    rw [extractSourceAccountAndSequence_ok rewritten,
      sourceAccountAndSequence_withSeqNum, Except.ok.inj extracted]
  overwrites := roundTrip.withUpdatedSequence_twice
  keeps := by
    intro account sequence updated extracted written
    obtain ⟨envelope, decoded, rewritten⟩ :=
      roundTrip.decoded_of_updated written
    rw [extractSourceAccountAndSequence_ok decoded] at extracted
    have current : (crates.sourceAccountAndSequence envelope).2 = sequence :=
      congrArg Prod.snd (Except.ok.inj extracted)
    rw [rewritten, decoded, ← current, withSeqNum_read]
  frame := by
    intro newSequence updated written
    obtain ⟨envelope, decoded, rewritten⟩ :=
      roundTrip.decoded_of_updated written
    exact ⟨envelope, _, decoded, rewritten,
      sameButSeqNum_withSeqNum newSequence envelope⟩

end Crates

namespace OfflineEnvelopeBuilder

/-- `stamp` is what `EnvelopeBuilder::build` adds of its own. -/
def resequenceAndResign (crates : Crates)
    (toXdrBase64 : Xdr.TransactionEnvelope → Except String String)
    (oldEnvelope : TransactionEnvelope) (newSequence : Int64)
    (signingKey : SigningKey) (policy : SigningPolicy)
    (stamp : EnvelopeStamp) : Except SyncEngineError HybridSignedEnvelope :=
  match crates.withUpdatedSequence toXdrBase64 oldEnvelope.txXdr
      newSequence with
  | .error error => .error error
  | .ok newTxXdr => .ok (signHybrid crates policy (EnvelopeBuilder.build
      (crates.verifyingKey signingKey) newTxXdr oldEnvelope.ttlHops stamp))

/-- What is signed again is the old transaction at the new number. -/
theorem resequenceAndResign_reads {crates : Crates}
    {toXdrBase64 : Xdr.TransactionEnvelope → Except String String}
    (roundTrip : crates.XdrRoundTrip toXdrBase64)
    {oldEnvelope : TransactionEnvelope} {newSequence sequence : Int64}
    {signingKey : SigningKey} {policy : SigningPolicy}
    {stamp : EnvelopeStamp} {account : String}
    (extracted : crates.extractSourceAccountAndSequence oldEnvelope.txXdr =
      .ok (account, sequence)) :
    ∃ hybrid,
      resequenceAndResign crates toXdrBase64 oldEnvelope newSequence
          signingKey policy stamp = .ok hybrid ∧
        crates.extractSourceAccountAndSequence
            hybrid.classicalEnvelope.txXdr = .ok (account, newSequence) ∧
        hybrid.classicalEnvelope.ttlHops = oldEnvelope.ttlHops := by
  obtain ⟨envelope, decoded, read⟩ := Crates.decoded_of_extract extracted
  obtain ⟨updated, written, -, rewritten⟩ :=
    roundTrip.withUpdatedSequence_ok decoded newSequence
  rw [resequenceAndResign, written]
  refine ⟨_, rfl, ?_, ?_⟩
  · rw [signHybrid_classicalEnvelope]
    show crates.extractSourceAccountAndSequence updated = _
    rw [Crates.extractSourceAccountAndSequence_ok rewritten,
      Crates.sourceAccountAndSequence_withSeqNum, ← read]
  · rw [signHybrid_classicalEnvelope]
    rfl

end OfflineEnvelopeBuilder

/-! The V1 transaction of the repository's fixtures. The sequence number takes
twelve digits of its base64, with four bits of the field before it and four of
the one behind. -/

namespace Fixture

def source : String :=
  "GAIRCEIRCEIRCEIRCEIRCEIRCEIRCEIRCEIRCEIRCEIRCEIRCF6M"

def transaction (sequence : Int64) : Xdr.TransactionEnvelope :=
  .tx {
    tx := {
      sourceAccount := .ed25519 (Vector.replicate 32 0x11)
      seqNum := sequence
      otherFields := [0, 0, 0, 100] ++
        [0, 0, 0, 0, 0, 0, 0, 1, 0, 0, 0, 14] ++
        [0x73, 0x74, 0x65, 0x6c, 0x6c, 0x61, 0x72, 0x63, 0x6f, 0x6e, 0x64,
          0x75, 0x69, 0x74, 0, 0] ++
        [0, 0, 0, 1, 0, 0, 0, 0, 0, 0, 0, 1, 0, 0, 0, 0] ++
        List.replicate 32 0x22 ++
        [0, 0, 0, 0, 0, 0, 0, 0, 0x0e, 0xe6, 0xb2, 0x80, 0, 0, 0, 0] }
    signatures := [0, 0, 0, 1, 0xaa, 0xaa, 0xaa, 0xaa, 0, 0, 0, 0x40] ++
      List.replicate 64 0xbb }

def front : String :=
  "AAAAAgAAAAAREREREREREREREREREREREREREREREREREREREREREQAAAG"

def back : String :=
  "AAAAAAAAABAAAADnN0ZWxsYXJjb25kdWl0AAAAAAABAAAAAAAAAAEAAAAAIiIiIiIiIiIi" ++
    "IiIiIiIiIiIiIiIiIiIiIiIiIiIiIiIAAAAAAAAAAA7msoAAAAAAAAAAAaqqqqoAAABAu7" ++
    "u7u7u7u7u7u7u7u7u7u7u7u7u7u7u7u7u7u7u7u7u7u7u7u7u7u7u7u7u7u7u7u7u7u7u7" ++
    "u7u7u7u7u7u7uw=="

def alphabet : List Char :=
  "ABCDEFGHIJKLMNOPQRSTUVWXYZabcdefghijklmnopqrstuvwxyz0123456789+/".toList

def digit (value : Nat) : Char := alphabet.getD value 'A'

def digits (number : Nat) : List Char :=
  (List.range 12).reverse.map fun place => digit (number / 64 ^ place % 64)

def number (text : List Char) : Nat :=
  text.foldl (fun value symbol => value * 64 + alphabet.idxOf symbol) 0

def text (sequence : Int64) : String :=
  front ++ String.ofList (digits (4 * 2 ^ 68 +
    sequence.toUInt64.toNat * 16)) ++ back

def sequenceOf (text : String) : Int64 :=
  (UInt64.ofNat
    (number ((text.toList.drop 58).take 12) / 16 % 2 ^ 64)).toInt64

def fromXdrBase64 (input : String) : Except String Xdr.TransactionEnvelope :=
  if input = text (sequenceOf input) then
    .ok (transaction (sequenceOf input))
  else .error "Invalid"

def toXdrBase64 : Xdr.TransactionEnvelope → Except String String
  | .tx env =>
      if .tx env = transaction env.tx.seqNum then .ok (text env.tx.seqNum)
      else .error "Unsupported"
  | _ => .error "Unsupported"

/-- No envelope of the mesh is encoded here. -/
def toVec (_ : TransactionEnvelope) : Except SyncEngineError Bytes :=
  .error .serializationError

theorem toVec_ne_ok (value : TransactionEnvelope) (bytes : Bytes) :
    toVec value ≠ .ok bytes := by
  rw [toVec]
  exact nofun

def crates : Crates where
  fromXdrBase64 := fromXdrBase64
  strkey key := if key = Vector.replicate 32 0x11 then source else ""
  verifyingKey _ := Vector.replicate 32 0
  detachedSign _ _ := []
  rmpSerde := ⟨toVec, fun _ => .error .deserializationError,
    fun value bytes encoded => absurd encoded (toVec_ne_ok value bytes)⟩

theorem crates_fromXdrBase64 : crates.fromXdrBase64 = fromXdrBase64 := rfl

theorem idxOf_digit (value : Nat) : alphabet.idxOf (digit (value % 64)) =
    value % 64 := by
  have all : ∀ small : Fin 64, alphabet.idxOf (digit small) = small := by
    decide +kernel
  exact all ⟨value % 64, Nat.mod_lt _ (by decide)⟩

theorem foldl_digits (value places start : Nat) :
    ((List.range places).reverse.map fun place =>
        digit (value / 64 ^ place % 64)).foldl
          (fun value symbol => value * 64 + alphabet.idxOf symbol) start =
      start * 64 ^ places + value % 64 ^ places := by
  induction places generalizing start with
  | zero => simp [Nat.mod_one]
  | succ places induction =>
      rw [List.range_succ, List.reverse_append, List.reverse_singleton,
        List.singleton_append, List.map_cons, List.foldl_cons, induction,
        idxOf_digit, Nat.mod_pow_succ]
      ring

theorem number_digits {value : Nat} (bound : value < 64 ^ 12) :
    number (digits value) = value := by
  rw [number, digits, foldl_digits, Nat.mod_eq_of_lt bound, Nat.zero_mul,
    Nat.zero_add]

theorem sequenceOf_text (sequence : Int64) :
    sequenceOf (text sequence) = sequence := by
  have window : ((text sequence).toList.drop 58).take 12 =
      digits (4 * 2 ^ 68 + sequence.toUInt64.toNat * 16) := by
    have before : front.toList.length = 58 := by decide
    simp only [text, String.toList_append, String.toList_ofList,
      List.append_assoc]
    rw [← before, List.drop_left, List.take_left' (by simp [digits])]
  have bound := sequence.toUInt64.toNat_lt
  rw [sequenceOf, window, number_digits (by omega)]
  have recovered : (4 * 2 ^ 68 + sequence.toUInt64.toNat * 16) / 16 % 2 ^ 64 =
      sequence.toUInt64.toNat := by
    omega
  rw [recovered, UInt64.ofNat_toNat]
  rfl

theorem fromXdrBase64_text (sequence : Int64) :
    fromXdrBase64 (text sequence) = .ok (transaction sequence) := by
  rw [fromXdrBase64, sequenceOf_text, if_pos rfl]

theorem toXdrBase64_transaction (sequence : Int64) :
    toXdrBase64 (transaction sequence) = .ok (text sequence) := by
  rw [transaction, toXdrBase64]
  exact if_pos rfl

theorem withSeqNum_transaction (current sequence : Int64) :
    (transaction current).withSeqNum sequence = transaction sequence := by
  simp only [transaction, Xdr.TransactionEnvelope.withSeqNum]

theorem transaction_of_decoded {input : String}
    {envelope : Xdr.TransactionEnvelope}
    (decoded : fromXdrBase64 input = .ok envelope) :
    ∃ sequence, envelope = transaction sequence := by
  rw [fromXdrBase64] at decoded
  split at decoded
  · exact ⟨_, (Except.ok.inj decoded).symm⟩
  · cases decoded

theorem transaction_of_encoded {envelope : Xdr.TransactionEnvelope}
    {output : String} (encoded : toXdrBase64 envelope = .ok output) :
    ∃ sequence, envelope = transaction sequence := by
  cases envelope with
  | txV0 env => cases encoded
  | txFeeBump env => cases encoded
  | tx env =>
      rw [toXdrBase64] at encoded
      split at encoded
      · rename_i same
        exact ⟨_, same⟩
      · cases encoded

theorem roundTrip : crates.XdrRoundTrip toXdrBase64 where
  decodes := by
    intro envelope output encoded
    obtain ⟨sequence, rfl⟩ := transaction_of_encoded encoded
    rw [toXdrBase64_transaction] at encoded
    obtain rfl := Except.ok.inj encoded
    rw [crates_fromXdrBase64, fromXdrBase64_text]
  encodes := by
    intro input envelope decoded sequence
    rw [crates_fromXdrBase64] at decoded
    obtain ⟨current, rfl⟩ := transaction_of_decoded decoded
    rw [withSeqNum_transaction]
    exact ⟨text sequence, toXdrBase64_transaction sequence⟩

/-- The transaction of the fixture is moved five slots up. -/
theorem withUpdatedSequence_lawful_fixture :
    let txXdr := front ++ "QBcH2gMXaAAQ" ++ back
    crates.fromXdrBase64 txXdr = .ok (transaction 103720918407610369) ∧
      crates.withUpdatedSequence toXdrBase64 txXdr 103720918407610374 =
        .ok (front ++ "QBcH2gMXaABg" ++ back) ∧
      crates.LawfulUpdate toXdrBase64 txXdr := by
  intro txXdr
  have current : txXdr = text 103720918407610369 := by decide +kernel
  have next : text 103720918407610374 = front ++ "QBcH2gMXaABg" ++ back := by
    decide +kernel
  have decoded := fromXdrBase64_text 103720918407610369
  rw [← current, ← crates_fromXdrBase64] at decoded
  refine ⟨decoded, ?_, Crates.withUpdatedSequence_lawful roundTrip txXdr⟩
  have encoded := toXdrBase64_transaction 103720918407610374
  rw [Crates.withUpdatedSequence, decoded]
  simp only [withSeqNum_transaction, encoded, next]

end Fixture

end StellarConduit
