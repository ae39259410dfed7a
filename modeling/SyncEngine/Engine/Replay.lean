import SyncEngine.Engine.Run

namespace StellarConduit

open Data

/-! Runs on concrete calls can be computed. The functions of foreign crates are
given by their values at what such a run hands to them. -/

instance (call : Call) (device : Device) : Decidable (call.Admissible device) :=
  match call with
  | .openPath scans _ =>
      decidable_of_iff
        (scans.reservations.toFinmap = device.db.sequenceReservations ∧
          scans.envelopes.toFinmap = device.db.queuedEnvelopes)
        ⟨fun ⟨reservations, envelopes⟩ => ⟨reservations, envelopes⟩,
          fun ⟨reservations, envelopes⟩ => ⟨reservations, envelopes⟩⟩
  | .drop => .isTrue trivial
  | .seedAccount _ _ _ => .isTrue trivial
  | .queuePayment _ _ _ _ => .isTrue trivial
  | .nextToDispatch _ _ => .isTrue trivial
  | .markSettlement _ _ _ _ => .isTrue trivial

section

variable (crates : Crates) (file : DatabaseFile)
  (guard : List Label → Device → Label → Prop)
  [∀ trace device label, Decidable (guard trace device label)]

/-- Perform `calls` one after the other, as far as the guard admits each. -/
def replay (trace : List Label) (device : Device) :
    List Call → Option (List Label × Device)
  | [] => some (trace, device)
  | call :: rest =>
      if call.Admissible device then
        match device.perform crates file call with
        | none => none
        | some (reply, after) =>
            if guard trace device ⟨call, reply⟩ then
              replay (trace ++ [⟨call, reply⟩]) after rest
            else
              none
      else
        none

variable {crates file guard}

theorem replay_run {calls : List Call} {trace whole : List Label}
    {device last : Device}
    (run : (fileEngine crates file).RunUnder guard trace device)
    (replayed : replay crates file guard trace device calls =
      some (whole, last)) :
    (fileEngine crates file).RunUnder guard whole last := by
  induction calls generalizing trace device with
  | nil =>
      obtain ⟨rfl, rfl⟩ := Prod.mk.inj (Option.some_inj.mp replayed)
      exact run
  | cons call rest induction =>
      rw [replay] at replayed
      split at replayed
      · rename_i admissible
        split at replayed
        · simp at replayed
        · rename_i reply after performed
          split at replayed
          · rename_i guarded
            exact induction (.snoc run ⟨admissible, performed⟩ guarded)
              replayed
          · simp at replayed
      · simp at replayed

variable (crates file guard) in
/-- What a replay from the empty database ends in is reached by a run. -/
theorem exists_run (reached : List Label → Device → Prop)
    [∀ trace device, Decidable (reached trace device)] (calls : List Call)
    (replayed : (replay crates file guard [] ⟨.empty, none⟩ calls).any
      (fun result => reached result.1 result.2) = true) :
    ∃ trace device,
      (fileEngine crates file).RunUnder guard trace device ∧
        reached trace device := by
  obtain ⟨⟨trace, device⟩, found, holds⟩ :=
    (Option.any_eq_true _ _).mp replayed
  exact ⟨trace, device, replay_run (.start rfl) found, of_decide_eq_true holds⟩

variable (crates file guard) in
theorem exists_step (reached : List Label → Device → Label → Device → Prop)
    [∀ trace device label after, Decidable (reached trace device label after)]
    (calls : List Call) (call : Call)
    (replayed : (replay crates file guard [] ⟨.empty, none⟩ calls).any
      (fun result => call.Admissible result.2 ∧
        (result.2.perform crates file call).any fun outcome =>
          reached result.1 result.2 ⟨call, outcome.1⟩ outcome.2) = true) :
    ∃ trace device label after,
      (fileEngine crates file).RunUnder guard trace device ∧
        (fileEngine crates file).step device label after ∧
        reached trace device label after := by
  obtain ⟨⟨trace, device⟩, found, holds⟩ :=
    (Option.any_eq_true _ _).mp replayed
  obtain ⟨admissible, performs⟩ := of_decide_eq_true holds
  obtain ⟨⟨reply, after⟩, performed, holds⟩ :=
    (Option.any_eq_true _ _).mp performs
  exact ⟨trace, device, ⟨call, reply⟩, after, replay_run (.start rfl) found,
    ⟨admissible, performed⟩, of_decide_eq_true holds⟩

end

/-! The account and the four transactions of the repository's restart tests,
signed with the key of a fixed seed. -/

namespace Sample

/-- The bytes of a number, most significant first. -/
def bytesOf (width value : Nat) : Bytes :=
  (List.range width).map fun position =>
    (value / 256 ^ (width - 1 - position)).toUInt8

def account : String :=
  "GBKVKVKVKVKVKVKVKVKVKVKVKVKVKVKVKVKVKVKVKVKVKVKVKVKVKK3J"

def accountKey : Bytes32 := Vector.replicate 32 0x55

/-- The base64 of a transaction, but for the two digits in which its sequence
number shows. -/
def txXdr (digits : String) : String :=
  "AAAAAgAAAABVVVVVVVVVVVVVVVVVVVVVVVVVVVVVVVVVVVVVVVVVVQAAAGQAAAAAAAAA" ++
    digits ++
    "AAAAAAAAABAAAADHJlc3RhcnQtdGVzdAAAAAEAAAAAAAAAAQAAAACqqqqqqqqqqqqqqqqq" ++
    "qqqqqqqqqqqqqqqqqqqqqqqqqgAAAAAAAAAABfXhAAAAAAAAAAABAAAAAAAAAEAAAAAAAAA" ++
    "AAAAAAAAAAAAAAAAAAAAAAAAAAAAAAAAAAAAAAAAAAAAAAAAAAAAAAAAAAAAAAAAAAAAAAA" ++
    "AAAAAA"

def transaction (sequence : Int64) : Xdr.TransactionEnvelope :=
  .tx {
    tx := {
      sourceAccount := .ed25519 accountKey
      seqNum := sequence
      otherFields := bytesOf 4 100 ++
        bytesOf 24 0x00000000000000010000000c726573746172742d74657374 ++
        bytesOf 16 0x00000001000000000000000100000000 ++
        List.replicate 32 0xaa ++
        bytesOf 16 0x000000000000000005f5e10000000000 }
    signatures := bytesOf 12 0x000000010000000000000040 ++
      List.replicate 64 0 }

def fromXdrBase64 (text : String) : Except String Xdr.TransactionEnvelope :=
  if text = txXdr "AQ" then .ok (transaction 1)
  else if text = txXdr "Ag" then .ok (transaction 2)
  else if text = txXdr "Aw" then .ok (transaction 3)
  else if text = txXdr "BA" then .ok (transaction 4)
  else .error "Invalid"

def signingKey : SigningKey := ⟨Vector.replicate 32 0x55⟩

def verifyingKey (_ : SigningKey) : Bytes32 :=
  Vector.ofFn fun position => ((bytesOf 32
    0xc6822637c7d310ec57627be00ba259d253749f4aaf644470cffbe53a35f73242)[
      position.val]?).getD 0

def request (digits : String) : PaymentRequest where
  sourceAccount := account
  signingKey := signingKey
  txXdr := txXdr digits
  priority := .normal
  ttlHops := 10

def stamp (number : UInt8) : EnvelopeStamp where
  messageId := Vector.replicate 32 number
  timestamp := 1000
  signature := Vector.replicate 64 number

def envelope (digits : String) (number : UInt8) : TransactionEnvelope :=
  EnvelopeBuilder.build (verifyingKey signingKey) (txXdr digits) 10
    (stamp number)

def toVec (value : TransactionEnvelope) : Except SyncEngineError Bytes :=
  if value = envelope "AQ" 1 then .ok [1]
  else if value = envelope "Ag" 2 then .ok [2]
  else if value = envelope "Aw" 3 then .ok [3]
  else if value = envelope "BA" 4 then .ok [4]
  else if value = envelope "AQ" 5 then .ok [5]
  else .error .serializationError

def fromSlice (bytes : Bytes) : Except SyncEngineError TransactionEnvelope :=
  match bytes with
  | [1] => .ok (envelope "AQ" 1)
  | [2] => .ok (envelope "Ag" 2)
  | [3] => .ok (envelope "Aw" 3)
  | [4] => .ok (envelope "BA" 4)
  | [5] => .ok (envelope "AQ" 5)
  | _ => .error .deserializationError

theorem fromSlice_toVec (value : TransactionEnvelope) (bytes : Bytes)
    (encoded : toVec value = .ok bytes) : fromSlice bytes = .ok value := by
  unfold toVec at encoded
  repeat' split at encoded
  all_goals simp_all [fromSlice]
  all_goals (obtain rfl := encoded; rfl)

def crates : Crates where
  fromXdrBase64 := fromXdrBase64
  strkey key := if key = accountKey then account else ""
  verifyingKey := verifyingKey
  detachedSign _ _ := []
  rmpSerde := ⟨toVec, fromSlice, fromSlice_toVec⟩

def file : DatabaseFile := ⟨"syncengine.sqlite3", by decide⟩

def openEmpty : Call := .openPath ⟨∅, ∅⟩ .served

/-- The row of the payment `number`, which takes the sequence number
`number`. -/
def row (number : UInt8) (enqueuedAt : Int64) :
    Sigma fun _ : Bytes => QueuedEnvelopeColumns :=
  ⟨(stamp number).messageId.toVec, {
    sourceAccount := account
    sequence := number.toUInt64.toInt64
    priority := 1
    enqueuedAt := enqueuedAt
    envelopeBytes := [number] }⟩

def reopen (lastReserved : Int64)
    (rows : List (Sigma fun _ : Bytes => QueuedEnvelopeColumns))
    (distinct : rows.keys.Nodup) : Call :=
  .openPath ⟨⟨[⟨account, lastReserved⟩], List.nodupKeys_singleton _⟩,
    ⟨rows, distinct⟩⟩ .served

end Sample

end StellarConduit
