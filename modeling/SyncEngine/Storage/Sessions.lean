import SyncEngine.Data.Fallible
import SyncEngine.Data.Run
import SyncEngine.Encryption
import SyncEngine.Storage.Db

namespace StellarConduit

open Data

/-! Handles with and without a key. -/

namespace SyncEngineDb

/-- A handle as one call sees it: `nonce` is what that call generates if it
encrypts. -/
def withKey (cipher : Aes256Gcm) (encryptionKey : Option EncryptionKey)
    (nonce : EncryptionNonce) : SyncEngineDb where
  encryptIfEnabled plaintext :=
    match encryptionKey with
    | some key =>
        (EncryptedData.encrypt cipher plaintext key nonce).map
          EncryptedData.bytes
    | none => .ok plaintext
  decryptIfNeeded ciphertext :=
    match encryptionKey with
    | some key => EncryptedData.decrypt cipher ⟨ciphertext⟩ key
    | none => .ok ciphertext

def enqueueEnvelope (self : SyncEngineDb) (crates : Crates)
    (envelope : TransactionEnvelope) (sourceAccount : String)
    (sequence : Int64) (priority : TxPriority) (enqueuedAt : UInt64)
    (write : Write) (db : Database) :
    Outcome Database (Except SyncEngineError Unit) :=
  match crates.rmpSerde.toVec envelope with
  | .error error => .returned db (.error error)
  | .ok plaintext =>
      match self.encryptIfEnabled plaintext with
      | .error error => .returned db (.error error)
      | .ok envelopeBytes =>
          write.run .connectionError (fun db => .ok (db.replaceEnvelope
            envelope.messageId.toVec {
              sourceAccount := sourceAccount
              sequence := sequence
              priority := priority.toI64
              enqueuedAt := enqueuedAt.toInt64
              envelopeBytes := envelopeBytes })) db

def removeQueuedEnvelope (messageId : Bytes32) (write : Write)
    (db : Database) : Outcome Database (Except SyncEngineError Unit) :=
  write.run .connectionError (fun db => .ok { db with
    queuedEnvelopes := db.queuedEnvelopes.erase messageId.toVec }) db

end SyncEngineDb

/-- The row that a record is stored in, with its envelope as `envelopeBytes`. -/
def QueuedEnvelopeRecord.columns (record : QueuedEnvelopeRecord)
    (envelopeBytes : Bytes) : QueuedEnvelopeColumns where
  sourceAccount := record.sourceAccount
  sequence := record.sequence
  priority := record.priority.toI64
  enqueuedAt := record.enqueuedAt.toInt64
  envelopeBytes := envelopeBytes

namespace SyncEngineDb

/-- The bytes that a handle stores for an envelope, unless one of the two
crates fails on it. -/
def storedBytes (self : SyncEngineDb) (crates : Crates)
    (envelope : TransactionEnvelope) : Except SyncEngineError Bytes :=
  match crates.rmpSerde.toVec envelope with
  | .error error => .error error
  | .ok plaintext => self.encryptIfEnabled plaintext

/-- The table of envelopes after a call to enqueue `record`. -/
def enqueued (self : SyncEngineDb) (crates : Crates)
    (record : QueuedEnvelopeRecord) (write : Write)
    (table : HashMap Bytes QueuedEnvelopeColumns) :
    HashMap Bytes QueuedEnvelopeColumns :=
  match self.storedBytes crates record.envelope with
  | .error _ => table
  | .ok envelopeBytes =>
      if write.takesEffect then
        table.insert record.envelope.messageId.toVec
          (record.columns envelopeBytes)
      else table

/-- Both ways of enqueueing leave the same table. -/
theorem queuedEnvelopes_enqueueEnvelope (self : SyncEngineDb)
    (crates : Crates) (record : QueuedEnvelopeRecord) (write : Write)
    (db : Database) :
    (self.enqueueEnvelope crates record.envelope record.sourceAccount
        record.sequence record.priority record.enqueuedAt write
        db).durable.queuedEnvelopes =
      self.enqueued crates record write db.queuedEnvelopes := by
  unfold enqueueEnvelope enqueued storedBytes
  cases crates.rmpSerde.toVec record.envelope with
  | error error => rfl
  | ok plaintext =>
      dsimp only
      cases self.encryptIfEnabled plaintext with
      | error error => rfl
      | ok envelopeBytes => cases write <;> rfl

theorem queuedEnvelopes_enqueueTransaction (self : SyncEngineDb)
    (crates : Crates) (record : QueuedEnvelopeRecord) (write : Write)
    (db : Database) :
    (self.enqueueTransaction crates record.envelope record.sourceAccount
        record.sequence record.priority record.enqueuedAt write
        db).durable.queuedEnvelopes =
      self.enqueued crates record write db.queuedEnvelopes := by
  unfold enqueueTransaction enqueued storedBytes
  cases crates.rmpSerde.toVec record.envelope with
  | error error => rfl
  | ok plaintext =>
      dsimp only
      cases self.encryptIfEnabled plaintext with
      | error error => rfl
      | ok envelopeBytes => cases write <;> rfl

theorem queuedEnvelopes_removeQueuedEnvelope (messageId : Bytes32)
    (write : Write) (db : Database) :
    (removeQueuedEnvelope messageId write db).durable.queuedEnvelopes =
      if write.takesEffect then
        db.queuedEnvelopes.erase messageId.toVec
      else db.queuedEnvelopes := by
  cases write <;> rfl

end SyncEngineDb

/-! What a handle reads back. -/

/-- An envelope in the table, and the key of the handle that wrote it. -/
structure StoredEnvelope where
  writer : Option EncryptionKey
  record : QueuedEnvelopeRecord
  deriving DecidableEq

/-- `columns` is what the writer stored for the record. -/
def StoredEnvelope.Encodes (cipher : Aes256Gcm) (crates : Crates)
    (stored : StoredEnvelope) (columns : QueuedEnvelopeColumns) : Prop :=
  ∃ nonce envelopeBytes,
    (SyncEngineDb.withKey cipher stored.writer nonce).storedBytes crates
        stored.record.envelope = .ok envelopeBytes ∧
      columns = stored.record.columns envelopeBytes

namespace StoredEnvelope

variable {cipher : Aes256Gcm} {crates : Crates} {stored : StoredEnvelope}
  {columns : QueuedEnvelopeColumns}

theorem Encodes.cases (encodes : stored.Encodes cipher crates columns) :
    ∃ plaintext,
      crates.rmpSerde.toVec stored.record.envelope = .ok plaintext ∧
      columns = stored.record.columns columns.envelopeBytes ∧
      match stored.writer with
      | none => columns.envelopeBytes = plaintext
      | some key => ∃ nonce, EncryptedData.encrypt cipher plaintext key nonce =
          .ok ⟨columns.envelopeBytes⟩ := by
  obtain ⟨nonce, envelopeBytes, bytes, rfl⟩ := encodes
  unfold SyncEngineDb.storedBytes at bytes
  cases encoded : crates.rmpSerde.toVec stored.record.envelope with
  | error error => simp [encoded] at bytes
  | ok plaintext =>
      simp only [encoded] at bytes
      refine ⟨plaintext, rfl, rfl, ?_⟩
      cases writer : stored.writer with
      | none =>
          simp only [SyncEngineDb.withKey, writer, Except.ok.injEq] at bytes
          exact bytes.symm
      | some key =>
          simp only [SyncEngineDb.withKey, writer] at bytes
          cases encrypted : EncryptedData.encrypt cipher plaintext key
              nonce with
          | error error => simp [encrypted, Except.map] at bytes
          | ok data =>
              simp only [encrypted, Except.map, Except.ok.injEq] at bytes
              subst bytes
              exact ⟨nonce, encrypted⟩

/-- The writer's key reads the record back. -/
theorem Encodes.decode (encodes : stored.Encodes cipher crates columns)
    (nonce : EncryptionNonce) :
    (SyncEngineDb.withKey cipher stored.writer nonce).decodeQueuedEnvelope
      crates columns = .ok stored.record := by
  obtain ⟨plaintext, encoded, same, written⟩ := encodes.cases
  have read : (SyncEngineDb.withKey cipher stored.writer
      nonce).decryptIfNeeded columns.envelopeBytes = .ok plaintext := by
    cases writer : stored.writer with
    | none =>
        rw [writer] at written
        exact congrArg Except.ok written
    | some key =>
        rw [writer] at written
        obtain ⟨_, encrypted⟩ := written
        exact EncryptedData.decrypt_encrypt encrypted
  have decoded := crates.rmpSerde.fromSlice_toVec _ _ encoded
  rw [same] at read ⊢
  simp [SyncEngineDb.decodeQueuedEnvelope, QueuedEnvelopeRecord.columns, read,
    decoded, bind, Except.bind, pure, Except.pure] at read ⊢

/-- Any other key than the writer's fails on the row. -/
theorem Encodes.decrypt_ne (authentic : Authentic cipher crates.rmpSerde)
    (encodes : stored.Encodes cipher crates columns) {key : EncryptionKey}
    (differ : stored.writer ≠ some key) :
    EncryptedData.decrypt cipher ⟨columns.envelopeBytes⟩ key =
      .error .decryptionFailed := by
  obtain ⟨plaintext, encoded, -, written⟩ := encodes.cases
  cases writer : stored.writer with
  | none =>
      rw [writer] at written
      dsimp only at written
      rw [written]
      exact authentic.notCiphertext _ _ _ encoded
  | some other =>
      rw [writer] at written
      obtain ⟨_, encrypted⟩ := written
      apply authentic.decrypt_encrypt_ne _ encrypted
      rintro rfl
      exact differ writer

end StoredEnvelope

/-! The file, and what opening it does. -/

structure StoredFile where
  db : Database
  encryptionMetadata : HashMap String String
  deriving DecidableEq

/-- `ENCRYPTION_ENABLED_KEY` -/
def encryptionEnabledKey : String := "encryption_enabled"

/-- How the statements of `init_with_encryption` end. -/
structure OpenAccess where
  create : Write
  select : Read
  replace : Write
  count : Read
  sample : Read
  deriving DecidableEq

namespace StoredFile

def empty : StoredFile := ⟨Database.empty, ∅⟩

/-- `SyncEngineDb::init`. A table that is not there yet is an empty one, so
that creating it changes nothing. -/
def init (create : Write) (file : StoredFile) :
    Outcome StoredFile (Except SyncEngineError (Option EncryptionKey)) :=
  (create.run .connectionError .ok file).tryBind fun file _ =>
    .returned file (.ok none)

def isEncrypted (file : StoredFile) : Bool :=
  ((file.encryptionMetadata.lookup encryptionEnabledKey).map
    (· == "true")).getD false

def checkEncryptionFlag (select : Read) (file : StoredFile) :
    Except SyncEngineError Bool :=
  match select with
  | .refused => .error .connectionError
  | .served => .ok file.isEncrypted

def setEncryptionFlag (replace : Write) (file : StoredFile) :
    Outcome StoredFile (Except SyncEngineError Unit) :=
  replace.run .connectionError (fun file => .ok { file with
    encryptionMetadata :=
      file.encryptionMetadata.insert encryptionEnabledKey "true" }) file

/-- `scan` is one of the table `queued_envelopes`, whose first row `LIMIT 1`
selects. -/
def verifyEncryptionKey (cipher : Aes256Gcm) (encryptionKey : EncryptionKey)
    (count sample : Read)
    (scan : HashMap.Listing Bytes QueuedEnvelopeColumns) :
    Except SyncEngineError Unit :=
  match count with
  | .refused => .error .connectionError
  | .served =>
      match scan.entries with
      | [] => .ok ()
      | first :: _ =>
          match sample with
          | .refused => .error .connectionError
          | .served =>
              match EncryptedData.decrypt cipher ⟨first.2.envelopeBytes⟩
                  encryptionKey with
              | .ok _ => .ok ()
              | .error .decryptionFailed => .error .encryptionKeyMismatch
              | .error error => .error error

def initWithEncryption (cipher : Aes256Gcm) (encryptionKey : EncryptionKey)
    (access : OpenAccess)
    (scan : HashMap.Listing Bytes QueuedEnvelopeColumns) (file : StoredFile) :
    Outcome StoredFile (Except SyncEngineError (Option EncryptionKey)) :=
  (file.init access.create).tryBind fun file _ =>
    match file.checkEncryptionFlag access.select with
    | .error error => .returned file (.error error)
    | .ok true =>
        match verifyEncryptionKey cipher encryptionKey access.count
            access.sample scan with
        | .error error => .returned file (.error error)
        | .ok () => .returned file (.ok (some encryptionKey))
    | .ok false =>
        (file.setEncryptionFlag access.replace).tryBind fun file _ =>
          .returned file (.ok (some encryptionKey))

end StoredFile

/-! Sessions on one file, one after the other. -/

inductive SessionCall
  | init (create : Write)
  | initWithEncryption (encryptionKey : EncryptionKey) (access : OpenAccess)
      (scan : HashMap.Listing Bytes QueuedEnvelopeColumns)
  | enqueueEnvelope (record : QueuedEnvelopeRecord) (nonce : EncryptionNonce)
      (write : Write)
  | enqueueTransaction (record : QueuedEnvelopeRecord)
      (nonce : EncryptionNonce) (write : Write)
  | removeQueuedEnvelope (messageId : Bytes32) (write : Write)

/-- `handle` holds the key of the open handle, if one is open, and `stored`
remembers what has been enqueued and not been removed or replaced. -/
structure SessionState where
  file : StoredFile
  handle : Option (Option EncryptionKey)
  stored : HashMap Bytes StoredEnvelope
  deriving DecidableEq

namespace SessionState

def empty : SessionState := ⟨.empty, none, ∅⟩

def opened (state : SessionState)
    (outcome : Outcome StoredFile
      (Except SyncEngineError (Option EncryptionKey))) : SessionState where
  file := outcome.durable
  handle :=
    match outcome with
    | .returned _ (.ok encryptionKey) => some encryptionKey
    | .returned _ (.error _) => none
    | .crashed _ => none
  stored := state.stored

def written (state : SessionState)
    (outcome : Outcome Database (Except SyncEngineError Unit))
    (stored : HashMap Bytes StoredEnvelope) : SessionState where
  file := { state.file with db := outcome.durable }
  handle :=
    match outcome with
    | .returned _ _ => state.handle
    | .crashed _ => none
  stored := stored

/-- `stored` after a call of the handle to enqueue `record`. -/
def remember (cipher : Aes256Gcm) (crates : Crates) (state : SessionState)
    (encryptionKey : Option EncryptionKey) (record : QueuedEnvelopeRecord)
    (nonce : EncryptionNonce) (write : Write) :
    HashMap Bytes StoredEnvelope :=
  match (SyncEngineDb.withKey cipher encryptionKey nonce).storedBytes crates
      record.envelope with
  | .error _ => state.stored
  | .ok _ =>
      if write.takesEffect then
        state.stored.insert record.envelope.messageId.toVec
          ⟨encryptionKey, record⟩
      else state.stored

def perform (cipher : Aes256Gcm) (crates : Crates) (state : SessionState) :
    SessionCall → SessionState
  | .init create => state.opened (state.file.init create)
  | .initWithEncryption encryptionKey access scan =>
      state.opened
        (state.file.initWithEncryption cipher encryptionKey access scan)
  | .enqueueEnvelope record nonce write =>
      match state.handle with
      | none => state
      | some encryptionKey =>
          state.written
            ((SyncEngineDb.withKey cipher encryptionKey nonce).enqueueEnvelope
              crates record.envelope record.sourceAccount record.sequence
              record.priority record.enqueuedAt write state.file.db)
            (state.remember cipher crates encryptionKey record nonce write)
  | .enqueueTransaction record nonce write =>
      match state.handle with
      | none => state
      | some encryptionKey =>
          state.written
            ((SyncEngineDb.withKey cipher encryptionKey
                nonce).enqueueTransaction crates record.envelope
              record.sourceAccount record.sequence record.priority
              record.enqueuedAt write state.file.db)
            (state.remember cipher crates encryptionKey record nonce write)
  | .removeQueuedEnvelope messageId write =>
      match state.handle with
      | none => state
      | some _ =>
          state.written
            (SyncEngineDb.removeQueuedEnvelope messageId write state.file.db)
            (if write.takesEffect then state.stored.erase messageId.toVec
              else state.stored)

/-- `scan` lists the table; whoever calls a handle has one. -/
def Possible (state : SessionState) : SessionCall → Prop
  | .init _ => True
  | .initWithEncryption _ _ scan =>
      scan.toFinmap = state.file.db.queuedEnvelopes
  | .enqueueEnvelope _ _ _ => state.handle.isSome
  | .enqueueTransaction _ _ _ => state.handle.isSome
  | .removeQueuedEnvelope _ _ => state.handle.isSome

instance (state : SessionState) :
    (call : SessionCall) → Decidable (state.Possible call)
  | .init _ => inferInstanceAs (Decidable True)
  | .initWithEncryption _ _ scan =>
      inferInstanceAs (Decidable
        (scan.toFinmap = state.file.db.queuedEnvelopes))
  | .enqueueEnvelope _ _ _ => inferInstanceAs (Decidable (_ = true))
  | .enqueueTransaction _ _ _ => inferInstanceAs (Decidable (_ = true))
  | .removeQueuedEnvelope _ _ => inferInstanceAs (Decidable (_ = true))

/-- Every stored envelope is of `writer`. -/
def WrittenBy (state : SessionState) (writer : Option EncryptionKey) : Prop :=
  ∀ messageId stored, state.stored.lookup messageId = some stored →
    stored.writer = writer

/-- A list with this key succeeds, with every stored envelope once. -/
def Readable (cipher : Aes256Gcm) (crates : Crates) (state : SessionState)
    (encryptionKey : Option EncryptionKey) : Prop :=
  ∀ scan nonce, scan.toFinmap = state.file.db.queuedEnvelopes →
    ∃ listing : HashMap.Listing Bytes StoredEnvelope,
      listing.toFinmap = state.stored ∧
      (SyncEngineDb.withKey cipher encryptionKey nonce).listQueuedEnvelopes
          crates scan =
        .ok (listing.entries.map fun row => row.2.record)

/-- The open handle has the key that everything is stored under, and reads
it. -/
def Sound (cipher : Aes256Gcm) (crates : Crates) (state : SessionState) :
    Prop :=
  ∀ encryptionKey, state.handle = some encryptionKey →
    state.WrittenBy encryptionKey ∧ state.Readable cipher crates encryptionKey

/-- The table holds the stored envelopes, as their writers stored them. -/
def Holds (cipher : Aes256Gcm) (crates : Crates) (state : SessionState) :
    Prop :=
  ∀ messageId,
    Option.Rel (fun columns stored => stored.Encodes cipher crates columns)
      (state.file.db.queuedEnvelopes.lookup messageId)
      (state.stored.lookup messageId)

end SessionState

/-- Nothing stops the statements that an open of an unencrypted file makes. -/
def OpenAccess.Succeeds (access : OpenAccess) : Prop :=
  access.create = .applied ∧ access.select = .served ∧
    access.replace = .applied

/-- No open without a key of a file with envelopes written under one, and no
open with a key of a file that holds envelopes and no flag. -/
def SessionCall.Matches (state : SessionState) : SessionCall → Prop
  | .init create => create = .applied → state.WrittenBy none
  | .initWithEncryption _ access _ =>
      access.Succeeds → state.file.isEncrypted = true ∨ state.stored = ∅
  | .enqueueEnvelope _ _ _ => True
  | .enqueueTransaction _ _ _ => True
  | .removeQueuedEnvelope _ _ => True

def sessions (cipher : Aes256Gcm) (crates : Crates) :
    System SessionState SessionCall where
  init state := state = .empty
  step state call next :=
    state.Possible call ∧ next = state.perform cipher crates call

namespace SessionState

variable {cipher : Aes256Gcm} {crates : Crates} {state : SessionState}

/-! What the calls do to a state. -/

theorem perform_init (state : SessionState) (create : Write) :
    state.perform cipher crates (.init create) =
      { state with
        handle := if create = .applied then some none else none } := by
  cases create with
  | applied => rfl
  | refused => rfl
  | lostBefore => rfl
  | lostAfter => rfl

/-- The file once `set_encryption_flag` has written to it. -/
def flagged (state : SessionState) : StoredFile :=
  { state.file with
    encryptionMetadata := state.file.encryptionMetadata.insert
      encryptionEnabledKey "true" }

theorem isEncrypted_flagged (state : SessionState) :
    state.flagged.isEncrypted = true := by
  simp [StoredFile.isEncrypted, flagged]

theorem perform_initWithEncryption (state : SessionState)
    (cipher : Aes256Gcm) (crates : Crates) (encryptionKey : EncryptionKey) (access : OpenAccess)
    (scan : HashMap.Listing Bytes QueuedEnvelopeColumns) :
    let after := state.perform cipher crates
      (.initWithEncryption encryptionKey access scan)
    after = { state with handle := none } ∨
      (state.file.isEncrypted = true ∧
        StoredFile.verifyEncryptionKey cipher encryptionKey access.count
          access.sample scan = .ok () ∧
        after = { state with handle := some (some encryptionKey) }) ∨
      (state.file.isEncrypted = false ∧
        after = { state with file := state.flagged, handle := none }) ∨
      (state.file.isEncrypted = false ∧ access.Succeeds ∧
        after = { state with
          file := state.flagged
          handle := some (some encryptionKey) }) := by
  obtain ⟨create, select, replace, count, sample⟩ := access
  dsimp only [perform, StoredFile.initWithEncryption, StoredFile.init]
  cases create with
  | refused => exact Or.inl rfl
  | lostBefore => exact Or.inl rfl
  | lostAfter => exact Or.inl rfl
  | applied =>
      cases select with
      | refused => exact Or.inl rfl
      | served =>
          cases encrypted : state.file.isEncrypted with
          | true =>
              cases StoredFile.verifyEncryptionKey cipher encryptionKey count
                  sample scan with
              | error error =>
                  left
                  simp [Write.run, StoredFile.checkEncryptionFlag, encrypted,
                    opened]
              | ok _ =>
                  right
                  left
                  simp [Write.run, StoredFile.checkEncryptionFlag, encrypted,
                    opened]
          | false =>
              cases replace <;>
                simp [Write.run, StoredFile.checkEncryptionFlag, encrypted,
                  opened, StoredFile.setEncryptionFlag, flagged,
                  OpenAccess.Succeeds]

/-- An open that nothing stops, of a file without the flag. -/
theorem handle_initWithEncryption (cipher : Aes256Gcm) (crates : Crates)
    {access : OpenAccess}
    (unencrypted : state.file.isEncrypted = false)
    (succeeds : access.Succeeds) (encryptionKey : EncryptionKey)
    (scan : HashMap.Listing Bytes QueuedEnvelopeColumns) :
    (state.perform cipher crates
        (.initWithEncryption encryptionKey access scan)).handle =
      some (some encryptionKey) := by
  obtain ⟨create, select, replace, count, sample⟩ := access
  obtain ⟨rfl, rfl, rfl⟩ := succeeds
  simp [perform, opened, StoredFile.initWithEncryption, StoredFile.init,
    StoredFile.checkEncryptionFlag, StoredFile.setEncryptionFlag, Write.run,
    unencrypted]

theorem handle_written (state : SessionState)
    (outcome : Outcome Database (Except SyncEngineError Unit))
    (stored : HashMap Bytes StoredEnvelope) {encryptionKey}
    (isOpen : (state.written outcome stored).handle = some encryptionKey) :
    state.handle = some encryptionKey := by
  cases outcome with
  | returned db result => exact isOpen
  | crashed db => cases isOpen

/-- A call to enqueue leaves its record both in the table and in `stored`, or
in neither. -/
theorem remember_cases {encryptionKey : Option EncryptionKey}
    {record : QueuedEnvelopeRecord} {nonce : EncryptionNonce} {write : Write}
    {db : Database}
    (table : db.queuedEnvelopes =
      (SyncEngineDb.withKey cipher encryptionKey nonce).enqueued crates record
        write state.file.db.queuedEnvelopes) :
    (db.queuedEnvelopes = state.file.db.queuedEnvelopes ∧
      state.remember cipher crates encryptionKey record nonce write =
        state.stored) ∨
    ∃ columns,
      StoredEnvelope.Encodes cipher crates ⟨encryptionKey, record⟩ columns ∧
      db.queuedEnvelopes = state.file.db.queuedEnvelopes.insert
        record.envelope.messageId.toVec columns ∧
      state.remember cipher crates encryptionKey record nonce write =
        state.stored.insert record.envelope.messageId.toVec
          ⟨encryptionKey, record⟩ := by
  unfold SyncEngineDb.enqueued at table
  unfold remember
  cases bytes : (SyncEngineDb.withKey cipher encryptionKey nonce).storedBytes
      crates record.envelope with
  | error error =>
      rw [bytes] at table
      exact Or.inl ⟨table, rfl⟩
  | ok envelopeBytes =>
      rw [bytes] at table
      cases effect : write.takesEffect with
      | false =>
          left
          simpa [effect] using table
      | true =>
          right
          refine ⟨record.columns envelopeBytes,
            ⟨nonce, envelopeBytes, bytes, rfl⟩, ?_, ?_⟩
          · simpa [effect] using table
          · simp

/-- What every run keeps, whatever is opened. -/
structure Kept (cipher : Aes256Gcm) (crates : Crates) (state : SessionState) :
    Prop where
  holds : state.Holds cipher crates
  flagStored : ∀ messageId stored encryptionKey,
    state.stored.lookup messageId = some stored →
    stored.writer = some encryptionKey → state.file.isEncrypted = true
  flagOpen : ∀ encryptionKey, state.handle = some (some encryptionKey) →
    state.file.isEncrypted = true

/-- One key, or none, that everything is stored under and that the open handle
has. -/
def Uniform (state : SessionState) : Prop :=
  ∃ writer, state.WrittenBy writer ∧
    ∀ encryptionKey, state.handle = some encryptionKey →
      encryptionKey = writer

theorem kept_empty : Kept cipher crates .empty where
  holds messageId := by
    simp only [empty, StoredFile.empty, Database.empty, Finmap.lookup_empty]
    exact Option.Rel.none
  flagStored messageId stored encryptionKey found := by
    simp [empty] at found
  flagOpen encryptionKey opened := by
    cases opened

theorem uniform_empty : Uniform .empty := by
  refine ⟨none, ?_, ?_⟩
  · intro messageId stored found
    simp [empty] at found
  · intro encryptionKey opened
    cases opened

theorem Holds.insert (holds : state.Holds cipher crates) {db : Database}
    {key : Bytes} {columns : QueuedEnvelopeColumns} {stored : StoredEnvelope}
    (encodes : stored.Encodes cipher crates columns)
    (table : db.queuedEnvelopes =
      state.file.db.queuedEnvelopes.insert key columns) (messageId : Bytes) :
    Option.Rel (fun columns stored => stored.Encodes cipher crates columns)
      (db.queuedEnvelopes.lookup messageId)
      ((state.stored.insert key stored).lookup messageId) := by
  rw [table, HashMap.lookup_insert_ite, HashMap.lookup_insert_ite]
  split
  · exact Option.Rel.some encodes
  · exact holds messageId

theorem Kept.enqueued (kept : state.Kept cipher crates)
    {encryptionKey : Option EncryptionKey}
    (isOpen : state.handle = some encryptionKey)
    {outcome : Outcome Database (Except SyncEngineError Unit)}
    {record : QueuedEnvelopeRecord} {nonce : EncryptionNonce} {write : Write}
    (table : outcome.durable.queuedEnvelopes =
      (SyncEngineDb.withKey cipher encryptionKey nonce).enqueued crates record
        write state.file.db.queuedEnvelopes) :
    (state.written outcome (state.remember cipher crates encryptionKey record
      nonce write)).Kept cipher crates := by
  have flagOpen : ∀ key, (state.written outcome (state.remember cipher crates
      encryptionKey record nonce write)).handle = some (some key) →
      state.file.isEncrypted = true :=
    fun key still => kept.flagOpen key (handle_written state _ _ still)
  rcases remember_cases table with ⟨same, kept'⟩ |
    ⟨columns, encodes, inserted, remembered⟩
  · refine ⟨?_, ?_, flagOpen⟩
    · intro messageId
      simp only [written, same, kept']
      exact kept.holds messageId
    · intro messageId stored key found
      simp only [written, kept'] at found
      exact kept.flagStored messageId stored key found
  · refine ⟨?_, ?_, flagOpen⟩
    · intro messageId
      simp only [written, remembered]
      exact kept.holds.insert encodes inserted messageId
    · intro messageId stored key found writer
      simp only [written, remembered, HashMap.lookup_insert_ite] at found
      split at found
      · obtain rfl := Option.some_inj.mp found
        obtain rfl : encryptionKey = some key := writer
        exact kept.flagOpen key isOpen
      · exact kept.flagStored messageId stored key found writer

theorem Uniform.enqueued (uniform : state.Uniform)
    {encryptionKey : Option EncryptionKey}
    (isOpen : state.handle = some encryptionKey)
    (outcome : Outcome Database (Except SyncEngineError Unit))
    (record : QueuedEnvelopeRecord) (nonce : EncryptionNonce)
    (write : Write) :
    (state.written outcome (state.remember cipher crates encryptionKey record
      nonce write)).Uniform := by
  obtain ⟨writer, all, same⟩ := uniform
  refine ⟨writer, ?_, ?_⟩
  · intro messageId stored found
    dsimp only [written, remember] at found
    split at found
    · exact all messageId stored found
    · split at found
      · rw [HashMap.lookup_insert_ite] at found
        split at found
        · obtain rfl := Option.some_inj.mp found
          exact same encryptionKey isOpen
        · exact all messageId stored found
      · exact all messageId stored found
  · intro key still
    exact same key (handle_written state _ _ still)

/-- A call to remove takes the same envelope from the table and from `stored`,
or none. -/
theorem lookup_removed {messageId : Bytes32} {write : Write}
    {stored : StoredEnvelope} {key : Bytes}
    (found : (if write.takesEffect then state.stored.erase messageId.toVec
      else state.stored).lookup key = some stored) :
    state.stored.lookup key = some stored := by
  split at found
  · exact HashMap.lookup_of_lookup_erase found
  · exact found

theorem Kept.removed (kept : state.Kept cipher crates) (messageId : Bytes32)
    (write : Write) :
    (state.written
      (SyncEngineDb.removeQueuedEnvelope messageId write state.file.db)
      (if write.takesEffect then state.stored.erase messageId.toVec
        else state.stored)).Kept cipher crates where
  holds key := by
    simp only [written, SyncEngineDb.queuedEnvelopes_removeQueuedEnvelope]
    split
    · by_cases same : key = messageId.toVec
      · subst same
        simp only [Finmap.lookup_erase]
        exact Option.Rel.none
      · rw [Finmap.lookup_erase_ne same, Finmap.lookup_erase_ne same]
        exact kept.holds key
    · exact kept.holds key
  flagStored _ _ _ found writer :=
    kept.flagStored _ _ _ (lookup_removed found) writer
  flagOpen _ still := kept.flagOpen _ (handle_written state _ _ still)

theorem Uniform.removed (uniform : state.Uniform) (messageId : Bytes32)
    (write : Write) :
    (state.written
      (SyncEngineDb.removeQueuedEnvelope messageId write state.file.db)
      (if write.takesEffect then state.stored.erase messageId.toVec
        else state.stored)).Uniform := by
  obtain ⟨writer, all, same⟩ := uniform
  refine ⟨writer, ?_, ?_⟩
  · intro key stored found
    exact all key stored (lookup_removed found)
  · intro key still
    exact same key (handle_written state _ _ still)

theorem Kept.reopened (kept : state.Kept cipher crates)
    {handle : Option (Option EncryptionKey)}
    (flag : ∀ encryptionKey, handle = some (some encryptionKey) →
      state.file.isEncrypted = true) :
    Kept cipher crates { state with handle := handle } where
  holds := kept.holds
  flagStored := kept.flagStored
  flagOpen := flag

theorem Kept.flagged (kept : state.Kept cipher crates)
    (handle : Option (Option EncryptionKey)) :
    Kept cipher crates
      { state with file := state.flagged, handle := handle } where
  holds := kept.holds
  flagStored _ _ _ _ _ := state.isEncrypted_flagged
  flagOpen _ _ := state.isEncrypted_flagged

theorem Kept.perform (kept : state.Kept cipher crates) (call : SessionCall) :
    (state.perform cipher crates call).Kept cipher crates := by
  cases call with
  | init create =>
      rw [perform_init]
      apply kept.reopened
      intro encryptionKey opened
      split at opened
      · cases opened
      · cases opened
  | initWithEncryption encryptionKey access scan =>
      rcases state.perform_initWithEncryption cipher crates encryptionKey
        access scan with
        closed | ⟨encrypted, -, accepted⟩ | ⟨-, lost⟩ | ⟨-, -, accepted⟩
      · rw [closed]
        exact kept.reopened fun key opened => by cases opened
      · rw [accepted]
        exact kept.reopened fun _ _ => encrypted
      · rw [lost]
        exact kept.flagged none
      · rw [accepted]
        exact kept.flagged _
  | enqueueEnvelope record nonce write =>
      dsimp only [SessionState.perform]
      cases isOpen : state.handle with
      | none => exact kept
      | some encryptionKey =>
          exact kept.enqueued isOpen
            (SyncEngineDb.queuedEnvelopes_enqueueEnvelope _ _ _ _ _)
  | enqueueTransaction record nonce write =>
      dsimp only [SessionState.perform]
      cases isOpen : state.handle with
      | none => exact kept
      | some encryptionKey =>
          exact kept.enqueued isOpen
            (SyncEngineDb.queuedEnvelopes_enqueueTransaction _ _ _ _ _)
  | removeQueuedEnvelope messageId write =>
      dsimp only [SessionState.perform]
      cases isOpen : state.handle with
      | none => exact kept
      | some encryptionKey => exact kept.removed messageId write

/-- Of the rows that a file with the flag holds, the first one tells a wrong
key. -/
theorem Holds.verified (holds : state.Holds cipher crates)
    (authentic : Authentic cipher crates.rmpSerde) {writer}
    (all : state.WrittenBy writer) {encryptionKey : EncryptionKey}
    {count sample : Read} {scan : HashMap.Listing Bytes QueuedEnvelopeColumns}
    (lists : scan.toFinmap = state.file.db.queuedEnvelopes)
    (accepted : StoredFile.verifyEncryptionKey cipher encryptionKey count
      sample scan = .ok ()) : state.WrittenBy (some encryptionKey) := by
  intro messageId stored found
  have tables := holds messageId
  rw [found, ← lists, Finmap.lookup_toFinmap] at tables
  cases count with
  | refused => cases accepted
  | served =>
      cases entries : scan.entries with
      | nil =>
          simp [AList.lookup, entries] at tables
      | cons first rest =>
          have visited : scan.lookup first.1 = some first.2 := by
            rw [AList.lookup, entries]
            exact List.dlookup_cons_eq _ _ _
          have row := holds first.1
          rw [← lists, Finmap.lookup_toFinmap, visited] at row
          cases held : state.stored.lookup first.1 with
          | none =>
              rw [held] at row
              cases row
          | some firstStored =>
              rw [held] at row
              cases row with
              | some encodes =>
                  rw [all messageId stored found,
                    ← all first.1 firstStored held]
                  by_contra differ
                  cases sample with
                  | refused =>
                      simp [StoredFile.verifyEncryptionKey, entries]
                        at accepted
                  | served =>
                      simp [StoredFile.verifyEncryptionKey, entries,
                        encodes.decrypt_ne authentic differ] at accepted

theorem Uniform.perform (uniform : state.Uniform)
    (kept : state.Kept cipher crates)
    (authentic : Authentic cipher crates.rmpSerde) {call : SessionCall}
    (possible : state.Possible call) (matching : call.Matches state) :
    (state.perform cipher crates call).Uniform := by
  obtain ⟨writer, all, same⟩ := uniform
  cases call with
  | init create =>
      rw [perform_init]
      split
      · rename_i created
        exact ⟨none, matching created, fun key opened =>
          (Option.some_inj.mp opened).symm⟩
      · exact ⟨writer, all, fun key opened => by cases opened⟩
  | initWithEncryption encryptionKey access scan =>
      rcases state.perform_initWithEncryption cipher crates encryptionKey
        access scan with
        closed | ⟨-, verified, accepted⟩ | ⟨-, lost⟩ |
          ⟨unencrypted, succeeds, accepted⟩
      · rw [closed]
        exact ⟨writer, all, fun key opened => by cases opened⟩
      · rw [accepted]
        exact ⟨some encryptionKey,
          kept.holds.verified authentic all possible verified,
          fun key opened => (Option.some_inj.mp opened).symm⟩
      · rw [lost]
        exact ⟨writer, all, fun key opened => by cases opened⟩
      · rw [accepted]
        refine ⟨some encryptionKey, ?_, fun key opened =>
          (Option.some_inj.mp opened).symm⟩
        intro messageId stored found
        rcases matching succeeds with encrypted | nothing
        · rw [unencrypted] at encrypted
          cases encrypted
        · simp [nothing] at found
  | enqueueEnvelope record nonce write =>
      dsimp only [SessionState.perform]
      cases isOpen : state.handle with
      | none => exact ⟨writer, all, same⟩
      | some encryptionKey =>
          exact Uniform.enqueued ⟨writer, all, same⟩ isOpen _ record nonce
            write
  | enqueueTransaction record nonce write =>
      dsimp only [SessionState.perform]
      cases isOpen : state.handle with
      | none => exact ⟨writer, all, same⟩
      | some encryptionKey =>
          exact Uniform.enqueued ⟨writer, all, same⟩ isOpen _ record nonce
            write
  | removeQueuedEnvelope messageId write =>
      dsimp only [SessionState.perform]
      cases isOpen : state.handle with
      | none => exact ⟨writer, all, same⟩
      | some encryptionKey =>
          exact Uniform.removed ⟨writer, all, same⟩ messageId write

/-- A handle lists what its own key has stored. -/
theorem Holds.readable (holds : state.Holds cipher crates)
    {encryptionKey : Option EncryptionKey}
    (all : state.WrittenBy encryptionKey) :
    state.Readable cipher crates encryptionKey := by
  intro scan nonce lists
  obtain ⟨listing, listed, rows⟩ := HashMap.exists_listing_forall₂
    (fun columns stored => stored.Encodes cipher crates columns ∧
      stored.writer = encryptionKey) scan state.stored (by
    intro messageId
    have row := holds messageId
    rw [← lists, Finmap.lookup_toFinmap] at row
    cases found : state.stored.lookup messageId with
    | none =>
        rw [found] at row
        cases visited : scan.lookup messageId with
        | none => exact Option.Rel.none
        | some columns =>
            rw [visited] at row
            cases row
    | some stored =>
        rw [found] at row
        cases visited : scan.lookup messageId with
        | none =>
            rw [visited] at row
            cases row
        | some columns =>
            rw [visited] at row
            cases row with
            | some encodes =>
                exact Option.Rel.some ⟨encodes, all messageId stored found⟩)
  refine ⟨listing, listed, ?_⟩
  apply mapM_ok_of_forall₂
  apply rows.imp
  rintro first second ⟨-, encodes, rfl⟩
  exact encodes.decode nonce

theorem Kept.sound (kept : state.Kept cipher crates)
    (uniform : state.Uniform) : state.Sound cipher crates := by
  obtain ⟨writer, all, same⟩ := uniform
  intro encryptionKey isOpen
  obtain rfl := same encryptionKey isOpen
  exact ⟨all, kept.holds.readable all⟩

theorem sessions_snoc {guard : List SessionCall → SessionState →
      SessionCall → Prop} {trace : List SessionCall}
    (run : (sessions cipher crates).RunUnder guard trace state)
    (call : SessionCall) (possible : state.Possible call)
    (guarded : guard trace state call) :
    (sessions cipher crates).RunUnder guard (trace ++ [call])
      (state.perform cipher crates call) :=
  run.snoc ⟨possible, rfl⟩ guarded

theorem kept_of_run {guard : List SessionCall → SessionState → SessionCall →
      Prop} {trace : List SessionCall}
    (run : (sessions cipher crates).RunUnder guard trace state) :
    state.Kept cipher crates := by
  apply run.invariant fun _ state => state.Kept cipher crates
  · rintro _ rfl
    exact kept_empty
  · rintro _ before call _ - kept - ⟨-, rfl⟩
    exact kept.perform call

theorem uniform_of_run (authentic : Authentic cipher crates.rmpSerde)
    {trace : List SessionCall}
    (run : (sessions cipher crates).RunUnder
      (fun _ before call => call.Matches before) trace state) :
    state.Uniform := by
  apply run.invariant fun _ state => state.Uniform
  · rintro _ rfl
    exact uniform_empty
  · rintro _ before call _ reached uniform matching ⟨possible, rfl⟩
    exact uniform.perform (kept_of_run reached) authentic possible matching

/-- An open that finds a sound database matches what is stored. -/
theorem Kept.matches (kept : state.Kept cipher crates) {call : SessionCall}
    (sound : (state.perform cipher crates call).Sound cipher crates) :
    call.Matches state := by
  cases call with
  | init create =>
      intro created
      rw [perform_init, if_pos created] at sound
      exact (sound none rfl).1
  | initWithEncryption encryptionKey access scan =>
      intro succeeds
      cases encrypted : state.file.isEncrypted with
      | true => exact Or.inl rfl
      | false =>
          right
          have isOpen := handle_initWithEncryption cipher crates encrypted
            succeeds encryptionKey scan
          obtain ⟨all, -⟩ := sound (some encryptionKey) isOpen
          apply Finmap.ext_lookup
          intro messageId
          cases found : state.stored.lookup messageId with
          | none => simp
          | some stored =>
              have flag := kept.flagStored messageId stored encryptionKey
                found (all messageId stored found)
              rw [encrypted] at flag
              cases flag
  | enqueueEnvelope record nonce write => trivial
  | enqueueTransaction record nonce write => trivial
  | removeQueuedEnvelope messageId write => trivial

end SessionState

/-- As long as every open matches what the file holds, whatever handle is open
has the key of everything stored and lists it all; the first open that does
not match ends that. -/
theorem sessions_sound_iff {cipher : Aes256Gcm} {crates : Crates}
    {trace : List SessionCall} {state : SessionState}
    (authentic : Authentic cipher crates.rmpSerde)
    (run : (sessions cipher crates).RunUnder
      (fun _ before call => call.Matches before) trace state) :
    state.Sound cipher crates ∧
      ∀ call next, (sessions cipher crates).step state call next →
        (call.Matches state ↔ next.Sound cipher crates) := by
  have kept := SessionState.kept_of_run run
  have uniform := SessionState.uniform_of_run authentic run
  refine ⟨kept.sound uniform, ?_⟩
  rintro call _ ⟨possible, rfl⟩
  constructor
  · intro matching
    exact (kept.perform call).sound
      (uniform.perform kept authentic possible matching)
  · exact kept.matches

/-! One envelope, stored with a key and without. -/

def sessionEnvelope : TransactionEnvelope where
  messageId := Vector.replicate 32 1
  originPubkey := Vector.replicate 32 2
  txXdr := ""
  ttlHops := 10
  timestamp := 7
  signature := Vector.replicate 64 3

def sessionRecord : QueuedEnvelopeRecord :=
  ⟨sessionEnvelope, "GA", 1, .normal, 7⟩

/-- Encodes one value and no other. -/
def RmpSerde.only {α : Type} [DecidableEq α] (value : α) : RmpSerde α where
  toVec other :=
    if other = value then .ok [1] else .error .serializationError
  fromSlice bytes :=
    if bytes = [1] then .ok value else .error .deserializationError
  fromSlice_toVec := by
    intro other bytes encoded
    split at encoded
    · rename_i same
      obtain rfl := Except.ok.inj encoded
      rw [if_pos rfl, same]
    · cases encoded

def sessionCrates : Crates where
  fromXdrBase64 _ := .error ""
  strkey _ := ""
  verifyingKey key := key.secret
  detachedSign _ _ := []
  rmpSerde := RmpSerde.only sessionEnvelope

theorem sessionCrates_authentic :
    Authentic sampleCipher sessionCrates.rmpSerde where
  wrongKey := sampleCipher_wrongKey
  notCiphertext key envelope bytes encoded := by
    apply EncryptedData.decrypt_short
    dsimp only [sessionCrates, RmpSerde.only] at encoded
    split at encoded
    · obtain rfl := Except.ok.inj encoded
      decide
    · cases encoded

def sessionKey : EncryptionKey := ⟨Vector.replicate 32 9⟩

def sessionNonce : EncryptionNonce := ⟨Vector.replicate nonceSize 5⟩

/-- Every statement of an open goes through. -/
def OpenAccess.all : OpenAccess :=
  ⟨.applied, .served, .applied, .served, .served⟩

def sessionScan (envelopeBytes : Bytes) :
    HashMap.Listing Bytes QueuedEnvelopeColumns :=
  ⟨[⟨sessionEnvelope.messageId.toVec, sessionRecord.columns envelopeBytes⟩],
    List.nodupKeys_singleton _⟩

def sessionPerform (calls : List SessionCall) : SessionState :=
  calls.foldl (SessionState.perform sampleCipher sessionCrates) .empty

def sessionCiphertext : Bytes :=
  sessionNonce.bytes.toList ++ (sessionKey.key.toVec ++ [1])

def keyedSessions : List SessionCall := [
  .initWithEncryption sessionKey .all ∅,
  .enqueueTransaction sessionRecord sessionNonce .applied,
  .initWithEncryption sessionKey .all (sessionScan sessionCiphertext)]

theorem sessions_sound_keyed :
    (sessionPerform keyedSessions).Sound sampleCipher sessionCrates := by
  have created : (sessions sampleCipher sessionCrates).RunUnder
      (fun _ before call => call.Matches before) [] .empty := .start rfl
  have keyed := SessionState.sessions_snoc created
    (.initWithEncryption sessionKey .all ∅) rfl fun _ => Or.inr rfl
  have enqueued := SessionState.sessions_snoc keyed
    (.enqueueTransaction sessionRecord sessionNonce .applied)
    (by decide +kernel) trivial
  have reopened := SessionState.sessions_snoc enqueued
    (.initWithEncryption sessionKey .all (sessionScan sessionCiphertext))
    (by decide +kernel) fun _ => Or.inl (by decide +kernel)
  exact (sessions_sound_iff sessionCrates_authentic reopened).1

/-- The first session has no key, and the second one has. -/
def mixedSessions : List SessionCall := [
  .init .applied,
  .enqueueEnvelope sessionRecord sessionNonce .applied,
  .initWithEncryption sessionKey .all (sessionScan [1])]

theorem sessions_unreadable :
    Authentic sampleCipher sessionCrates.rmpSerde ∧
      (sessions sampleCipher sessionCrates).Run mixedSessions
        (sessionPerform mixedSessions) ∧
      (sessionPerform mixedSessions).handle = some (some sessionKey) ∧
      ¬ (sessionPerform mixedSessions).Readable sampleCipher sessionCrates
        (some sessionKey) := by
  have created : (sessions sampleCipher sessionCrates).Run [] .empty :=
    .start rfl
  have plain := SessionState.sessions_snoc created (.init .applied) trivial
    trivial
  have enqueued := SessionState.sessions_snoc plain
    (.enqueueEnvelope sessionRecord sessionNonce .applied)
    (by decide +kernel) trivial
  have reopened := SessionState.sessions_snoc enqueued
    (.initWithEncryption sessionKey .all (sessionScan [1]))
    (by decide +kernel) trivial
  refine ⟨sessionCrates_authentic, reopened, by decide +kernel, ?_⟩
  intro readable
  obtain ⟨listing, -, listed⟩ := readable (sessionScan [1]) sessionNonce
    (by decide +kernel)
  have failed : (SyncEngineDb.withKey sampleCipher (some sessionKey)
      sessionNonce).listQueuedEnvelopes sessionCrates (sessionScan [1]) =
      .error .decryptionFailed := by decide +kernel
  cases failed.symm.trans listed

end StellarConduit
