import SyncEngine.Storage.Snapshot

namespace StellarConduit

open Data

/-! A list of envelopes, once its table has been moved to another handle. -/

/-- Both handles list the same records, in whatever order they scan. -/
def SameRecords (cipher : Aes256Gcm) (crates : Crates)
    (sourceKey targetKey : Option EncryptionKey) (source target : StoreDb) :
    Prop :=
  ∀ sourceScan targetScan sourceNonce targetNonce,
    sourceScan.toFinmap = source.db.queuedEnvelopes →
    targetScan.toFinmap = target.db.queuedEnvelopes →
    ∃ records listed,
      (SyncEngineDb.withKey cipher sourceKey
        sourceNonce).listQueuedEnvelopes crates sourceScan = .ok records ∧
      (SyncEngineDb.withKey cipher targetKey
        targetNonce).listQueuedEnvelopes crates targetScan = .ok listed ∧
      listed.Perm records

namespace StoreDb

variable {RelayChainProof : Type} {cipher : Aes256Gcm} {crates : Crates}
  {encode : RelayChainProof → Except SyncEngineError Bytes}
  {sourceKey targetKey : Option EncryptionKey} {source target : StoreDb}

/-- Every envelope was stored by a handle with this key. -/
def EncodedBy (cipher : Aes256Gcm) (crates : Crates)
    (encryptionKey : Option EncryptionKey) (store : StoreDb) : Prop :=
  ∀ messageId columns,
    store.db.queuedEnvelopes.lookup messageId = some columns →
    ∃ record, StoredEnvelope.Encodes cipher crates ⟨encryptionKey, record⟩
      columns

theorem encodedBy_of_run {trace : List (StoreLabel RelayChainProof)}
    (run : (stores cipher crates encode .empty).RunUnder
      (fun _ _ label => label.encryptionKey = sourceKey) trace source) :
    source.EncodedBy cipher crates sourceKey := by
  apply run.invariant fun _ store => store.EncodedBy cipher crates sourceKey
  · rintro _ rfl messageId columns found
    simp [empty, Database.empty] at found
  · rintro _ before ⟨_, nonce, call⟩ _ - encoded rfl rfl
    intro messageId columns found
    rcases lookup_perform _ _ _ _ found with
      earlier | ⟨record, envelopeBytes, bytes, rfl⟩
    · exact encoded messageId columns earlier
    · exact ⟨record, nonce, envelopeBytes, bytes, rfl⟩

theorem keyed_of_stores {guard : List (StoreLabel RelayChainProof) → StoreDb →
      StoreLabel RelayChainProof → Prop}
    {trace : List (StoreLabel RelayChainProof)}
    (run : (stores cipher crates encode .empty).RunUnder guard trace source) :
    source.Keyed := by
  apply run.invariant fun _ store => store.Keyed
  · rintro _ rfl
    exact keyed_empty
  · rintro _ before label _ - keyed - rfl
    exact keyed.perform label.call

/-- The key of the source lists its records from the table of the target. -/
theorem EncodedBy.sameRecords (encoded : source.EncodedBy cipher crates
      sourceKey)
    (moved : target.db.queuedEnvelopes = source.db.queuedEnvelopes) :
    SameRecords cipher crates sourceKey sourceKey source target := by
  intro sourceScan targetScan sourceNonce targetNonce listsSource listsTarget
  have perm : targetScan.entries.Perm sourceScan.entries :=
    AList.toFinmap_eq.mp (listsTarget.trans (moved.trans listsSource.symm))
  have decodes : ∀ row ∈ sourceScan.entries, ∃ record,
      (SyncEngineDb.withKey cipher sourceKey
        sourceNonce).decodeQueuedEnvelope crates row.2 = .ok record := by
    intro row member
    have found : source.db.queuedEnvelopes.lookup row.1 = some row.2 := by
      rw [← listsSource, Finmap.lookup_toFinmap]
      exact AList.mem_lookup_iff.mpr member
    obtain ⟨record, encodes⟩ := encoded row.1 row.2 found
    exact ⟨record, encodes.decode sourceNonce⟩
  exact ⟨_, _, mapM_eq_filterMap decodes,
    mapM_eq_filterMap fun row member => decodes row (perm.mem_iff.mp member),
    perm.filterMap _⟩

/-- A list of an empty table needs no key. -/
theorem sameRecords_of_empty (nothing : source.db.queuedEnvelopes = ∅)
    (moved : target.db.queuedEnvelopes = source.db.queuedEnvelopes) :
    SameRecords cipher crates sourceKey targetKey source target := by
  intro sourceScan targetScan sourceNonce targetNonce listsSource listsTarget
  have none : ∀ scan : HashMap.Listing Bytes QueuedEnvelopeColumns,
      scan.toFinmap = ∅ → scan.entries = [] := by
    intro scan lists
    have perm : scan.entries.Perm
        (∅ : HashMap.Listing Bytes QueuedEnvelopeColumns).entries :=
      AList.toFinmap_eq.mp lists
    exact perm.eq_nil
  refine ⟨[], [], ?_, ?_, List.Perm.nil⟩
  · rw [SyncEngineDb.listQueuedEnvelopes,
      none _ (listsSource.trans nothing)]
    rfl
  · rw [SyncEngineDb.listQueuedEnvelopes,
      none _ (listsTarget.trans (moved.trans nothing))]
    rfl

/-- A list that succeeds has decoded every row. -/
theorem decodes_of_sameRecords
    (moved : target.db.queuedEnvelopes = source.db.queuedEnvelopes)
    (same : SameRecords cipher crates sourceKey targetKey source target)
    (nonce : EncryptionNonce) {messageId : Bytes}
    {columns : QueuedEnvelopeColumns}
    (found : source.db.queuedEnvelopes.lookup messageId = some columns) :
    ∃ record, (SyncEngineDb.withKey cipher targetKey
      nonce).decodeQueuedEnvelope crates columns = .ok record := by
  obtain ⟨iteration⟩ : Nonempty
    (HashMap.Iteration Bytes QueuedEnvelopeColumns) := inferInstance
  have lists := iteration.lists source.db.queuedEnvelopes
  obtain ⟨records, listed, -, read, -⟩ := same
    (iteration.list source.db.queuedEnvelopes)
    (iteration.list source.db.queuedEnvelopes) nonce nonce lists
    (lists.trans moved.symm)
  exact mapM_ok_of_mem read
    ((iteration.mem_entries source.db.queuedEnvelopes).mpr found)

/-- A handle with a key that lists the table of another handle has its key,
or the table is empty; one without a key has decoded every ciphertext. -/
theorem EncodedBy.of_sameRecords (authentic : Authentic cipher crates.rmpSerde)
    (encoded : source.EncodedBy cipher crates sourceKey)
    (moved : target.db.queuedEnvelopes = source.db.queuedEnvelopes)
    (same : SameRecords cipher crates sourceKey targetKey source target) :
    targetKey = sourceKey ∨ source.db.queuedEnvelopes = ∅ ∨
      (targetKey = none ∧ ∀ messageId columns,
        source.db.queuedEnvelopes.lookup messageId = some columns →
        ∃ envelope, crates.rmpSerde.fromSlice columns.envelopeBytes =
          .ok envelope) := by
  let nonce : EncryptionNonce := ⟨Vector.replicate nonceSize 0⟩
  cases targetKey with
  | none =>
      right
      right
      refine ⟨rfl, ?_⟩
      intro messageId columns found
      obtain ⟨record, decoded⟩ := decodes_of_sameRecords moved same nonce found
      obtain ⟨_, clear, decoded⟩ := exists_of_bind_ok decoded
      obtain ⟨envelope, parsed, -⟩ := exists_of_bind_ok decoded
      obtain rfl := Except.ok.inj clear
      exact ⟨envelope, parsed⟩
  | some encryptionKey =>
      by_cases matching : some encryptionKey = sourceKey
      · exact Or.inl matching
      · right
        left
        apply Finmap.ext_lookup
        intro messageId
        cases found : source.db.queuedEnvelopes.lookup messageId with
        | none => simp
        | some columns =>
            obtain ⟨record, decoded⟩ :=
              decodes_of_sameRecords moved same nonce found
            obtain ⟨_, clear, -⟩ := exists_of_bind_ok decoded
            obtain ⟨stored, encodes⟩ := encoded messageId columns found
            have wrong := encodes.decrypt_ne authentic (Ne.symm matching)
            cases clear.symm.trans wrong

/-- An import that succeeds has moved the table as it was. -/
theorem queuedEnvelopes_importSnapshot (keyed : source.Keyed)
    {scans : TableScans} (enumerate : scans.Enumerate source)
    {serde : RmpSerde DbSnapshot} {read : Read} {data : Bytes}
    (exported : exportSnapshot serde read scans = .ok data)
    {write : Write} {after : StoreDb} {report : ImportReport}
    (imported : target.importSnapshot serde data write =
      .returned after (.ok report)) :
    after.db.queuedEnvelopes = source.db.queuedEnvelopes := by
  have encoded : serde.toVec scans.snapshot = .ok data := by
    cases read with
    | served => exact exported
    | refused => cases exported
  rcases importSnapshot_cases serde data write target with
    ⟨error, failed⟩ | lost | ⟨snapshot, made, decoded, vacant, inserted, ended⟩
  · cases failed.symm.trans imported
  · cases lost.symm.trans imported
  · obtain rfl := Except.ok.inj
      ((serde.fromSlice_toVec _ _ encoded).symm.trans decoded)
    obtain rfl := eq_empty_of_existingRows vacant
    obtain rfl := Except.ok.inj
      ((insertSnapshot_empty keyed enumerate).symm.trans inserted)
    rcases ended with committed | lost
    · obtain ⟨rfl, -⟩ := Outcome.returned.inj
        (committed.symm.trans imported)
      exact enumerate.queuedEnvelopes
    · cases lost.symm.trans imported

end StoreDb

/-- The records of the source are those of the target when its handle has the
same key, or when there are none; else its list fails, unless it has no key
and every ciphertext happens to decode as an envelope. -/
theorem migration_readable {RelayChainProof : Type} {cipher : Aes256Gcm}
    {crates : Crates}
    {encode : RelayChainProof → Except SyncEngineError Bytes}
    {serde : RmpSerde DbSnapshot} {sourceKey targetKey : Option EncryptionKey}
    {trace : List (StoreLabel RelayChainProof)}
    {source target after : StoreDb} {scans : TableScans} {read : Read}
    {data : Bytes} {write : Write} {report : ImportReport}
    (authentic : Authentic cipher crates.rmpSerde)
    (run : (stores cipher crates encode .empty).RunUnder
      (fun _ _ label => label.encryptionKey = sourceKey) trace source)
    (enumerate : scans.Enumerate source)
    (exported : StoreDb.exportSnapshot serde read scans = .ok data)
    (imported : target.importSnapshot serde data write =
      .returned after (.ok report)) :
    (targetKey = sourceKey ∨ source.db.queuedEnvelopes = ∅ →
      SameRecords cipher crates sourceKey targetKey source after) ∧
    (SameRecords cipher crates sourceKey targetKey source after →
      targetKey = sourceKey ∨ source.db.queuedEnvelopes = ∅ ∨
        (targetKey = none ∧ ∀ messageId columns,
          source.db.queuedEnvelopes.lookup messageId = some columns →
          ∃ envelope, crates.rmpSerde.fromSlice columns.envelopeBytes =
            .ok envelope)) := by
  have encoded := StoreDb.encodedBy_of_run run
  have moved := StoreDb.queuedEnvelopes_importSnapshot
    (StoreDb.keyed_of_stores run) enumerate exported imported
  constructor
  · rintro (rfl | nothing)
    · exact encoded.sameRecords moved
    · exact StoreDb.sameRecords_of_empty nothing moved
  · exact encoded.of_sameRecords authentic moved

/-! An envelope stored with a key, and moved to a handle with that key and to
one without. -/

def migrationScans : TableScans := { snapshotScans with conflicts := [] }

theorem migrationScans_enumerate :
    migrationScans.Enumerate storeEnvelope.after where
  queuedEnvelopes := by decide +kernel
  settlementStatus := by decide +kernel
  sequenceReservations := by decide +kernel
  conflicts := List.Perm.of_eq (by decide +kernel)
  settlementHistory := List.Perm.of_eq (by decide +kernel)
  disputeEscalations := List.Perm.of_eq (by decide +kernel)

theorem migration_stored :
    (stores sampleCipher sessionCrates Except.ok .empty).RunUnder
      (fun _ _ label => label.encryptionKey = some sessionKey)
      [storeEnvelope] storeEnvelope.after := by
  have started : (stores sampleCipher sessionCrates Except.ok .empty).RunUnder
      (fun _ _ label => label.encryptionKey = some sessionKey) [] .empty :=
    .start rfl
  exact started.snoc (l := storeEnvelope) rfl rfl

theorem migration_exported :
    StoreDb.exportSnapshot (RmpSerde.only migrationScans.snapshot) .served
      migrationScans = .ok [1] := rfl

theorem migration_imported :
    StoreDb.empty.importSnapshot (RmpSerde.only migrationScans.snapshot) [1]
        .applied =
      .returned (StoreDb.restored migrationScans)
        (.ok storeEnvelope.after.rowCounts) :=
  StoreDb.importSnapshot_exportSnapshot (StoreDb.keyed_of_stores
    migration_stored) migrationScans_enumerate migration_exported rfl

theorem migration_readable_keyed :
    SameRecords sampleCipher sessionCrates (some sessionKey) (some sessionKey)
      storeEnvelope.after (StoreDb.restored migrationScans) :=
  (migration_readable sessionCrates_authentic migration_stored
    migrationScans_enumerate migration_exported migration_imported).1
    (Or.inl rfl)

theorem migration_unreadable :
    Authentic sampleCipher sessionCrates.rmpSerde ∧
      (stores sampleCipher sessionCrates Except.ok .empty).RunUnder
        (fun _ _ label => label.encryptionKey = some sessionKey)
        [storeEnvelope] storeEnvelope.after ∧
      StoreDb.exportSnapshot (RmpSerde.only migrationScans.snapshot) .served
        migrationScans = .ok [1] ∧
      StoreDb.empty.importSnapshot (RmpSerde.only migrationScans.snapshot) [1]
          .applied =
        .returned (StoreDb.restored migrationScans)
          (.ok storeEnvelope.after.rowCounts) ∧
      ¬ SameRecords sampleCipher sessionCrates (some sessionKey) none
        storeEnvelope.after (StoreDb.restored migrationScans) := by
  refine ⟨sessionCrates_authentic, migration_stored, migration_exported,
    migration_imported, ?_⟩
  intro same
  obtain ⟨records, listed, -, read, -⟩ := same
    (sessionScan sessionCiphertext) (sessionScan sessionCiphertext)
    sessionNonce sessionNonce migrationScans_enumerate.queuedEnvelopes rfl
  have failed : (SyncEngineDb.withKey sampleCipher none
      sessionNonce).listQueuedEnvelopes sessionCrates
      (sessionScan sessionCiphertext) = .error .deserializationError := by
    decide +kernel
  cases failed.symm.trans read

end StellarConduit
