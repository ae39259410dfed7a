import SyncEngine.Data.Int64
import SyncEngine.Ffi
import SyncEngine.Storage.History
import SyncEngine.Storage.Reads

namespace StellarConduit

open Data

/-! The data that the inspector shows, before it is rendered. -/

inductive CliError
  | invalidMessageId (hexStr : String)
  | syncEngine (error : SyncEngineError)
  deriving DecidableEq

structure QueueEntryView where
  messageId : String
  sourceAccount : String
  sequence : Int64
  priority : String
  enqueuedAt : UInt64
  deriving DecidableEq

structure HistoryEntryView where
  fromStatus : String
  toStatus : String
  timestamp : UInt64
  deriving DecidableEq

structure SettlementStatusView where
  messageId : String
  currentStatus : Option String
  history : List HistoryEntryView
  deriving DecidableEq

structure ConflictView where
  id : Int
  sourceAccount : String
  sequence : Int64
  envelopeA : String
  envelopeB : String
  detectedAt : UInt64
  resolved : Bool
  deriving DecidableEq

namespace Cli

def priorityLabel : TxPriority → String
  | .low => "low"
  | .normal => "normal"
  | .emergency => "emergency"

def parseMessageId (hexStr : String) : Except CliError Bytes32 :=
  match decodeMessageId hexStr with
  | none => .error (.invalidMessageId hexStr)
  | some messageId => .ok messageId

/-- What `queue_list` sorts by: the time, then the bytes of the id. -/
def queueKey (record : QueuedEnvelopeRecord) : Nat ×ₗ List Nat :=
  toLex (record.enqueuedAt.toNat, record.envelope.messageId.rank)

/-- Whether a record passes the two filters. -/
def Shows (account : Option String) (priority : Option TxPriority)
    (record : QueuedEnvelopeRecord) : Prop :=
  (∀ wanted ∈ account, record.sourceAccount = wanted) ∧
    ∀ wanted ∈ priority, record.priority = wanted

def queueEntryView (record : QueuedEnvelopeRecord) : QueueEntryView where
  messageId := hexEncode record.envelope.messageId
  sourceAccount := record.sourceAccount
  sequence := record.sequence
  priority := priorityLabel record.priority
  enqueuedAt := record.enqueuedAt

def queueList (self : SyncEngineDb) (crates : Crates)
    (account : Option String) (priority : Option TxPriority)
    (scan : HashMap.Listing Bytes QueuedEnvelopeColumns) :
    Except CliError (List QueueEntryView) :=
  match self.listQueuedEnvelopes crates scan with
  | .error error => .error (.syncEngine error)
  | .ok records =>
      let byAccount := (sortBy queueKey records).filter fun record =>
        match account with
        | some wanted => decide (record.sourceAccount = wanted)
        | none => true
      let byPriority := byAccount.filter fun record =>
        match priority with
        | some wanted => decide (record.priority = wanted)
        | none => true
      .ok (byPriority.map queueEntryView)

def settlementStatus (messageIdHex : String) (db : Database) :
    Except CliError SettlementStatusView := do
  let messageId ← parseMessageId messageIdHex
  match SyncEngineDb.getSettlementStatus messageId db with
  | .error error => .error (.syncEngine error)
  | .ok status => return {
      messageId := hexEncode messageId
      currentStatus := status.map SettlementStatus.asStr
      history := (SyncEngineDb.historyFor messageId db).map fun entry =>
        ⟨entry.fromStatus, entry.toStatus, entry.timestamp⟩ }

def conflictsList (unresolvedOnly : Bool) (store : StoreDb) :
    List ConflictView :=
  (store.listAllConflicts.filter fun conflict =>
    !unresolvedOnly || !conflict.resolved).map fun conflict => {
      id := conflict.id
      sourceAccount := conflict.sourceAccount
      sequence := conflict.sequence
      envelopeA := hexEncode conflict.envelopeA
      envelopeB := hexEncode conflict.envelopeB
      detectedAt := conflict.detectedAt
      resolved := conflict.resolved }

/-- The view has the fields of the summary. -/
def dbSummary (scan : HashMap.Listing Bytes QueuedEnvelopeColumns)
    (store : StoreDb) : DbSummary :=
  store.summary scan

/-! The queue, whatever order its rows are found in. -/

section

variable {cipher : Aes256Gcm} {crates : Crates} {key : Option EncryptionKey}
  {spec : StoreSpec} {store : StoreDb}

theorem nodup_queueKey (describes : spec.Describes cipher crates key store)
    {listing : HashMap.Listing Bytes QueuedEnvelopeRecord}
    (listed : listing.toFinmap = spec.envelopes) :
    ((listing.entries.map Sigma.snd).map queueKey).Nodup := by
  -- the keys of the listing are the identifiers of its records
  have codes : listing.entries.map Sigma.fst =
      (listing.entries.map Sigma.snd).map fun record =>
        record.envelope.messageId.toVec := by
    rw [List.map_map]
    apply List.map_congr_left
    rintro ⟨code, record⟩ member
    apply describes.keyed code record
    rw [← listed, Finmap.lookup_toFinmap]
    exact AList.mem_lookup_iff.mpr member
  have distinct : (listing.entries.map Sigma.fst).Nodup := listing.nodupKeys
  rw [codes] at distinct
  have ranks := distinct.map
    (List.map_injective_iff.mpr fun _ _ => UInt8.toNat_inj.mp)
  rw [List.map_map] at ranks
  refine List.Nodup.of_map (fun key => (ofLex key).2) ?_
  rwa [List.map_map]

/-- The records that `queue_list` shows: those of the description that pass the
filters, by time and then by id. -/
theorem queueList_exact (describes : spec.Describes cipher crates key store)
    (account : Option String) (priority : Option TxPriority) :
    ∃ records : List QueuedEnvelopeRecord,
      Increasing queueKey records ∧
      (∀ record, record ∈ records ↔
        spec.envelopes.lookup record.envelope.messageId.toVec = some record ∧
          Shows account priority record) ∧
      ∀ nonce scan, scan.toFinmap = store.db.queuedEnvelopes →
        queueList (SyncEngineDb.withKey cipher key nonce) crates account
            priority scan =
          .ok (records.map queueEntryView) := by
  let passes (record : QueuedEnvelopeRecord) : Bool :=
    (match priority with
      | some wanted => decide (record.priority = wanted)
      | none => true) &&
    (match account with
      | some wanted => decide (record.sourceAccount = wanted)
      | none => true)
  have passes_iff (record : QueuedEnvelopeRecord) :
      passes record = true ↔ Shows account priority record := by
    cases account <;> cases priority <;> simp [passes, Shows, and_comm]
  obtain ⟨given, listed⟩ : ∃ listing : HashMap.Listing Bytes
      QueuedEnvelopeRecord, listing.toFinmap = spec.envelopes :=
    Finmap.induction_on spec.envelopes fun listing => ⟨listing, rfl⟩
  let records : List QueuedEnvelopeRecord :=
    sortBy queueKey (given.entries.map Sigma.snd)
  have increasing : Increasing queueKey records :=
    increasing_sortBy_of_nodup (nodup_queueKey describes listed)
  refine ⟨records.filter passes, List.Pairwise.filter passes increasing, ?_,
    ?_⟩
  · intro record
    rw [List.mem_filter, mem_sortBy, describes.mem_listed listed, passes_iff]
  · intro nonce scan scanned
    obtain ⟨listing, alsoListed, answered⟩ :=
      describes.answers.listQueuedEnvelopes nonce scan scanned
    have same : sortBy queueKey (listing.entries.map Sigma.snd) =
        records := by
      refine (increasing_sortBy_of_nodup
        (nodup_queueKey describes alsoListed)).ext increasing fun record => ?_
      rw [mem_sortBy, mem_sortBy, describes.mem_listed alsoListed,
        describes.mem_listed listed]
    rw [queueList, answered]
    dsimp only
    rw [same, List.filter_filter]

/-! The summary beside the listings. -/

theorem enqueuedAt_le_of_queueKey {first second : QueuedEnvelopeRecord}
    (ordered : queueKey first ≤ queueKey second) :
    first.enqueuedAt ≤ second.enqueuedAt := by
  rw [UInt64.le_iff_toNat_le]
  rcases Prod.Lex.toLex_le_toLex.mp ordered with below | ⟨same, _⟩
  · exact below.le
  · exact same.le

/-- The summary tells the times at both ends of the queue just when no two of
its times lie in different halves of the range. -/
theorem extremes_iff (describes : spec.Describes cipher crates key store)
    {scan : HashMap.Listing Bytes QueuedEnvelopeColumns}
    (scanned : scan.toFinmap = store.db.queuedEnvelopes)
    {records : List QueuedEnvelopeRecord}
    (increasing : Increasing queueKey records)
    (members : ∀ record, record ∈ records ↔
      spec.envelopes.lookup record.envelope.messageId.toVec = some record) :
    ((dbSummary scan store).oldestQueuedAt =
        records.head?.map QueuedEnvelopeRecord.enqueuedAt ∧
      (dbSummary scan store).newestQueuedAt =
        records.getLast?.map QueuedEnvelopeRecord.enqueuedAt) ↔
      ∀ first ∈ records, ∀ second ∈ records,
        (first.enqueuedAt.toNat < 2 ^ 63 ↔
          second.enqueuedAt.toNat < 2 ^ 63) := by
  have times := describes.mem_enqueuedAt scanned
  simp only [StoreSpec.Queues, ← members] at times
  simp only [dbSummary, StoreDb.summary]
  generalize scan.entries.map (fun row => row.2.enqueuedAt) = enqueued at times
  cases records with
  | nil =>
      have none : enqueued = [] :=
        List.eq_nil_iff_forall_not_mem.mpr fun time => by simp [times]
      simp [none]
  | cons head rest =>
      have nonempty : head :: rest ≠ [] := List.cons_ne_nil _ _
      have last : (head :: rest).getLast nonempty ∈ head :: rest :=
        List.getLast_mem nonempty
      rw [List.head?_cons, List.getLast?_eq_some_getLast nonempty,
        Option.map_some, Option.map_some, map_toUInt64_eq_some,
        map_toUInt64_eq_some, List.min?_eq_some_iff, List.max?_eq_some_iff]
      have above {record : QueuedEnvelopeRecord}
          (member : record ∈ head :: rest) :
          head.enqueuedAt ≤ record.enqueuedAt :=
        enqueuedAt_le_of_queueKey (increasing.head_le member)
      have below {record : QueuedEnvelopeRecord}
          (member : record ∈ head :: rest) :
          record.enqueuedAt ≤
            ((head :: rest).getLast nonempty).enqueuedAt :=
        enqueuedAt_le_of_queueKey (increasing.le_getLast nonempty member)
      constructor
      · rintro ⟨⟨-, least⟩, -⟩
        -- a late time is a negative number, below that of the head
        have together {low high : QueuedEnvelopeRecord}
            (lowMember : low ∈ head :: rest)
            (highMember : high ∈ head :: rest)
            (early : low.enqueuedAt.toNat < 2 ^ 63) :
            high.enqueuedAt.toNat < 2 ^ 63 := by
          by_contra late
          have headEarly : head.enqueuedAt.toNat < 2 ^ 63 :=
            lt_of_le_of_lt (UInt64.le_iff_toNat_le.mp (above lowMember)) early
          have smaller : high.enqueuedAt.toInt64 < head.enqueuedAt.toInt64 :=
            (toInt64_lt_of_other_half fun both => late (both.mpr headEarly)).mpr
              (UInt64.not_lt.mpr (above highMember))
          exact absurd smaller (Int64.not_lt.mpr
            (least _ ((times _).mpr ⟨high, highMember, rfl⟩)))
        intro first firstMember second secondMember
        exact ⟨together firstMember secondMember,
          together secondMember firstMember⟩
      · intro same
        refine ⟨⟨(times _).mpr ⟨head, List.mem_cons_self, rfl⟩, ?_⟩,
          ⟨(times _).mpr ⟨_, last, rfl⟩, ?_⟩⟩
        · intro time member
          obtain ⟨record, inside, rfl⟩ := (times time).mp member
          rw [← Int64.not_lt, toInt64_lt_of_same_half
            (same record inside head List.mem_cons_self), UInt64.not_lt]
          exact above inside
        · intro time member
          obtain ⟨record, inside, rfl⟩ := (times time).mp member
          rw [← Int64.not_lt, toInt64_lt_of_same_half
            (same _ last record inside), UInt64.not_lt]
          exact below inside

/-- Nothing resolves a conflict, so the filter of `conflicts_list` keeps all. -/
theorem conflictsList_exact (describes : spec.Describes cipher crates key store)
    (unresolvedOnly : Bool) :
    conflictsList unresolvedOnly store =
      (spec.conflicts.zipIdx 1).map fun ((conflict, detectedAt), id) => {
        id := id
        sourceAccount := conflict.sourceAccount
        sequence := conflict.sequence
        envelopeA := hexEncode conflict.envelopeA
        envelopeB := hexEncode conflict.envelopeB
        detectedAt := detectedAt
        resolved := false } := by
  have kept : spec.conflictRecords.filter (fun conflict =>
      !unresolvedOnly || !conflict.resolved) = spec.conflictRecords := by
    apply List.filter_eq_self.mpr
    intro record member
    obtain ⟨entry, _, rfl⟩ := List.mem_map.mp member
    simp
  rw [conflictsList, describes.answers.listAllConflicts, kept,
    StoreSpec.conflictRecords, List.map_map]
  rfl

theorem settlementStatus_exact
    (describes : spec.Describes cipher crates key store)
    (messageId : Bytes32) :
    settlementStatus (hexEncode messageId) store.db =
      .ok ⟨hexEncode messageId,
        (spec.statuses.lookup messageId.toVec).map SettlementStatus.asStr,
        (SyncEngineDb.historyFor messageId store.db).map fun entry =>
          ⟨entry.fromStatus, entry.toStatus, entry.timestamp⟩⟩ := by
  simp only [settlementStatus, parseMessageId, decodeMessageId_hexEncode,
    bind, Except.bind, describes.answers.getSettlementStatus]
  rfl

theorem length_queue (describes : spec.Describes cipher crates key store)
    {records : List QueuedEnvelopeRecord}
    (increasing : Increasing queueKey records)
    (members : ∀ record, record ∈ records ↔
      spec.envelopes.lookup record.envelope.messageId.toVec = some record) :
    records.length = HashMap.rowCount spec.envelopes := by
  obtain ⟨listing, listed⟩ : ∃ listing : HashMap.Listing Bytes
      QueuedEnvelopeRecord, listing.toFinmap = spec.envelopes :=
    Finmap.induction_on spec.envelopes fun listing => ⟨listing, rfl⟩
  have same : records.Perm (listing.entries.map Sigma.snd) := by
    refine (List.perm_ext_iff_of_nodup increasing.nodup
      (nodup_queueKey describes listed).of_map).mpr fun record => ?_
    rw [members, describes.mem_listed listed]
  rw [same.length_eq, List.length_map, ← listed, HashMap.rowCount_toFinmap]

end

/-- Along every run of calls on handles with one key, or with none: the
inspector shows the same queue whatever order storage returns its rows in, its
summary counts what its listings show, and the times of the summary are those
at the ends of the queue just when no two of them lie in different halves of
the range. -/
theorem shows_store {RelayChainProof : Type} {cipher : Aes256Gcm}
    {crates : Crates}
    {encode : RelayChainProof → Except SyncEngineError Bytes}
    {key : Option EncryptionKey} {trace : List (StoreLabel RelayChainProof)}
    {store : StoreDb}
    (run : (stores cipher crates encode .empty).RunUnder
      (fun _ _ label => label.encryptionKey = key) trace store) :
    let spec := StoreSpec.run cipher crates encode trace
    (∀ account priority, ∃ records : List QueuedEnvelopeRecord,
      records.Pairwise (fun first second =>
        queueKey first < queueKey second) ∧
      (∀ record, record ∈ records ↔
        spec.envelopes.lookup record.envelope.messageId.toVec = some record ∧
          Shows account priority record) ∧
      ∀ nonce scan, scan.toFinmap = store.db.queuedEnvelopes →
        queueList (SyncEngineDb.withKey cipher key nonce) crates account
            priority scan =
          .ok (records.map queueEntryView)) ∧
    ∃ queue : List QueuedEnvelopeRecord,
      ∀ nonce scan, scan.toFinmap = store.db.queuedEnvelopes →
        queueList (SyncEngineDb.withKey cipher key nonce) crates none none
            scan = .ok (queue.map queueEntryView) ∧
        (dbSummary scan store).queuedEnvelopesCount = queue.length ∧
        (dbSummary scan store).conflictsCount =
          (conflictsList false store).length ∧
        (dbSummary scan store).unresolvedConflictsCount =
          (conflictsList true store).length ∧
        (((dbSummary scan store).oldestQueuedAt =
            queue.head?.map QueuedEnvelopeRecord.enqueuedAt ∧
          (dbSummary scan store).newestQueuedAt =
            queue.getLast?.map QueuedEnvelopeRecord.enqueuedAt) ↔
          ∀ first ∈ queue, ∀ second ∈ queue,
            (first.enqueuedAt.toNat < 2 ^ 63 ↔
              second.enqueuedAt.toNat < 2 ^ 63)) := by
  intro spec
  have describes := run_describes run
  refine ⟨queueList_exact describes, ?_⟩
  obtain ⟨queue, increasing, members, shown⟩ :=
    queueList_exact describes none none
  have unfiltered (record : QueuedEnvelopeRecord) : record ∈ queue ↔
      spec.envelopes.lookup record.envelope.messageId.toVec =
        some record := by
    rw [members]
    simp [Shows, spec]
  refine ⟨queue, fun nonce scan scanned => ⟨shown nonce scan scanned, ?_, ?_,
    ?_, extremes_iff describes scanned increasing unfiltered⟩⟩
  · rw [length_queue describes increasing unfiltered]
    exact (describes.answers.summary scan scanned).queuedEnvelopesCount
  · rw [conflictsList_exact describes, List.length_map, List.length_zipIdx]
    exact (describes.answers.summary scan scanned).conflictsCount
  · rw [conflictsList_exact describes, List.length_map, List.length_zipIdx]
    exact (describes.answers.summary scan scanned).unresolvedConflictsCount

theorem shows_store_envelope :
    ∃ queue : List QueuedEnvelopeRecord,
      queueList (SyncEngineDb.withKey sampleCipher (some sessionKey)
          sessionNonce) sessionCrates none none
          (sessionScan sessionCiphertext) =
        .ok (queue.map queueEntryView) ∧
      queue.length = 1 := by
  obtain ⟨queue, shown⟩ := (shows_store storeEnvelope_run).2
  obtain ⟨listed, count, -⟩ := shown sessionNonce
    (sessionScan sessionCiphertext) (by decide +kernel)
  exact ⟨queue, listed, count.symm.trans (by decide +kernel)⟩

end Cli

end StellarConduit
