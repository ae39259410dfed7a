import SyncEngine.Cli.Render
import SyncEngine.Data.Fallible

namespace StellarConduit

open Data Text

namespace Cli

/-! What each command prints. -/

def queueHeaders : List String :=
  ["MESSAGE_ID", "SOURCE_ACCOUNT", "SEQUENCE", "PRIORITY", "ENQUEUED_AT"]

def queueCells (r : QueueEntryView) : List String :=
  [r.messageId, r.sourceAccount, r.sequence.toInt.repr, r.priority,
    r.enqueuedAt.toNat.repr]

def renderQueueTable (rows : List QueueEntryView) : Option String :=
  renderTable queueHeaders (rows.map queueCells)

def historyHeaders : List String := ["FROM_STATUS", "TO_STATUS", "TIMESTAMP"]

def historyCells (h : HistoryEntryView) : List String :=
  [h.fromStatus, h.toStatus, h.timestamp.toNat.repr]

def renderSettlementStatus (view : SettlementStatusView) : Option String := do
  let table ← renderTable historyHeaders (view.history.map historyCells)
  return "message_id:     " ++ view.messageId ++ "\n" ++
    ("current_status: " ++ view.currentStatus.getD "(untracked)" ++ "\n") ++
    "history:\n" ++ table

def conflictHeaders : List String :=
  ["ID", "SOURCE_ACCOUNT", "SEQUENCE", "ENVELOPE_A", "ENVELOPE_B",
    "DETECTED_AT", "RESOLVED"]

def conflictCells (c : ConflictView) : List String :=
  [c.id.repr, c.sourceAccount, c.sequence.toInt.repr, c.envelopeA,
    c.envelopeB, c.detectedAt.toNat.repr, toString c.resolved]

def renderConflictsTable (rows : List ConflictView) : Option String :=
  renderTable conflictHeaders (rows.map conflictCells)

def shownTime (time : Option UInt64) : String :=
  (time.map fun v => v.toNat.repr).getD "(none)"

def renderSummary (view : DbSummary) : String :=
  joinLines [
    "queued_envelopes:      " ++ view.queuedEnvelopesCount.repr,
    "settlement_status:     " ++ view.settlementStatusCount.repr,
    "sequence_reservations: " ++ view.sequenceReservationsCount.repr,
    "conflicts:             " ++ (view.conflictsCount.repr ++ " (" ++
      view.unresolvedConflictsCount.repr ++ " unresolved)"),
    "oldest_queued_at:      " ++ shownTime view.oldestQueuedAt,
    "newest_queued_at:      " ++ shownTime view.newestQueuedAt]

inductive Command
  | queueList (account : Option String) (priority : Option TxPriority)
  | settlementStatus (messageId : String)
  | conflictsList (unresolvedOnly : Bool)
  | dbSummary

/-- What a command has read. -/
inductive View
  | queue (rows : List QueueEntryView)
  | settlement (view : SettlementStatusView)
  | conflicts (rows : List ConflictView)
  | summary (view : DbSummary)
  deriving DecidableEq

/-- The database that is inspected, and the order its queue is read in. -/
structure Inspected where
  db : SyncEngineDb
  crates : Crates
  scan : HashMap.Listing Bytes QueuedEnvelopeColumns
  store : StoreDb

def inspect (inspected : Inspected) : Command → Except CliError View
  | .queueList account priority =>
      (queueList inspected.db inspected.crates account priority
        inspected.scan).map .queue
  | .settlementStatus messageId =>
      (settlementStatus messageId inspected.store.db).map .settlement
  | .conflictsList unresolvedOnly =>
      .ok (.conflicts (conflictsList unresolvedOnly inspected.store))
  | .dbSummary => .ok (.summary (dbSummary inspected.scan inspected.store))

/-- `none` is a panic. -/
def View.render : View → Option String
  | .queue rows => renderQueueTable rows
  | .settlement view => renderSettlementStatus view
  | .conflicts rows => renderConflictsTable rows
  | .summary view => some (renderSummary view)

/-- The output without `--json`. -/
def dispatch (inspected : Inspected) (command : Command) :
    Except CliError (Option String) :=
  (inspect inspected command).map View.render

/-! Cells tell the views apart. -/

theorem queueCells_injective : Function.Injective queueCells := by
  intro first second same
  simp only [queueCells, List.cons.injEq, and_true] at same
  obtain ⟨ids, accounts, sequences, priorities, times⟩ := same
  have numbers := Int64.toInt_inj.mp (intRepr_injective sequences)
  have seconds := UInt64.toNat_inj.mp (natRepr_injective times)
  cases first
  cases second
  simp_all

theorem historyCells_injective : Function.Injective historyCells := by
  intro first second same
  simp only [historyCells, List.cons.injEq, and_true] at same
  obtain ⟨sources, targets, times⟩ := same
  have seconds := UInt64.toNat_inj.mp (natRepr_injective times)
  cases first
  cases second
  simp_all

theorem conflictCells_injective : Function.Injective conflictCells := by
  intro first second same
  simp only [conflictCells, List.cons.injEq, and_true] at same
  obtain ⟨ids, accounts, sequences, lefts, rights, times, flags⟩ := same
  have keys := intRepr_injective ids
  have numbers := Int64.toInt_inj.mp (intRepr_injective sequences)
  have seconds := UInt64.toNat_inj.mp (natRepr_injective times)
  have answers : first.resolved = second.resolved := by
    revert flags
    cases first.resolved <;> cases second.resolved <;> decide
  cases first
  cases second
  simp_all

theorem shownTime_injective : Function.Injective shownTime := by
  intro first second same
  cases first with
  | none =>
      cases second with
      | none => rfl
      | some time =>
          have bracket : '(' ∈ time.toNat.repr.toList := by
            rw [show time.toNat.repr = "(none)" from same.symm]
            decide
          cases isDigit_of_mem_repr bracket
  | some time =>
      cases second with
      | none =>
          have bracket : '(' ∈ time.toNat.repr.toList := by
            rw [show time.toNat.repr = "(none)" from same]
            decide
          cases isDigit_of_mem_repr bracket
      | some other =>
          rw [UInt64.toNat_inj.mp (natRepr_injective same)]

/-! Tables of full rows. -/

/-- Headers that are words, of a table that is not two columns wide, and cells
that are words too. -/
structure Titled {α : Type} (headers : List String) (cells : α → List String)
    (views : List α) : Prop where
  headed : ∀ header ∈ headers, Word header.toList
  wide : headers.length ≠ 2
  full : ∀ view ∈ views, (cells view).length = headers.length
  filled : ∀ view ∈ views, ∀ cell ∈ cells view, Word cell.toList

namespace Titled

variable {α : Type} {headers : List String} {cells : α → List String}
  {first second : List α}

theorem exists_table (titled : Titled headers cells first) :
    ∃ text, renderTable headers (first.map cells) = some text ∧
      readTable (toLines text.toList) = some (headers, first.map cells) := by
  have short : ∀ row ∈ first.map cells, row.length ≤ headers.length := by
    intro row member
    obtain ⟨view, listed, rfl⟩ := List.mem_map.mp member
    exact (titled.full view listed).le
  have labelled : ∀ row ∈ headers :: first.map cells, ∀ cell ∈ row,
      Word cell.toList := by
    intro row member
    rcases List.mem_cons.mp member with rfl | behind
    · exact titled.headed
    · obtain ⟨view, listed, rfl⟩ := List.mem_map.mp behind
      exact titled.filled view listed
  obtain ⟨widths, text, rendered, tabular⟩ := exists_tabular short labelled
  refine ⟨text, rendered, tabular.reads ?_⟩
  intro same
  obtain ⟨view, listed, pair⟩ := List.mem_map.mp
    (show ["(no", "rows)"] ∈ first.map cells by simp [same])
  have two := titled.full view listed
  rw [pair] at two
  exact titled.wide two.symm

theorem eq_of_readTable {text : String}
    (injective : Function.Injective cells)
    (same : readTable (toLines text.toList) = some (headers, first.map cells))
    (sameToo : readTable (toLines text.toList) =
      some (headers, second.map cells)) : first = second := by
  rw [same, Option.some_inj, Prod.mk.injEq] at sameToo
  exact List.map_injective_iff.mpr injective sameToo.2

theorem determines (injective : Function.Injective cells)
    (titled : Titled headers cells first)
    (titledToo : Titled headers cells second)
    (same : renderTable headers (first.map cells) =
      renderTable headers (second.map cells)) : first = second := by
  obtain ⟨text, rendered, reads⟩ := titled.exists_table
  obtain ⟨other, renderedToo, readsToo⟩ := titledToo.exists_table
  rw [rendered, renderedToo] at same
  obtain rfl := Option.some_inj.mp same
  exact eq_of_readTable injective reads readsToo

end Titled

/-! Views that consist of words. -/

def View.Worded : View → Prop
  | .queue rows => Titled queueHeaders queueCells rows
  | .settlement view =>
      Word view.messageId.toList ∧
        (∃ status : Option SettlementStatus,
          view.currentStatus = status.map SettlementStatus.asStr) ∧
        Titled historyHeaders historyCells view.history
  | .conflicts rows => Titled conflictHeaders conflictCells rows
  | .summary _ => True

/-- The texts that storage returns as they are. -/
def View.Plain : View → Prop
  | .queue rows => ∀ row ∈ rows, Word row.sourceAccount.toList
  | .settlement view => ∀ entry ∈ view.history,
      Word entry.fromStatus.toList ∧ Word entry.toStatus.toList
  | .conflicts rows => ∀ row ∈ rows, Word row.sourceAccount.toList
  | .summary _ => True

theorem word_hexEncode (bytes : Bytes32) : Word (hexEncode bytes).toList := by
  rw [hexEncode, String.toList_ofList]
  refine ⟨?_, ?_⟩
  · intro empty
    have length := congrArg List.length empty
    simp at length
  · intro c member
    obtain ⟨byte, -, digit⟩ := List.mem_flatMap.mp member
    have digits : ∀ digit < 16, isWhitespace digit.digitChar = false := by
      decide
    have bound := byte.toNat_lt
    simp only [List.mem_cons, List.not_mem_nil, or_false] at digit
    rcases digit with rfl | rfl
    · exact digits _ (by omega)
    · exact digits _ (by omega)

theorem word_priorityLabel (priority : TxPriority) :
    Word (priorityLabel priority).toList := by
  cases priority <;> decide

theorem titled_queue {rows : List QueueEntryView}
    (isWord : ∀ row ∈ rows, Word row.messageId.toList ∧
      Word row.sourceAccount.toList ∧ Word row.priority.toList) :
    Titled queueHeaders queueCells rows where
  headed := by decide
  wide := by decide
  full _ _ := rfl
  filled row member := by
    obtain ⟨id, account, priority⟩ := isWord row member
    simp only [queueCells, List.mem_cons, List.not_mem_nil, or_false,
      forall_eq_or_imp, forall_eq]
    exact ⟨id, account, word_intRepr _, priority, word_natRepr _⟩

theorem titled_history {rows : List HistoryEntryView}
    (isWord : ∀ row ∈ rows, Word row.fromStatus.toList ∧
      Word row.toStatus.toList) :
    Titled historyHeaders historyCells rows where
  headed := by decide
  wide := by decide
  full _ _ := rfl
  filled row member := by
    obtain ⟨source, target⟩ := isWord row member
    simp only [historyCells, List.mem_cons, List.not_mem_nil, or_false,
      forall_eq_or_imp, forall_eq]
    exact ⟨source, target, word_natRepr _⟩

theorem titled_conflicts {rows : List ConflictView}
    (isWord : ∀ row ∈ rows, Word row.sourceAccount.toList ∧
      Word row.envelopeA.toList ∧ Word row.envelopeB.toList) :
    Titled conflictHeaders conflictCells rows where
  headed := by decide
  wide := by decide
  full _ _ := rfl
  filled row member := by
    obtain ⟨account, left, right⟩ := isWord row member
    have flag : Word (toString row.resolved).toList := by
      cases row.resolved <;> decide
    simp only [conflictCells, List.mem_cons, List.not_mem_nil, or_false,
      forall_eq_or_imp, forall_eq]
    exact ⟨word_intRepr _, account, word_intRepr _, left, right,
      word_natRepr _, flag⟩

theorem mem_queueList {db : SyncEngineDb} {crates : Crates}
    {account : Option String} {priority : Option TxPriority}
    {scan : HashMap.Listing Bytes QueuedEnvelopeColumns}
    {rows : List QueueEntryView}
    (listed : queueList db crates account priority scan = .ok rows)
    {row : QueueEntryView} (member : row ∈ rows) :
    ∃ record, row = queueEntryView record := by
  unfold queueList at listed
  split at listed
  · cases listed
  · obtain rfl := Except.ok.inj listed
    obtain ⟨record, _, rfl⟩ := List.mem_map.mp member
    exact ⟨record, rfl⟩

theorem settlementStatus_ok {messageIdHex : String} {db : Database}
    {view : SettlementStatusView}
    (read : settlementStatus messageIdHex db = .ok view) :
    ∃ (messageId : Bytes32) (status : Option SettlementStatus),
      view.messageId = hexEncode messageId ∧
        view.currentStatus = status.map SettlementStatus.asStr := by
  obtain ⟨messageId, _, rest⟩ := exists_of_bind_ok read
  split at rest
  · cases rest
  · rename_i status _
    obtain rfl := Except.ok.inj rest
    exact ⟨messageId, status, rfl, rfl⟩

theorem View.Plain.worded {inspected : Inspected} {command : Command}
    {view : View} (plain : view.Plain)
    (read : inspect inspected command = .ok view) : view.Worded := by
  cases command with
  | queueList account priority =>
      obtain ⟨rows, listed, rfl⟩ := exists_of_map_ok read
      apply titled_queue
      intro row member
      have account := plain row member
      obtain ⟨record, rfl⟩ := mem_queueList listed member
      exact ⟨word_hexEncode _, account, word_priorityLabel _⟩
  | settlementStatus messageIdHex =>
      obtain ⟨shown, shows, rfl⟩ := exists_of_map_ok read
      obtain ⟨messageId, status, named, current⟩ := settlementStatus_ok shows
      refine ⟨?_, ⟨status, current⟩, titled_history plain⟩
      rw [named]
      exact word_hexEncode messageId
  | conflictsList unresolvedOnly =>
      obtain rfl := Except.ok.inj read
      apply titled_conflicts
      intro row member
      have account := plain row member
      obtain ⟨record, _, rfl⟩ := List.mem_map.mp member
      exact ⟨account, word_hexEncode _, word_hexEncode _⟩
  | dbSummary =>
      obtain rfl := Except.ok.inj read
      trivial

/-! Texts tell the views apart. -/

/-- Texts with one line in front, the same in both. -/
theorem front_line {label first second : String} {rest other : List Char}
    (plain : '\n' ∉ label.toList) (single : '\n' ∉ first.toList)
    (singleToo : '\n' ∉ second.toList)
    (same : (label ++ first).toList ++ '\n' :: rest =
      (label ++ second).toList ++ '\n' :: other) :
    first = second ∧ rest = other := by
  have front : '\n' ∉ (label ++ first).toList := by
    simp [plain, single]
  have frontToo : '\n' ∉ (label ++ second).toList := by
    simp [plain, singleToo]
  obtain ⟨lines, behind⟩ := eq_of_first_line front frontToo same
  rw [String.toList_append, String.toList_append] at lines
  exact ⟨String.toList_inj.mp (List.append_cancel_left lines), behind⟩

def statusText (status : Option SettlementStatus) : String :=
  (status.map SettlementStatus.asStr).getD "(untracked)"

theorem statusText_injective : Function.Injective statusText := by
  intro first second
  cases first with
  | none => cases second with
    | none => exact fun _ => rfl
    | some status => cases status <;> decide
  | some status => cases second with
    | none => cases status <;> decide
    | some other => cases status <;> cases other <;> decide

theorem statusText_single (status : Option SettlementStatus) :
    '\n' ∉ (statusText status).toList := by
  cases status with
  | none => decide
  | some status => cases status <;> decide

theorem settlement_determines {first second : SettlementStatusView}
    (worded : (View.settlement first).Worded)
    (wordedToo : (View.settlement second).Worded)
    (same : renderSettlementStatus first = renderSettlementStatus second) :
    first = second := by
  obtain ⟨id, ⟨status, current⟩, titled⟩ := worded
  obtain ⟨idToo, ⟨statusToo, currentToo⟩, titledToo⟩ := wordedToo
  obtain ⟨table, rendered, _⟩ := titled.exists_table
  obtain ⟨tableToo, renderedToo, _⟩ := titledToo.exists_table
  simp only [renderSettlementStatus, rendered, renderedToo,
    Option.bind_eq_bind, Option.bind_some, Option.pure_def,
    Option.some.injEq] at same
  have texts := congrArg String.toList same
  rw [current, currentToo] at texts
  have regroup (id status table : String) :
      ("message_id:     " ++ id ++ "\n" ++
        ("current_status: " ++ status ++ "\n") ++ "history:\n" ++
        table).toList =
      ("message_id:     " ++ id).toList ++ '\n' ::
        (("current_status: " ++ status).toList ++ '\n' ::
          ("history:\n" ++ table).toList) := by
    simp [String.toList_append]
  rw [regroup, regroup] at texts
  obtain ⟨ids, afterId⟩ := front_line (by decide) id.no_newline
    idToo.no_newline texts
  obtain ⟨statuses, afterStatus⟩ := front_line (by decide)
    (statusText_single status) (statusText_single statusToo) afterId
  rw [String.toList_append, String.toList_append] at afterStatus
  obtain rfl := statusText_injective statuses
  obtain rfl := String.toList_inj.mp (List.append_cancel_left afterStatus)
  have histories := titled.determines historyCells_injective titledToo
    (rendered.trans renderedToo.symm)
  cases first
  cases second
  simp_all

theorem conflictCounts_determine {first second left right : Nat}
    (same : (first.repr ++ " (" ++ left.repr ++ " unresolved)").toList =
      (second.repr ++ " (" ++ right.repr ++ " unresolved)").toList) :
    first = second ∧ left = right := by
  have regroup (count unresolved : Nat) :
      (count.repr ++ " (" ++ unresolved.repr ++ " unresolved)").toList =
        count.repr.toList ++ ' ' :: ('(' :: (unresolved.repr.toList ++
          " unresolved)".toList)) := by
    simp [String.toList_append]
  rw [regroup, regroup] at same
  have split := congrArg words same
  rw [words_append_cons rfl, words_append_cons rfl, (word_natRepr _).words,
    (word_natRepr _).words] at split
  obtain rfl := natRepr_injective
    (String.toList_inj.mp (List.cons.inj split).1)
  have behind := List.append_cancel_left same
  have counts := List.append_cancel_right
    (List.cons.inj (List.cons.inj behind).2).2
  exact ⟨rfl, natRepr_injective (String.toList_inj.mp counts)⟩

theorem natRepr_single (n : Nat) : '\n' ∉ n.repr.toList :=
  (word_natRepr n).no_newline

theorem shownTime_single (time : Option UInt64) :
    '\n' ∉ (shownTime time).toList := by
  cases time with
  | none => decide
  | some time => exact natRepr_single _

theorem summary_single (view : DbSummary) :
    ∀ line ∈ [
      "queued_envelopes:      " ++ view.queuedEnvelopesCount.repr,
      "settlement_status:     " ++ view.settlementStatusCount.repr,
      "sequence_reservations: " ++ view.sequenceReservationsCount.repr,
      "conflicts:             " ++ (view.conflictsCount.repr ++ " (" ++
        view.unresolvedConflictsCount.repr ++ " unresolved)"),
      "oldest_queued_at:      " ++ shownTime view.oldestQueuedAt,
      "newest_queued_at:      " ++ shownTime view.newestQueuedAt],
      '\n' ∉ line.toList := by
  simp only [List.mem_cons, List.not_mem_nil, or_false, forall_eq_or_imp,
    forall_eq, String.toList_append, List.mem_append, natRepr_single,
    shownTime_single]
  decide

theorem summary_determines {first second : DbSummary}
    (same : renderSummary first = renderSummary second) : first = second := by
  have lines := joinLines_injective (summary_single first)
    (summary_single second) same
  simp only [List.cons.injEq, String.append_right_inj, and_true] at lines
  obtain ⟨queued, statuses, reservations, conflicts, oldest, newest⟩ := lines
  obtain ⟨counts, unresolved⟩ :=
    conflictCounts_determine (congrArg String.toList conflicts)
  have queuedSame := natRepr_injective queued
  have statusesSame := natRepr_injective statuses
  have reservationsSame := natRepr_injective reservations
  have oldestSame := shownTime_injective oldest
  have newestSame := shownTime_injective newest
  cases first
  cases second
  simp_all

theorem View.Worded.renders {view : View} (worded : view.Worded) :
    ∃ text, view.render = some text := by
  cases view with
  | queue rows =>
      obtain ⟨text, rendered, _⟩ := Titled.exists_table worded
      exact ⟨text, rendered⟩
  | settlement view =>
      obtain ⟨table, rendered, _⟩ := Titled.exists_table worded.2.2
      rw [View.render, renderSettlementStatus, rendered]
      exact ⟨_, rfl⟩
  | conflicts rows =>
      obtain ⟨text, rendered, _⟩ := Titled.exists_table worded
      exact ⟨text, rendered⟩
  | summary view => exact ⟨_, rfl⟩

/-- What two readings of one command print tells them apart. -/
theorem render_determines {command : Command} {one other : Inspected}
    {first second : View} (read : inspect one command = .ok first)
    (readToo : inspect other command = .ok second) (worded : first.Worded)
    (wordedToo : second.Worded) (same : first.render = second.render) :
    first = second := by
  cases command with
  | queueList account priority =>
      obtain ⟨rows, _, rfl⟩ := exists_of_map_ok read
      obtain ⟨others, _, rfl⟩ := exists_of_map_ok readToo
      rw [Titled.determines queueCells_injective worded wordedToo same]
  | settlementStatus messageIdHex =>
      obtain ⟨view, _, rfl⟩ := exists_of_map_ok read
      obtain ⟨another, _, rfl⟩ := exists_of_map_ok readToo
      rw [settlement_determines worded wordedToo same]
  | conflictsList unresolvedOnly =>
      obtain rfl := Except.ok.inj read
      obtain rfl := Except.ok.inj readToo
      exact congrArg View.conflicts
        (Titled.determines conflictCells_injective worded wordedToo same)
  | dbSummary =>
      obtain rfl := Except.ok.inj read
      obtain rfl := Except.ok.inj readToo
      exact congrArg View.summary
        (summary_determines (Option.some_inj.mp same))

/-- The text of a command, printed of any two databases, tells apart any two
views that the command can read, as long as the accounts and statuses that
storage returns are words. Nothing panics. -/
theorem dispatch_determines {command : Command} {one other : Inspected}
    {first second : View} (read : inspect one command = .ok first)
    (readToo : inspect other command = .ok second) (plain : first.Plain)
    (plainToo : second.Plain) :
    (∃ text, dispatch one command = .ok (some text)) ∧
      (dispatch one command = dispatch other command ↔ first = second) := by
  have worded := plain.worded read
  have wordedToo := plainToo.worded readToo
  have printed : dispatch one command = .ok first.render := by
    rw [dispatch, read]
    rfl
  have printedToo : dispatch other command = .ok second.render := by
    rw [dispatch, readToo]
    rfl
  obtain ⟨text, rendered⟩ := worded.renders
  refine ⟨⟨text, by rw [printed, rendered]⟩, ?_⟩
  rw [printed, printedToo, Except.ok.injEq]
  constructor
  · exact render_determines read readToo worded wordedToo
  · exact congrArg View.render

/-- A database with one payment, and an empty one. -/
theorem dispatch_determines_queue :
    let db := SyncEngineDb.withKey sampleCipher (some sessionKey) sessionNonce
    let paid : Inspected :=
      ⟨db, sessionCrates, sessionScan sessionCiphertext, .empty⟩
    let empty : Inspected := ⟨db, sessionCrates, ∅, .empty⟩
    let command := Command.queueList none none
    (∃ text, dispatch paid command = .ok (some text)) ∧
      dispatch paid command ≠ dispatch empty command := by
  intro db paid empty command
  have read : inspect paid command =
      .ok (.queue [queueEntryView sessionRecord]) := by
    have listed : queueList db sessionCrates none none
        (sessionScan sessionCiphertext) =
          .ok [queueEntryView sessionRecord] := by
      decide +kernel
    exact congrArg (Except.map View.queue) listed
  have readToo : inspect empty command = .ok (.queue []) := by
    have listed : queueList db sessionCrates none none ∅ = .ok [] := by
      decide +kernel
    exact congrArg (Except.map View.queue) listed
  have plain : (View.queue [queueEntryView sessionRecord]).Plain := by
    intro row member
    rw [List.mem_singleton.mp member]
    decide
  obtain ⟨printed, apart⟩ := dispatch_determines read readToo plain (by
    intro row member
    cases member)
  refine ⟨printed, ?_⟩
  intro same
  cases apart.mp same

end Cli

end StellarConduit
