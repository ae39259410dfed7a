import SyncEngine.Data.Expiry
import SyncEngine.Queue.Priority

namespace StellarConduit

open Data

structure DispatchEntry where
  dispatchedAt : UInt64
  deriving DecidableEq

/-- How many popped envelopes one relay session may leave unacknowledged. -/
structure DispatchWindow where
  maxInFlight : Nat
  timeoutSecs : UInt64
  inFlight : HashMap Bytes32 DispatchEntry

namespace DispatchWindow

def new (maxInFlight : Nat) (timeoutSecs : UInt64) :
    Except SyncEngineError DispatchWindow :=
  if maxInFlight = 0 then
    .error (.invalidDispatchWindow ("max_in_flight must be non-zero; " ++
      "a zero window can never dispatch"))
  else if timeoutSecs = 0 then
    .error (.invalidDispatchWindow ("timeout_secs must be non-zero; " ++
      "a zero timeout disables backpressure by expiring every entry " ++
      "immediately"))
  else
    .ok ⟨maxInFlight, timeoutSecs, ∅⟩

/-- Whether `entry` is kept by a sweep at `now`. -/
def unexpired (timeoutSecs now : UInt64) (entry : DispatchEntry) : Bool :=
  EmergencyGuard.saturatingSub now entry.dispatchedAt < timeoutSecs

def sweepExpired (window : DispatchWindow) (now : UInt64) : DispatchWindow :=
  { window with
    inFlight := window.inFlight.retain fun _ entry =>
      unexpired window.timeoutSecs now entry }

def tryAcquire (window : DispatchWindow) (messageId : Bytes32)
    (now : UInt64) : Except SyncEngineError Unit × DispatchWindow :=
  let swept := window.sweepExpired now
  if (swept.inFlight.lookup messageId).isSome then
    (.error .duplicateInFlight, swept)
  else if swept.maxInFlight ≤ HashMap.len swept.inFlight then
    (.error (.backpressureWindowFull swept.maxInFlight), swept)
  else
    (.ok (), { swept with
      inFlight := swept.inFlight.insert messageId ⟨now⟩ })

def acknowledge (window : DispatchWindow) (messageId : Bytes32) :
    Bool × DispatchWindow :=
  ((window.inFlight.lookup messageId).isSome,
    { window with inFlight := window.inFlight.erase messageId })

def abandon (window : DispatchWindow) (messageId : Bytes32) :
    Bool × DispatchWindow :=
  window.acknowledge messageId

def releaseExpired (window : DispatchWindow) (now : UInt64) :
    Nat × DispatchWindow :=
  let before := HashMap.len window.inFlight
  let swept := window.sweepExpired now
  (before - HashMap.len swept.inFlight, swept)

def inFlightCount (window : DispatchWindow) (now : UInt64) :
    Nat × DispatchWindow :=
  let swept := window.sweepExpired now
  (HashMap.len swept.inFlight, swept)

def isAtCapacity (window : DispatchWindow) (now : UInt64) :
    Bool × DispatchWindow :=
  let (count, swept) := window.inFlightCount now
  (window.maxInFlight ≤ count, swept)

end DispatchWindow

/-! Any calls of a window. -/

inductive DispatchCall
  | tryAcquire (messageId : Bytes32) (now : UInt64)
  | acknowledge (messageId : Bytes32)
  | abandon (messageId : Bytes32)
  | releaseExpired (now : UInt64)
  | inFlightCount (now : UInt64)
  | isAtCapacity (now : UInt64)
  deriving DecidableEq

/-- The time that a call is given. -/
def DispatchCall.time : DispatchCall → Option UInt64
  | .tryAcquire _ now => some now
  | .acknowledge _ => none
  | .abandon _ => none
  | .releaseExpired now => some now
  | .inFlightCount now => some now
  | .isAtCapacity now => some now

inductive DispatchReply
  | acquired (result : Except SyncEngineError Unit)
  | released (held : Bool)
  | reclaimed (count : Nat)
  | inFlight (count : Nat)
  | atCapacity (full : Bool)
  deriving DecidableEq

/-- The replies of `try_acquire`, `in_flight_count` and `is_at_capacity`. The
other calls tell what was still held. -/
def DispatchReply.ofCapacity (reply : DispatchReply) : Option DispatchReply :=
  match reply with
  | .acquired _ => some reply
  | .released _ => none
  | .reclaimed _ => none
  | .inFlight _ => some reply
  | .atCapacity _ => some reply

namespace DispatchWindow

def perform (window : DispatchWindow) :
    DispatchCall → DispatchReply × DispatchWindow
  | .tryAcquire messageId now =>
      (window.tryAcquire messageId now).map .acquired id
  | .acknowledge messageId =>
      (window.acknowledge messageId).map .released id
  | .abandon messageId => (window.abandon messageId).map .released id
  | .releaseExpired now => (window.releaseExpired now).map .reclaimed id
  | .inFlightCount now => (window.inFlightCount now).map .inFlight id
  | .isAtCapacity now => (window.isAtCapacity now).map .atCapacity id

def performAll (window : DispatchWindow) (calls : List DispatchCall) :
    DispatchWindow :=
  Machine.run (fun state call => (state.perform call).2) window calls

def replies (window : DispatchWindow) (calls : List DispatchCall) :
    List DispatchReply :=
  Machine.answers (fun state call => (state.perform call).2)
    (fun state call => (state.perform call).1) window calls

end DispatchWindow

/-! The reference: a window whose slots are free at once when their time is
over. It keeps a log of what was acquired and released, and nothing else. -/

structure EagerWindow where
  maxInFlight : Nat
  timeoutSecs : UInt64
  log : List (Lease Bytes32 DispatchEntry)

namespace DispatchWindow

theorem unexpired_iff {timeoutSecs now : UInt64} {entry : DispatchEntry} :
    unexpired timeoutSecs now entry = true ↔
      now.toNat - entry.dispatchedAt.toNat < timeoutSecs.toNat := by
  rw [unexpired, decide_eq_true_iff, UInt64.lt_iff_toNat_lt,
    EmergencyGuard.toNat_saturatingSub]

def expiry (timeoutSecs : UInt64) : Expiry UInt64 DispatchEntry where
  fresh := unexpired timeoutSecs
  fresh_of_le := by
    intro now later entry ordered
    rw [unexpired_iff, unexpired_iff]
    rw [UInt64.le_iff_toNat_le] at ordered
    omega

end DispatchWindow

namespace EagerWindow

/-- The identifiers acquired less than the timeout ago and not acknowledged or
abandoned since. -/
def content (window : EagerWindow) (now : UInt64) : Finset Bytes32 :=
  (DispatchWindow.expiry window.timeoutSecs).content now window.log

def tryAcquire (window : EagerWindow) (messageId : Bytes32) (now : UInt64) :
    Except SyncEngineError Unit × EagerWindow :=
  if messageId ∈ window.content now then
    (.error .duplicateInFlight, window)
  else if window.maxInFlight ≤ (window.content now).card then
    (.error (.backpressureWindowFull window.maxInFlight), window)
  else
    (.ok (), { window with log := window.log ++ [.taken messageId ⟨now⟩] })

def release (window : EagerWindow) (messageId : Bytes32) : EagerWindow :=
  { window with log := window.log ++ [.given messageId] }

def perform (window : EagerWindow) :
    DispatchCall → Option DispatchReply × EagerWindow
  | .tryAcquire messageId now =>
      (window.tryAcquire messageId now).map (some ∘ .acquired) id
  | .acknowledge messageId => (none, window.release messageId)
  | .abandon messageId => (none, window.release messageId)
  | .releaseExpired _ => (none, window)
  | .inFlightCount now =>
      (some (.inFlight (window.content now).card), window)
  | .isAtCapacity now =>
      (some (.atCapacity (window.maxInFlight ≤ (window.content now).card)),
        window)

def replies (window : EagerWindow) (calls : List DispatchCall) :
    List (Option DispatchReply) :=
  Machine.answers (fun state call => (state.perform call).2)
    (fun state call => (state.perform call).1) window calls

/-- What the reference holds at a time. -/
theorem mem_content {window : EagerWindow} {now : UInt64}
    {messageId : Bytes32} :
    messageId ∈ window.content now ↔ ∃ before entry after,
      window.log = before ++ .taken messageId entry :: after ∧
      now.toNat - entry.dispatchedAt.toNat < window.timeoutSecs.toNat ∧
      .given messageId ∉ after := by
  rw [content, Expiry.mem_content]
  simp only [DispatchWindow.expiry, DispatchWindow.unexpired_iff]

end EagerWindow

/-- The two windows agree on what is in flight at a time. -/
structure DispatchWindow.Matches (window : DispatchWindow)
    (eager : EagerWindow) (now : UInt64) : Prop where
  maxInFlight : window.maxInFlight = eager.maxInFlight
  timeoutSecs : window.timeoutSecs = eager.timeoutSecs
  represents : (expiry eager.timeoutSecs).Represents window.inFlight eager.log
    now

namespace DispatchWindow

variable {window : DispatchWindow} {eager : EagerWindow} {now later : UInt64}

theorem Matches.sweepExpired (same : window.Matches eager later)
    (ordered : now ≤ later) :
    (window.sweepExpired now).Matches eager later := by
  obtain ⟨maxInFlight, timeoutSecs, inFlight⟩ := window
  obtain ⟨capacity, timeout, log⟩ := eager
  obtain ⟨rfl, rfl, represents⟩ := same
  exact ⟨rfl, rfl, represents.sweep ordered⟩

theorem Matches.keys_sweepExpired (same : window.Matches eager now) :
    (window.sweepExpired now).inFlight.keys = eager.content now := by
  rw [DispatchWindow.sweepExpired, same.timeoutSecs]
  exact same.represents.keys_sweep

theorem Matches.len_sweepExpired (same : window.Matches eager now) :
    HashMap.len (window.sweepExpired now).inFlight =
      (eager.content now).card :=
  congrArg Finset.card same.keys_sweepExpired

theorem Matches.isSome_sweepExpired (same : window.Matches eager now)
    (messageId : Bytes32) :
    ((window.sweepExpired now).inFlight.lookup messageId).isSome = true ↔
      messageId ∈ eager.content now := by
  rw [Finmap.lookup_isSome, ← Finmap.mem_keys, same.keys_sweepExpired]

theorem Matches.release (same : window.Matches eager later)
    (messageId : Bytes32) :
    (window.acknowledge messageId).2.Matches (eager.release messageId)
      later :=
  ⟨same.maxInFlight, same.timeoutSecs, same.represents.given⟩

theorem Matches.tryAcquire (same : window.Matches eager now)
    (messageId : Bytes32) :
    (window.tryAcquire messageId now).1 =
        (eager.tryAcquire messageId now).1 ∧
      ∀ later, now ≤ later → window.Matches eager later →
        (window.tryAcquire messageId now).2.Matches
          (eager.tryAcquire messageId now).2 later := by
  have capacity : (window.sweepExpired now).maxInFlight = eager.maxInFlight :=
    same.maxInFlight
  unfold DispatchWindow.tryAcquire EagerWindow.tryAcquire
  dsimp only
  by_cases held : messageId ∈ eager.content now
  · rw [if_pos held, if_pos ((same.isSome_sweepExpired messageId).mpr held)]
    exact ⟨rfl, fun later ordered matched => matched.sweepExpired ordered⟩
  · have missing := held ∘ (same.isSome_sweepExpired messageId).mp
    rw [if_neg held, if_neg missing, capacity, same.len_sweepExpired]
    by_cases full : eager.maxInFlight ≤ (eager.content now).card
    · rw [if_pos full, if_pos full]
      exact ⟨rfl, fun later ordered matched => matched.sweepExpired ordered⟩
    · rw [if_neg full, if_neg full]
      refine ⟨rfl, fun later ordered matched => ?_⟩
      have free : (window.sweepExpired now).inFlight.lookup messageId =
          none :=
        Option.not_isSome_iff_eq_none.mp missing
      have swept := matched.sweepExpired ordered
      exact ⟨rfl, swept.timeoutSecs, swept.represents.taken free⟩

/-- One call answers the same on both windows, and they agree on what is in
flight at every later time that they agreed on before. -/
theorem Matches.perform (call : DispatchCall)
    (same : ∀ now ∈ call.time, window.Matches eager now) :
    (window.perform call).1.ofCapacity = (eager.perform call).1 ∧
      ∀ later, (∀ now ∈ call.time, now ≤ later) →
        window.Matches eager later →
        (window.perform call).2.Matches (eager.perform call).2 later := by
  cases call with
  | tryAcquire messageId now =>
      have matched := same now rfl
      obtain ⟨answers, remains⟩ := matched.tryAcquire messageId
      exact ⟨congrArg (some ∘ DispatchReply.acquired) answers,
        fun later ordered => remains later (ordered now rfl)⟩
  | acknowledge messageId =>
      exact ⟨rfl, fun later _ matched => matched.release messageId⟩
  | abandon messageId =>
      exact ⟨rfl, fun later _ matched => matched.release messageId⟩
  | releaseExpired now =>
      exact ⟨rfl, fun later ordered matched =>
        matched.sweepExpired (ordered now rfl)⟩
  | inFlightCount now =>
      exact ⟨congrArg (some ∘ DispatchReply.inFlight)
          (same now rfl).len_sweepExpired,
        fun later ordered matched => matched.sweepExpired (ordered now rfl)⟩
  | isAtCapacity now =>
      have matched := same now rfl
      refine ⟨?_, fun later ordered matched =>
        matched.sweepExpired (ordered now rfl)⟩
      simp [DispatchWindow.perform, DispatchWindow.isAtCapacity,
        DispatchWindow.inFlightCount, DispatchReply.ofCapacity,
        EagerWindow.perform, matched.len_sweepExpired, matched.maxInFlight]

/-- With a clock that does not run backwards, the calls answer as they do on
the reference. -/
theorem Matches.replies (calls : List DispatchCall)
    (ordered : (calls.filterMap DispatchCall.time).Pairwise (· ≤ ·))
    (same : ∀ now ∈ calls.filterMap DispatchCall.time,
      window.Matches eager now) :
    (window.replies calls).map DispatchReply.ofCapacity =
      eager.replies calls := by
  induction calls generalizing window eager with
  | nil => rfl
  | cons call rest induction =>
      have split : (call :: rest).filterMap DispatchCall.time =
          call.time.toList ++ rest.filterMap DispatchCall.time := by
        cases timed : call.time <;> simp [timed]
      rw [split] at ordered same
      obtain ⟨-, remaining, above⟩ := List.pairwise_append.mp ordered
      obtain ⟨answers, remains⟩ := Matches.perform call
        fun now member => same now
          (List.mem_append_left _ (Option.mem_toList.mpr member))
      rw [DispatchWindow.replies, EagerWindow.replies, Machine.answers_cons,
        Machine.answers_cons, List.map_cons, answers]
      congr 1
      apply induction remaining
      intro now member
      exact remains now
        (fun first timed => above first (Option.mem_toList.mpr timed) now
          member)
        (same now (List.mem_append_right _ member))

/-! At any times. -/

theorem len_sweepExpired_le (window : DispatchWindow) (now : UInt64) :
    HashMap.len (window.sweepExpired now).inFlight ≤
      HashMap.len window.inFlight :=
  HashMap.len_retain_le _ _

/-- The capacity of a window. -/
def Bounded (window : DispatchWindow) : Prop :=
  HashMap.len window.inFlight ≤ window.maxInFlight

theorem Bounded.sweepExpired (bounded : window.Bounded) (now : UInt64) :
    (window.sweepExpired now).Bounded :=
  (window.len_sweepExpired_le now).trans bounded

theorem Bounded.acknowledge (bounded : window.Bounded)
    (messageId : Bytes32) : (window.acknowledge messageId).2.Bounded :=
  (HashMap.len_erase_le _ _).trans bounded

theorem Bounded.tryAcquire (bounded : window.Bounded) (messageId : Bytes32)
    (now : UInt64) : (window.tryAcquire messageId now).2.Bounded := by
  unfold DispatchWindow.tryAcquire
  dsimp only
  split
  · exact bounded.sweepExpired now
  · split
    · exact bounded.sweepExpired now
    · rename_i room
      exact (HashMap.len_insert_le _ _ _).trans (Nat.lt_of_not_le room)

theorem Bounded.perform (bounded : window.Bounded) (call : DispatchCall) :
    (window.perform call).2.Bounded := by
  cases call with
  | tryAcquire messageId now => exact bounded.tryAcquire messageId now
  | acknowledge messageId => exact bounded.acknowledge messageId
  | abandon messageId => exact bounded.acknowledge messageId
  | releaseExpired now => exact bounded.sweepExpired now
  | inFlightCount now => exact bounded.sweepExpired now
  | isAtCapacity now => exact bounded.sweepExpired now

theorem maxInFlight_perform (window : DispatchWindow) (call : DispatchCall) :
    (window.perform call).2.maxInFlight = window.maxInFlight := by
  cases call with
  | tryAcquire messageId now =>
      show (window.tryAcquire messageId now).2.maxInFlight = _
      unfold DispatchWindow.tryAcquire
      dsimp only
      split
      · rfl
      · split <;> rfl
  | _ => rfl

theorem bounded_performAll (bounded : window.Bounded)
    (calls : List DispatchCall) :
    HashMap.len (window.performAll calls).inFlight ≤ window.maxInFlight := by
  induction calls generalizing window with
  | nil => exact bounded
  | cons call rest induction =>
      rw [← window.maxInFlight_perform call]
      exact induction (bounded.perform call)

/-- A refused call sweeps, and does nothing else. -/
theorem tryAcquire_refused {messageId : Bytes32} {error : SyncEngineError}
    (refused : (window.tryAcquire messageId now).1 = .error error) :
    (window.tryAcquire messageId now).2 = window.sweepExpired now := by
  unfold DispatchWindow.tryAcquire at refused ⊢
  dsimp only at refused ⊢
  split
  · rfl
  · split
    · rfl
    · rename_i missing room
      rw [if_neg missing, if_neg room] at refused
      cases refused

theorem lookup_sweepExpired {messageId : Bytes32} {entry : DispatchEntry}
    (held : window.inFlight.lookup messageId = some entry)
    (kept : unexpired window.timeoutSecs now entry = true) :
    (window.sweepExpired now).inFlight.lookup messageId = some entry := by
  rw [DispatchWindow.sweepExpired, HashMap.lookup_retain, held,
    Option.filter_some, if_pos kept]

end DispatchWindow

/-- A window answers like one that frees a slot at the moment its time is
over, as long as the clock does not run backwards. With any times it never
holds more than its capacity, holds no identifier twice, and refuses without
dropping an entry that has not expired. -/
theorem dispatchWindow_refines {maxInFlight : Nat} {timeoutSecs : UInt64}
    {window : DispatchWindow}
    (valid : DispatchWindow.new maxInFlight timeoutSecs = .ok window)
    (calls : List DispatchCall) :
    ((calls.filterMap DispatchCall.time).Pairwise (· ≤ ·) →
      (window.replies calls).map DispatchReply.ofCapacity =
        EagerWindow.replies ⟨maxInFlight, timeoutSecs, []⟩ calls) ∧
    HashMap.len (window.performAll calls).inFlight ≤ maxInFlight ∧
    ((window.performAll calls).inFlight.entries.map Sigma.fst).Nodup ∧
    ∀ messageId now error,
      ((window.performAll calls).tryAcquire messageId now).1 =
        .error error →
      ∀ other entry,
        (window.performAll calls).inFlight.lookup other = some entry →
        now.toNat - entry.dispatchedAt.toNat <
          (window.performAll calls).timeoutSecs.toNat →
        ((window.performAll calls).tryAcquire messageId
          now).2.inFlight.lookup other = some entry := by
  obtain rfl : ⟨maxInFlight, timeoutSecs, ∅⟩ = window := by
    unfold DispatchWindow.new at valid
    split at valid
    · cases valid
    · split at valid
      · cases valid
      · exact Except.ok.inj valid
  refine ⟨?_, ?_, ?_, ?_⟩
  · intro ordered
    exact DispatchWindow.Matches.replies calls ordered
      fun now _ => ⟨rfl, rfl, Expiry.represents_empty⟩
  · exact DispatchWindow.bounded_performAll (Nat.zero_le _) calls
  · exact Multiset.nodup_keys.mpr (Finmap.nodupKeys _)
  · intro messageId now error refused other entry held fresh
    rw [DispatchWindow.tryAcquire_refused refused]
    exact DispatchWindow.lookup_sweepExpired held
      (DispatchWindow.unexpired_iff.mpr fresh)

/-- A session that is never acknowledged fills its window until it times
out. -/
theorem dispatchWindow_refines_dead_session :
    let window : DispatchWindow := ⟨1, 60, ∅⟩
    let calls : List DispatchCall := [
      .tryAcquire (Vector.replicate 32 1) 1000,
      .tryAcquire (Vector.replicate 32 2) 1050,
      .isAtCapacity 1059,
      .tryAcquire (Vector.replicate 32 1) 1060,
      .acknowledge (Vector.replicate 32 1),
      .inFlightCount 1061]
    window.replies calls = [.acquired (.ok ()),
      .acquired (.error (.backpressureWindowFull 1)), .atCapacity true,
      .acquired (.ok ()), .released true, .inFlight 0] ∧
    (window.replies calls).map DispatchReply.ofCapacity =
      EagerWindow.replies ⟨1, 60, []⟩ calls ∧
    HashMap.len (window.performAll calls).inFlight ≤ 1 := by
  intro window calls
  have valid : DispatchWindow.new 1 60 = .ok window := rfl
  refine ⟨by decide +kernel, ?_, ?_⟩
  · exact (dispatchWindow_refines valid calls).1 (by decide)
  · exact (dispatchWindow_refines valid calls).2.1

end StellarConduit
