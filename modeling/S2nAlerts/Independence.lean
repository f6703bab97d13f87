import Mathlib.Tactic.SplitIfs
import S2nAlerts.Run

/-!
# The reader and the queues do not interfere

`s2n_process_alert_fragment` reads and writes no field of the two alert slots
and does not read `closing`, and the queue calls and the record layer's drains,
with the `s2n_alerts_close_if_fatal` call after each send, read and write no
field of the reader.  So over any run the reader ends as it would have ended
had no alert been queued or sent, and the slots end as they would have ended
had no record arrived.  Only the protocol version is read by both sides.

Each side is compared through an erasure that forgets the other side's fields:
a step of one side commutes with erasing the other side's fields, and a step of
the other side is invisible after the erasure.
-/

namespace S2n

/-- The connection with both slots empty and `close_notify_queued` and
`closing` clear. -/
def Connection.eraseQueues (conn : Connection) : Connection :=
  { conn with writerAlertOut := [], readerAlertOut := [], closeNotifyQueued := false, closing := false }

/-- The connection with no record read and no alert received. -/
def Connection.eraseReader (conn : Connection) : Connection :=
  { conn with «in» := [], alertIn := [], closed := false, closeNotifyReceived := false,
              cacheDeleteCalls := [] }

/-- What the reader reads: a record, or a change of the protocol version. -/
def AlertOp.isReaderInput : AlertOp → Bool
  | .recvAlertRecord _ | .setProtocolVersion _ => true
  | _ => false

/-! ## The reader does not see the queues -/

theorem dispatchAlert_eraseQueues (conn : Connection) :
    dispatchAlert conn.eraseQueues = ((dispatchAlert conn).1, (dispatchAlert conn).2.eraseQueues) := by
  have hw : processAsWarning conn.eraseQueues = processAsWarning conn := rfl
  unfold dispatchAlert
  rw [hw]
  simp only [Connection.eraseQueues]
  split_ifs <;> rfl

theorem readAlert_eraseQueues (conn : Connection) (h : conn.alertIn.length ≤ 1) :
    readAlert conn.eraseQueues = ((readAlert conn).1, (readAlert conn).2.eraseQueues) := by
  rcases readAlert_cases conn h with ⟨hs, hr⟩ | ⟨hw, hr⟩
  · rw [hr, @readAlert_of_short conn.eraseQueues hs]; rfl
  · rw [hr, @readAlert_of_whole conn.eraseQueues h hw]
    exact dispatchAlert_eraseQueues
      { conn with «in» := conn.«in».drop (2 - conn.alertIn.length),
                  alertIn := (conn.alertIn ++ conn.«in»).take 2 }

theorem processAlertFragment_eraseQueues (conn : Connection) :
    processAlertFragment conn.eraseQueues =
      ((processAlertFragment conn).1, (processAlertFragment conn).2.eraseQueues) := by
  rcases Nat.lt_or_ge 2 conn.alertIn.length with h | h
  · rw [processAlertFragment_of_overfull conn h, processAlertFragment_of_overfull conn.eraseQueues h]
    rfl
  rcases processAlertFragment_cases conn h with
    ⟨hin, he⟩ | ⟨hin, h2, he⟩ | ⟨hin, h1, hq, he⟩ | ⟨hin, h1, hq, he⟩ <;> rw [he]
  · exact processAlertFragment_of_in_nil hin
  · exact processAlertFragment_of_full hin h2
  · exact processAlertFragment_of_quic conn.eraseQueues hin (show conn.alertIn.length ≠ 2 by omega) hq
  · rw [processAlertFragment_of_ready conn.eraseQueues h1 hin hq]
    exact readAlert_eraseQueues conn h1

theorem AlertOp.step_eraseQueues {op : AlertOp} (h : op.isReaderInput = true) (conn : Connection) :
    op.step conn.eraseQueues = ((op.step conn).1, (op.step conn).2.eraseQueues) := by
  cases op with
  | recvAlertRecord record => exact processAlertFragment_eraseQueues { conn with «in» := record }
  | setProtocolVersion version => rfl
  | _ => cases h

theorem AlertOp.eraseQueues_step {op : AlertOp} (h : op.isReaderInput = false) (conn : Connection) :
    (op.step conn).2.eraseQueues = conn.eraseQueues := by
  cases op with
  | queue call =>
    show (call.run conn).2.eraseQueues = conn.eraseQueues
    rw [QueueCall.run_frame]
    rfl
  | drainWriterAlertOut =>
    exact (congrArg Connection.eraseQueues (AlertOp.drainWriterAlertOut_step conn)).trans rfl
  | drainReaderAlertOut =>
    exact (congrArg Connection.eraseQueues (AlertOp.drainReaderAlertOut_step conn)).trans rfl
  | _ => cases h

theorem run_eraseQueues {ops : List AlertOp} (h : ∀ op ∈ ops, op.isReaderInput = true)
    (conn : Connection) : (run conn ops).eraseQueues = run conn.eraseQueues ops := by
  induction ops generalizing conn with
  | nil => rfl
  | cons op ops ih =>
    rw [run_cons, run_cons, AlertOp.step_eraseQueues (h op (List.mem_cons_self _ _)),
      ih (fun op' hop => h op' (List.mem_cons_of_mem _ hop))]

/-- Queue calls and sends change nothing the reader sees: with the slots and
the `closing` flag forgotten, every run ends where the run of its records and
version changes alone ends, and every record then gets the same result. -/
theorem reader_independent_of_queues (conn : Connection) (ops : List AlertOp) :
    (run conn ops).eraseQueues = (run conn (ops.filter AlertOp.isReaderInput)).eraseQueues ∧
    ∀ record, (processAlertFragment { run conn ops with «in» := record }).1 =
      (processAlertFragment { run conn (ops.filter AlertOp.isReaderInput) with «in» := record }).1 := by
  have hrun : ∀ conn, (run conn ops).eraseQueues =
      (run conn (ops.filter AlertOp.isReaderInput)).eraseQueues := by
    induction ops with
    | nil => exact fun _ => rfl
    | cons op ops ih =>
      intro conn
      have hall : ∀ op ∈ ops.filter AlertOp.isReaderInput, op.isReaderInput = true :=
        fun op hop => (List.mem_filter.mp hop).2
      cases hop : op.isReaderInput
      · rw [List.filter_cons_of_neg (by simp [hop]), run_cons, ih, run_eraseQueues hall,
          AlertOp.eraseQueues_step hop, ← run_eraseQueues hall]
      · rw [List.filter_cons_of_pos hop, run_cons, run_cons, ih]
  refine ⟨hrun conn, fun record => ?_⟩
  have key := congrArg Prod.fst
    (processAlertFragment_eraseQueues { run conn ops with «in» := record })
  have key' := congrArg Prod.fst
    (processAlertFragment_eraseQueues { run conn (ops.filter AlertOp.isReaderInput) with «in» := record })
  rw [← key, ← key']
  show (processAlertFragment { (run conn ops).eraseQueues with «in» := record }).1 =
    (processAlertFragment { (run conn (ops.filter AlertOp.isReaderInput)).eraseQueues with «in» := record }).1
  rw [hrun conn]

/-! ## The queues do not see the reader -/

theorem QueueCall.run_eraseReader (call : QueueCall) (conn : Connection) :
    (call.run conn.eraseReader).2 = (call.run conn).2.eraseReader := by
  cases call <;>
    simp only [QueueCall.run, queueWriterCloseAlertWarning_eq, queueReaderUnsupportedProtocolVersionAlert,
      queueReaderHandshakeFailureAlert, queueReaderNoRenegotiationAlert, queueReaderAlert_eq,
      Connection.eraseReader] <;>
    split_ifs <;> rfl

theorem drainAlertOut_closing (alert : List UInt8) {e₁ e₂ : Connection} (h : e₁.closing = e₂.closing) :
    (drainAlertOut alert e₁).2.closing = (drainAlertOut alert e₂).2.closing := by
  unfold drainAlertOut alertsCloseIfFatal
  split_ifs <;> first | rfl | exact h

theorem AlertOp.step_eraseReader {op : AlertOp} (h : op.isRecord = false) (conn : Connection) :
    (op.step conn.eraseReader).2 = (op.step conn).2.eraseReader := by
  cases op with
  | queue call => exact QueueCall.run_eraseReader call conn
  | recvAlertRecord record => cases h
  | setProtocolVersion version => rfl
  | drainWriterAlertOut =>
    have hc : (AlertOp.drainWriterAlertOut.step conn.eraseReader).2.closing =
        (AlertOp.drainWriterAlertOut.step conn).2.closing := drainAlertOut_closing _ rfl
    rw [AlertOp.drainWriterAlertOut_step conn.eraseReader, AlertOp.drainWriterAlertOut_step conn, hc]
    rfl
  | drainReaderAlertOut =>
    have hc : (AlertOp.drainReaderAlertOut.step conn.eraseReader).2.closing =
        (AlertOp.drainReaderAlertOut.step conn).2.closing := drainAlertOut_closing _ rfl
    rw [AlertOp.drainReaderAlertOut_step conn.eraseReader, AlertOp.drainReaderAlertOut_step conn, hc]
    rfl

theorem AlertOp.eraseReader_step {op : AlertOp} (h : op.isRecord = true) (conn : Connection) :
    (op.step conn).2.eraseReader = conn.eraseReader := by
  cases op with
  | recvAlertRecord record =>
    show (processAlertFragment { conn with «in» := record }).2.eraseReader = conn.eraseReader
    rw [processAlertFragment_frame]
    rfl
  | _ => cases h

theorem run_eraseReader {ops : List AlertOp} (h : ∀ op ∈ ops, op.isRecord = false)
    (conn : Connection) : (run conn ops).eraseReader = run conn.eraseReader ops := by
  induction ops generalizing conn with
  | nil => rfl
  | cons op ops ih =>
    rw [run_cons, run_cons, AlertOp.step_eraseReader (h op (List.mem_cons_self _ _)),
      ih (fun op' hop => h op' (List.mem_cons_of_mem _ hop))]

/-- Records change nothing the queues see: with the reader forgotten, every run
ends where the run of its queue calls, drains and version changes alone ends. -/
theorem queues_independent_of_reader (conn : Connection) (ops : List AlertOp) :
    (run conn ops).eraseReader = (run conn (ops.filter fun op => !op.isRecord)).eraseReader := by
  induction ops generalizing conn with
  | nil => rfl
  | cons op ops ih =>
    have hall : ∀ op ∈ ops.filter (fun op => !op.isRecord), op.isRecord = false :=
      fun op hop => by simpa using (List.mem_filter.mp hop).2
    cases hop : op.isRecord
    · rw [List.filter_cons_of_pos (by simp [hop]), run_cons, run_cons, ih]
    · rw [List.filter_cons_of_neg (by simp [hop]), run_cons, ih, run_eraseReader hall,
        AlertOp.eraseReader_step hop, ← run_eraseReader hall]

end S2n
