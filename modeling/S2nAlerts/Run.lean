import S2nAlerts.Inbound
import S2nAlerts.Outbound

/-!
# Runs of the alert engine

A run interleaves, in any order, the calls of `s2n_alerts.c` that change a
connection with what the rest of the library does to it between them: the
record layer hands a record to `s2n_process_alert_fragment`, sends and empties
a queued alert slot and then calls `s2n_alerts_close_if_fatal` on what it sent,
and the handshake settles the protocol version.  The record layer itself is
not part of this code; the steps say only how it calls into it.

The frame lemmas here say which fields each kind of step can touch.  The
reader's and the writer's invariants are proved from them, one step at a time.
-/

namespace S2n

/-- The four queueing entry points. -/
inductive QueueCall
  | writerCloseAlertWarning
  | readerUnsupportedProtocolVersionAlert
  | readerHandshakeFailureAlert
  | readerNoRenegotiationAlert
  deriving DecidableEq, Repr

/-- The queueing function a call runs. -/
def QueueCall.run : QueueCall → Connection → S2nResult × Connection
  | .writerCloseAlertWarning => queueWriterCloseAlertWarning
  | .readerUnsupportedProtocolVersionAlert => queueReaderUnsupportedProtocolVersionAlert
  | .readerHandshakeFailureAlert => queueReaderHandshakeFailureAlert
  | .readerNoRenegotiationAlert => queueReaderNoRenegotiationAlert

/-- The record layer sends the alert a slot held, with the slot already
emptied in `emptied`, and asks `s2n_alerts_close_if_fatal` whether the
connection must now close.  An empty slot sends nothing. -/
def drainAlertOut (alert : List UInt8) (emptied : Connection) : S2nResult × Connection :=
  if alert = [] then (.ok (), emptied) else alertsCloseIfFatal emptied alert

@[simp] theorem drainAlertOut_nil (emptied : Connection) : drainAlertOut [] emptied = (.ok (), emptied) :=
  rfl

/-- One step of a run. -/
inductive AlertOp
  /-- The record layer puts a record of alert type in `conn->in` and calls
  `s2n_process_alert_fragment`. -/
  | recvAlertRecord (record : List UInt8)
  | queue (call : QueueCall)
  /-- The record layer sends `writer_alert_out` and empties it. -/
  | drainWriterAlertOut
  /-- The record layer sends `reader_alert_out` and empties it. -/
  | drainReaderAlertOut
  /-- The handshake changes what `s2n_connection_get_protocol_version` returns. -/
  | setProtocolVersion (version : UInt8)
  deriving DecidableEq, Repr

/-- The result and the connection after one step. -/
def AlertOp.step : AlertOp → Connection → S2nResult × Connection
  | .recvAlertRecord record, conn => processAlertFragment { conn with «in» := record }
  | .queue call, conn => call.run conn
  | .drainWriterAlertOut, conn => drainAlertOut conn.writerAlertOut { conn with writerAlertOut := [] }
  | .drainReaderAlertOut, conn => drainAlertOut conn.readerAlertOut { conn with readerAlertOut := [] }
  | .setProtocolVersion version, conn => (.ok (), { conn with protocolVersion := version })

/-- A record: the only step that runs the reader. -/
def AlertOp.isRecord : AlertOp → Bool
  | .recvAlertRecord _ => true
  | _ => false

/-- The connection after a run. -/
def run (conn : Connection) : List AlertOp → Connection
  | [] => conn
  | op :: ops => run (op.step conn).2 ops

@[simp] theorem run_nil (conn : Connection) : run conn [] = conn := rfl

@[simp] theorem run_cons (conn : Connection) (op : AlertOp) (ops : List AlertOp) :
    run conn (op :: ops) = run (op.step conn).2 ops := rfl

/-- The result of each step of a run, in order. -/
def runResults (conn : Connection) : List AlertOp → List S2nResult
  | [] => []
  | op :: ops => (op.step conn).1 :: runResults (op.step conn).2 ops

@[simp] theorem runResults_nil (conn : Connection) : runResults conn [] = [] := rfl

@[simp] theorem runResults_cons (conn : Connection) (op : AlertOp) (ops : List AlertOp) :
    runResults conn (op :: ops) = (op.step conn).1 :: runResults (op.step conn).2 ops := rfl

theorem run_append (conn : Connection) (ops ops' : List AlertOp) :
    run conn (ops ++ ops') = run (run conn ops) ops' := by
  induction ops generalizing conn with
  | nil => rfl
  | cons op ops ih => exact ih _

theorem run_induction {P : Connection → Prop}
    (hstep : ∀ (conn : Connection) (op : AlertOp), P conn → P (op.step conn).2)
    {conn : Connection} (h : P conn) (ops : List AlertOp) : P (run conn ops) := by
  induction ops generalizing conn with
  | nil => exact h
  | cons op ops ih => exact ih (hstep conn op h)

/-! ## Frames -/

/-- The fields only the reader writes, and the configuration it reads. -/
def Connection.readerView (conn : Connection) :
    List UInt8 × Bool × Bool × List (List UInt8) × List UInt8 :=
  (conn.alertIn, conn.closed, conn.closeNotifyReceived, conn.cacheDeleteCalls, conn.sessionId)

/-- The fields the queue calls read and write. -/
def Connection.queueView (conn : Connection) : List UInt8 × List UInt8 × Bool × Bool :=
  (conn.writerAlertOut, conn.readerAlertOut, conn.closeNotifyQueued, conn.quicEnabled)

theorem QueueCall.run_ok (call : QueueCall) (conn : Connection) : (call.run conn).1 = .ok () := by
  cases call <;>
    simp only [QueueCall.run, queueWriterCloseAlertWarning_eq, queueReaderUnsupportedProtocolVersionAlert,
      queueReaderHandshakeFailureAlert, queueReaderNoRenegotiationAlert, queueReaderAlert_eq]
  split <;> rfl

theorem QueueCall.run_frame (call : QueueCall) (conn : Connection) :
    (call.run conn).2 =
      { conn with writerAlertOut := (call.run conn).2.writerAlertOut,
                  readerAlertOut := (call.run conn).2.readerAlertOut,
                  closeNotifyQueued := (call.run conn).2.closeNotifyQueued } := by
  cases call <;>
    simp only [QueueCall.run, queueWriterCloseAlertWarning_eq, queueReaderUnsupportedProtocolVersionAlert,
      queueReaderHandshakeFailureAlert, queueReaderNoRenegotiationAlert, queueReaderAlert_eq] <;>
    repeat' split
  all_goals rfl

theorem QueueCall.readerView_run (call : QueueCall) (conn : Connection) :
    (call.run conn).2.readerView = conn.readerView := by
  rw [QueueCall.run_frame]
  rfl

theorem drainAlertOut_frame (alert : List UInt8) (emptied : Connection) :
    ((drainAlertOut alert emptied).1 = .ok () ∨ (drainAlertOut alert emptied).1 = .error errSafety) ∧
    (drainAlertOut alert emptied).2 =
      { emptied with closing := (drainAlertOut alert emptied).2.closing } := by
  unfold drainAlertOut alertsCloseIfFatal
  repeat' split
  all_goals simp

theorem AlertOp.drainWriterAlertOut_step (conn : Connection) :
    (AlertOp.drainWriterAlertOut.step conn).2 =
      { conn with writerAlertOut := [], closing := (AlertOp.drainWriterAlertOut.step conn).2.closing } :=
  (drainAlertOut_frame _ _).2

theorem AlertOp.drainReaderAlertOut_step (conn : Connection) :
    (AlertOp.drainReaderAlertOut.step conn).2 =
      { conn with readerAlertOut := [], closing := (AlertOp.drainReaderAlertOut.step conn).2.closing } :=
  (drainAlertOut_frame _ _).2

theorem AlertOp.step_result {op : AlertOp} (h : op.isRecord = false) (conn : Connection) :
    (op.step conn).1 = .ok () ∨ (op.step conn).1 = .error errSafety := by
  cases op with
  | recvAlertRecord record => cases h
  | queue call => exact .inl (call.run_ok conn)
  | setProtocolVersion version => exact .inl rfl
  | _ => exact (drainAlertOut_frame _ _).1

theorem AlertOp.readerView_step {op : AlertOp} (h : op.isRecord = false) (conn : Connection) :
    (op.step conn).2.readerView = conn.readerView := by
  cases op with
  | recvAlertRecord record => cases h
  | queue call => exact call.readerView_run conn
  | drainWriterAlertOut =>
    exact (congrArg Connection.readerView (AlertOp.drainWriterAlertOut_step conn)).trans rfl
  | drainReaderAlertOut =>
    exact (congrArg Connection.readerView (AlertOp.drainReaderAlertOut_step conn)).trans rfl
  | setProtocolVersion version => rfl

theorem processAlertFragment_frame (conn : Connection) :
    (processAlertFragment conn).2 =
      { conn with «in» := (processAlertFragment conn).2.«in»,
                  alertIn := (processAlertFragment conn).2.alertIn,
                  closed := (processAlertFragment conn).2.closed,
                  closeNotifyReceived := (processAlertFragment conn).2.closeNotifyReceived,
                  cacheDeleteCalls := (processAlertFragment conn).2.cacheDeleteCalls } := by
  rcases Nat.lt_or_ge 2 conn.alertIn.length with h | h
  · rw [processAlertFragment_of_overfull conn h]
  rcases processAlertFragment_cases conn h with ⟨-, he⟩ | ⟨-, -, he⟩ | ⟨-, -, -, he⟩ | ⟨-, h1, -, he⟩
  · rw [he]
  · rw [he]
  · rw [he]
  rw [he]
  rcases readAlert_cases conn h1 with ⟨-, hr⟩ | ⟨-, hr⟩
  · rw [hr]
  rw [hr]
  rcases dispatchAlert_cases _ with ⟨-, hd⟩ | ⟨-, -, hd⟩ | ⟨-, -, hd⟩ <;> rw [hd]

theorem queueView_processAlertFragment (conn : Connection) :
    (processAlertFragment conn).2.queueView = conn.queueView := by
  rw [processAlertFragment_frame conn]
  rfl

end S2n
