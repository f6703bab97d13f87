import Mathlib.Tactic.SplitIfs
import S2nAlerts.ReaderInvariant

/-!
# The reader as a function of the byte stream

What `s2n_process_alert_fragment` is for, stated without records: the peer's
alert channel is one stream of bytes, its first two bytes are the alert, and
that alert alone decides what happens to the connection.  Fewer than two bytes
are kept until the rest arrives.

The main theorem shows that the code refines this model: over any
sequence of records, however the stream is cut into them (empty records
included), the reader ends as `Connection.readAlertStream` says, provided the
alert is not a warning that the code tolerates.  That proviso is where the
code and the model part: a tolerated warning ends the call and leaves the rest
of its record unread.
-/

namespace S2n

/-- The reader's intended effect on a connection that has seen the bytes
`stream`: no alert yet while fewer than two bytes have come; then the first
two bytes close the connection, marking a close_notify as received and
expiring a cached session for any other alert. -/
def Connection.readAlertStream (conn : Connection) (stream : List UInt8) : Connection :=
  if stream.length < 2 then { conn with alertIn := stream }
  else if (stream.take 2).getD 1 0 = tlsAlertCloseNotify then
    { conn with alertIn := stream.take 2, closed := true, closeNotifyReceived := true }
  else
    { conn with alertIn := stream.take 2, closed := true,
                cacheDeleteCalls := if conn.allowedToCache = true ∧ conn.sessionId ≠ [] then
                  conn.cacheDeleteCalls ++ [conn.sessionId] else conn.cacheDeleteCalls }

theorem Connection.readAlertStream_readerView (conn : Connection) (input alertIn : List UInt8)
    (stream : List UInt8) :
    (Connection.readAlertStream { conn with «in» := input, alertIn := alertIn } stream).readerView =
      (conn.readAlertStream stream).readerView := by
  unfold Connection.readAlertStream
  split_ifs <;> rfl

/-- Outside QUIC, and unless the alert is a warning the code tolerates, the
reader ends over any sequence of records as the stream model says for the
bytes of `alert_in` followed by all the records' bytes. -/
theorem run_records_readerView (conn : Connection) (h : conn.alertIn.length ≤ 1)
    (hq : conn.quicEnabled = false) (records : List (List UInt8))
    (hstrict : 2 ≤ (conn.alertIn ++ records.flatten).length →
      ((conn.alertIn ++ records.flatten).take 2).getD 1 0 ≠ tlsAlertCloseNotify →
      processAsWarning conn (((conn.alertIn ++ records.flatten).take 2).getD 0 0)
        (((conn.alertIn ++ records.flatten).take 2).getD 1 0) = false) :
    (run conn (records.map .recvAlertRecord)).readerView =
      (conn.readAlertStream (conn.alertIn ++ records.flatten)).readerView := by
  induction records generalizing conn with
  | nil =>
    simp only [List.map_nil, run_nil, List.flatten_nil, List.append_nil, Connection.readAlertStream,
      if_pos (show conn.alertIn.length < 2 by omega)]
  | cons record records ih =>
    rw [List.flatten_cons, ← List.append_assoc] at hstrict ⊢
    rw [List.map_cons, run_cons, AlertOp.step]
    by_cases hs : conn.alertIn.length + record.length < 2
    · -- the record is buffered: the stream goes on from `alert_in ++ record`
      have hstep : (processAlertFragment { conn with «in» := record }).2 =
          { conn with «in» := [], alertIn := conn.alertIn ++ record } := by
        by_cases hne : record = []
        · subst hne
          rw [processAlertFragment_of_in_nil rfl, List.append_nil]
        · rw [processAlertFragment_of_short { conn with «in» := record } hne hq hs]
      have h' : (conn.alertIn ++ record).length ≤ 1 := by simp only [List.length_append]; omega
      rw [hstep, ih { conn with «in» := [], alertIn := conn.alertIn ++ record } h' hq hstrict,
        Connection.readAlertStream_readerView]
    · -- the record completes the alert, which closes the connection
      have hw : 2 ≤ conn.alertIn.length + record.length := by omega
      have hlen : ((conn.alertIn ++ record).take 2).length = 2 := by
        simp only [List.length_take, List.length_append]; omega
      have htake : (conn.alertIn ++ record ++ records.flatten).take 2 = (conn.alertIn ++ record).take 2 :=
        List.take_append_of_le_length (by simp only [List.length_append]; omega)
      have hlong : ¬(conn.alertIn ++ record ++ records.flatten).length < 2 := by
        simp only [List.length_append]; omega
      rw [htake] at hstrict
      rw [processAlertFragment_of_long { conn with «in» := record } h hq hw]
      dsimp only
      unfold Connection.readAlertStream
      rw [if_neg hlong, htake]
      rcases dispatchAlert_cases { conn with «in» := record.drop (2 - conn.alertIn.length),
                                             alertIn := (conn.alertIn ++ record).take 2 } with
        ⟨hc, hd⟩ | ⟨hc, hw', -⟩ | ⟨hc, -, hd⟩
      · rw [hd, run_readerView_of_whole hlen _, if_pos hc]
        rfl
      · cases hw'.symm.trans (hstrict (by simp only [List.length_append]; omega) hc)
      · rw [hd, run_readerView_of_whole hlen _, if_neg hc]
        simp [Connection.readerView]

/-- A fatal `handshake_failure` cut after its first byte, with an empty record
between the halves and a close_notify behind it. -/
theorem run_records_readerView_split_fatal :
    let conn : Connection :=
      { «in» := [], alertIn := [], closed := false, closeNotifyReceived := false, closing := false,
        writerAlertOut := [], readerAlertOut := [], closeNotifyQueued := false,
        protocolVersion := 33, alertBehavior := .failOnWarnings, quicEnabled := false,
        allowedToCache := true, sessionId := [7], cacheDeleteCalls := [] }
    (run conn ([[2], [], [40, 1], [0]].map .recvAlertRecord)).readerView =
      (conn.readAlertStream [2, 40, 1, 0]).readerView := by
  intro conn
  exact run_records_readerView conn (by decide) rfl _ (by decide)

end S2n
