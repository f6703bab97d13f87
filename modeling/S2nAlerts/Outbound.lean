import S2nAlerts.Connection

/-!
# Queueing alerts to send

A connection has two one-alert slots, `reader_alert_out` for alerts the reader
decides to send and `writer_alert_out` for the close_notify of a graceful
shutdown.  A queue call writes the two bytes only into an empty slot, so a
pending alert is never replaced; in QUIC mode nothing is queued at all.  After
the record layer has sent a slot's alert it asks `s2n_alerts_close_if_fatal`
whether the connection must now close.
-/

namespace S2n

/-- `s2n_queue_writer_close_alert_warning`. -/
def queueWriterCloseAlertWarning (conn : Connection) : S2nResult × Connection :=
  let alert := [tlsAlertLevelWarning, tlsAlertCloseNotify]
  if conn.writerAlertOut.length ≠ 0 ∨ conn.closeNotifyQueued then (.ok (), conn)
  else if !alertsSupported conn then (.ok (), conn)
  else
    match stufferWrite conn.writerAlertOut alertLength alert with
    | .error e => (.error e, conn)
    | .ok out => (.ok (), { conn with writerAlertOut := out, closeNotifyQueued := true })

/-- `s2n_queue_reader_alert`. -/
def queueReaderAlert (conn : Connection) (level errorCode : UInt8) : S2nResult × Connection :=
  let alert := [level, errorCode]
  if conn.readerAlertOut.length ≠ 0 then (.ok (), conn)
  else if !alertsSupported conn then (.ok (), conn)
  else
    match stufferWrite conn.readerAlertOut alertLength alert with
    | .error e => (.error e, conn)
    | .ok out => (.ok (), { conn with readerAlertOut := out })

/-- `s2n_queue_reader_unsupported_protocol_version_alert`. -/
def queueReaderUnsupportedProtocolVersionAlert (conn : Connection) : S2nResult × Connection :=
  queueReaderAlert conn tlsAlertLevelFatal tlsAlertProtocolVersion

/-- `s2n_queue_reader_handshake_failure_alert`. -/
def queueReaderHandshakeFailureAlert (conn : Connection) : S2nResult × Connection :=
  queueReaderAlert conn tlsAlertLevelFatal tlsAlertHandshakeFailure

/-- `s2n_queue_reader_no_renegotiation_alert`: SSLv3 has no `no_renegotiation`
alert and refuses with a fatal `handshake_failure` instead. -/
def queueReaderNoRenegotiationAlert (conn : Connection) : S2nResult × Connection :=
  if conn.protocolVersion = sslv3 then
    queueReaderAlert conn tlsAlertLevelFatal tlsAlertHandshakeFailure
  else
    queueReaderAlert conn tlsAlertLevelWarning tlsAlertNoRenegotiation

/-- `s2n_alerts_close_if_fatal`, on the alert the record layer has just sent. -/
def alertsCloseIfFatal (conn : Connection) (alert : List UInt8) : S2nResult × Connection :=
  if alert.length ≠ alertLength then (.error errSafety, conn)
  else if alert.getD 1 0 = tlsAlertNoRenegotiation then
    if alert.getD 0 0 = tlsAlertLevelWarning then (.ok (), conn) else (.error errSafety, conn)
  else (.ok (), { conn with closing := true })

theorem queueWriterCloseAlertWarning_eq (conn : Connection) :
    queueWriterCloseAlertWarning conn =
      (.ok (), if conn.writerAlertOut = [] ∧ conn.closeNotifyQueued = false ∧
          conn.quicEnabled = false then
        { conn with writerAlertOut := [tlsAlertLevelWarning, tlsAlertCloseNotify],
                    closeNotifyQueued := true }
        else conn) := by
  unfold queueWriterCloseAlertWarning
  by_cases hw : conn.writerAlertOut = []
  · cases hq : conn.quicEnabled <;> cases hc : conn.closeNotifyQueued <;>
      simp [hw, hq, hc, alertsSupported, stufferWrite_nil, alertLength]
  · simp [hw]

theorem queueReaderAlert_eq (conn : Connection) (level errorCode : UInt8) :
    queueReaderAlert conn level errorCode =
      (.ok (), if conn.readerAlertOut = [] ∧ conn.quicEnabled = false then
        { conn with readerAlertOut := [level, errorCode] } else conn) := by
  unfold queueReaderAlert
  by_cases hr : conn.readerAlertOut = []
  · cases hq : conn.quicEnabled <;> simp [hr, hq, alertsSupported, stufferWrite_nil, alertLength]
  · simp [hr]

end S2n
