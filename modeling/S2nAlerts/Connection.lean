import S2nAlerts.Errno

/-!
# The connection state the alert code reads and writes

The alert code sees a connection through a handful of stuffers and flags.
Every stuffer it touches is a static one over a two-byte array
(`alert_in_data`, `reader_alert_out_data`, `writer_alert_out_data`) except the
record stuffer `in`, which it only reads.  A stuffer is modelled by the bytes
between its read and its write cursor; for the three alert stuffers nothing
reads through the cursor, so these are the bytes written since the last wipe.

The session cache is outside the library: the model records the session ids
handed to `config->cache_delete`, oldest first.
-/

namespace S2n

/-- `S2N_TLS_ALERT_LEVEL_WARNING`. -/
def tlsAlertLevelWarning : UInt8 := 1
/-- `S2N_TLS_ALERT_LEVEL_FATAL`. -/
def tlsAlertLevelFatal : UInt8 := 2

/-! The alert codes are declared in `s2n_tls_parameters.h`, which is not among
this repository's files; their values are those the spec lists. -/

/-- Modelled from the spec: `S2N_TLS_ALERT_CLOSE_NOTIFY`. -/
def tlsAlertCloseNotify : UInt8 := 0
/-- Modelled from the spec: `S2N_TLS_ALERT_UNEXPECTED_MESSAGE`. -/
def tlsAlertUnexpectedMessage : UInt8 := 10
/-- Modelled from the spec: `S2N_TLS_ALERT_HANDSHAKE_FAILURE`. -/
def tlsAlertHandshakeFailure : UInt8 := 40
/-- Modelled from the spec: `S2N_TLS_ALERT_PROTOCOL_VERSION`. -/
def tlsAlertProtocolVersion : UInt8 := 70
/-- Modelled from the spec: `S2N_TLS_ALERT_INTERNAL_ERROR`. -/
def tlsAlertInternalError : UInt8 := 80
/-- Modelled from the spec: `S2N_TLS_ALERT_USER_CANCELED`. -/
def tlsAlertUserCanceled : UInt8 := 90
/-- Modelled from the spec: `S2N_TLS_ALERT_NO_RENEGOTIATION`. -/
def tlsAlertNoRenegotiation : UInt8 := 100
/-- Modelled from the spec: `S2N_TLS_ALERT_MISSING_EXTENSION`. -/
def tlsAlertMissingExtension : UInt8 := 109

/-- Modelled from the spec: `S2N_ALERT_LENGTH`, two bytes on the wire. -/
def alertLength : Nat := 2

/-- Modelled from the spec: `S2N_SSLv3`, with the number of the library's public
header (not among this repository's files). -/
def sslv3 : UInt8 := 30
/-- Modelled from the spec: `S2N_TLS13`, with the number of the library's public
header. -/
def tls13 : UInt8 := 34

/-- `s2n_alert_behavior`. -/
inductive AlertBehavior
  | failOnWarnings
  | ignoreWarnings
  deriving DecidableEq, Repr

/-- The fields of `struct s2n_connection`, and of its config, that the alert
code reads or writes. -/
structure Connection where
  /-- `conn->in`: the unread bytes of the current record. -/
  «in» : List UInt8
  /-- `conn->alert_in`: `alert_in_data[0]`, `alert_in_data[1]` as far as written. -/
  alertIn : List UInt8
  closed : Bool
  closeNotifyReceived : Bool
  closing : Bool
  writerAlertOut : List UInt8
  readerAlertOut : List UInt8
  closeNotifyQueued : Bool
  /-- What `s2n_connection_get_protocol_version` returns. -/
  protocolVersion : UInt8
  /-- `conn->config->alert_behavior`. -/
  alertBehavior : AlertBehavior
  /-- What `s2n_connection_is_quic_enabled` returns. -/
  quicEnabled : Bool
  /-- What `s2n_allowed_to_cache_connection` returns. -/
  allowedToCache : Bool
  /-- `conn->session_id[0 .. session_id_len)`. -/
  sessionId : List UInt8
  /-- The session ids passed to `conn->config->cache_delete`, oldest first. -/
  cacheDeleteCalls : List (List UInt8)
  deriving DecidableEq, Repr

/-- `s2n_alerts_supported`: in QUIC mode QUIC handles alerting. -/
def alertsSupported (conn : Connection) : Bool :=
  !conn.quicEnabled

/-- Modelled from the spec: `s2n_stuffer_copy(from, to, len)` where `to` is a
static stuffer of `capacity` bytes (`s2n_stuffer.c` is not among this
repository's files).  On failure both cursors are restored. -/
def stufferCopy (src dst : List UInt8) (capacity len : Nat) :
    Except (BitVec 32) (List UInt8 × List UInt8) :=
  if src.length < len then .error errStufferOutOfData
  else if capacity < dst.length + len then .error errStufferIsFull
  else .ok (src.drop len, dst ++ src.take len)

/-- Modelled from the spec: `s2n_stuffer_write(to, data)` into a static stuffer
of `capacity` bytes. -/
def stufferWrite (dst : List UInt8) (capacity : Nat) (data : List UInt8) :
    Except (BitVec 32) (List UInt8) :=
  if capacity < dst.length + data.length then .error errStufferIsFull
  else .ok (dst ++ data)

theorem stufferCopy_of_le {src dst : List UInt8} {capacity len : Nat}
    (hsrc : len ≤ src.length) (hdst : dst.length + len ≤ capacity) :
    stufferCopy src dst capacity len = .ok (src.drop len, dst ++ src.take len) := by
  simp only [stufferCopy, if_neg (Nat.not_lt.mpr hsrc), if_neg (Nat.not_lt.mpr hdst)]

theorem stufferWrite_nil {capacity : Nat} {data : List UInt8} (h : data.length ≤ capacity) :
    stufferWrite [] capacity data = .ok data := by
  simp [stufferWrite, Nat.not_lt.mpr h]

end S2n
